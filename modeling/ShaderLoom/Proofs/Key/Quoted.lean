import Mathlib.Data.Nat.Digits.Defs
import Mathlib.Tactic.Ring
import ShaderLoom.Value.KeyText

/-!
# Texts between double quotes

No escape of a character is the front of another one, and none starts with a double quote. So where
a quoted text stands in front of other text, it is told apart from what follows
(`quotedChars_append_inj`).
-/

namespace ShaderLoom

open Text

/-! ### Digits of a fixed width -/

lemma digitChar_inj {m n : ℕ} (hm : m < 16) (hn : n < 16)
    (h : Nat.digitChar m = Nat.digitChar n) : m = n := by
  have hall : ∀ m < 16, ∀ n < 16, Nat.digitChar m = Nat.digitChar n → m = n := by decide
  exact hall m hm n hn h

lemma hexDigits_one {n : ℕ} (h : n < 16) : hexDigits 1 n = [Nat.digitChar n] := by
  simp [hexDigits, Nat.toDigits_of_lt_base h]

lemma hexDigits_succ {w : ℕ} (hw : 0 < w) (n : ℕ) :
    hexDigits (w + 1) n = hexDigits w (n / 16) ++ [Nat.digitChar (n % 16)] := by
  by_cases hn : n < 16
  · obtain ⟨w, rfl⟩ : ∃ v, w = v + 1 := ⟨w - 1, by omega⟩
    have hzero : n / 16 = 0 := by omega
    have hrest : n % 16 = n := by omega
    simp [hexDigits, Nat.toDigits_of_lt_base hn, hzero, hrest, List.replicate_succ']
  · have hdigits : Nat.toDigits 16 n = Nat.toDigits 16 (n / 16) ++ [Nat.digitChar (n % 16)] := by
      rw [Nat.toDigits_eq_if (by decide), if_neg hn]
    simp [hexDigits, hdigits]

lemma length_hexDigits {w n : ℕ} (hn : n < 16 ^ (w + 1)) :
    (hexDigits (w + 1) n).length = w + 1 := by
  induction w generalizing n with
  | zero => rw [hexDigits_one (by simpa using hn), List.length_singleton]
  | succ w ih =>
    have hdiv : n / 16 < 16 ^ (w + 1) := by
      rw [Nat.div_lt_iff_lt_mul (by decide)]
      rwa [pow_succ] at hn
    rw [hexDigits_succ (by omega), List.length_append, ih hdiv, List.length_singleton]

lemma hexDigits_inj {w m n : ℕ} (hm : m < 16 ^ (w + 1)) (hn : n < 16 ^ (w + 1))
    (h : hexDigits (w + 1) m = hexDigits (w + 1) n) : m = n := by
  induction w generalizing m n with
  | zero =>
    have hm : m < 16 := by simpa using hm
    have hn : n < 16 := by simpa using hn
    rw [hexDigits_one hm, hexDigits_one hn] at h
    exact digitChar_inj hm hn (List.singleton_inj.1 h)
  | succ w ih =>
    rw [hexDigits_succ (Nat.succ_pos w) m, hexDigits_succ (Nat.succ_pos w) n] at h
    obtain ⟨hfront, hlast⟩ := List.append_inj' h rfl
    have hdiv : ∀ k < 16 ^ (w + 1 + 1), k / 16 < 16 ^ (w + 1) := by
      intro k hk
      rw [Nat.div_lt_iff_lt_mul (by decide)]
      rwa [pow_succ] at hk
    have hquotient := ih (hdiv m hm) (hdiv n hn) hfront
    have hrest := digitChar_inj (Nat.mod_lt m (by decide)) (Nat.mod_lt n (by decide))
      (List.singleton_inj.1 hlast)
    omega

lemma unitEscape_append_inj {m n : ℕ} (hm : m < 0x10000) (hn : n < 0x10000) {xs ys : List Char}
    (h : unitEscape m ++ xs = unitEscape n ++ ys) : m = n ∧ xs = ys := by
  have hdigits : hexDigits 4 m ++ xs = hexDigits 4 n ++ ys := by simpa [unitEscape] using h
  have hlength : (hexDigits 4 m).length = (hexDigits 4 n).length := by
    rw [length_hexDigits hm, length_hexDigits hn]
  obtain ⟨hfront, hrest⟩ := List.append_inj hdigits hlength
  exact ⟨hexDigits_inj hm hn hfront, hrest⟩

/-! ### Escapes -/

/-- The characters that are written with a mark, and their marks. -/
def escapeMarks : List (Char × Char) :=
  [('"', '"'), ('\\', '\\'), ('\n', 'n'), ('\r', 'r'), ('\t', 't'), ('\x0c', 'f'), ('\x08', 'b')]

/-- The ways in which a character is written. -/
inductive Escape (c : Char) : List Char → Prop where
  | marked (mark : Char) (h : (c, mark) ∈ escapeMarks) : Escape c ['\\', mark]
  /-- The character stands for itself. -/
  | plain (hquote : c ≠ '"') (hslash : c ≠ '\\') : Escape c [c]
  | unit (h : c.toNat < 0x10000) : Escape c (unitEscape c.toNat)
  | pair (h : 0x10000 ≤ c.toNat) :
    Escape c (unitEscape (0xD800 + (c.toNat - 0x10000) / 0x400) ++
      unitEscape (0xDC00 + (c.toNat - 0x10000) % 0x400))

lemma escape_keyChar (c : Char) : Escape c (keyChar c) := by
  unfold keyChar
  split
  · next h =>
    rcases h with rfl | rfl
    · exact .marked '"' (by decide)
    · exact .marked '\\' (by decide)
  · next h =>
    obtain ⟨hquote, hslash⟩ : c ≠ '"' ∧ c ≠ '\\' := by simpa using h
    split
    · next hc => exact .marked 'n' (by rw [hc]; decide)
    split
    · next hc => exact .marked 'r' (by rw [hc]; decide)
    split
    · next hc => exact .marked 't' (by rw [hc]; decide)
    split
    · next hc => exact .marked 'f' (by rw [hc]; decide)
    split
    · next hc => exact .marked 'b' (by rw [hc]; decide)
    split
    · exact .plain hquote hslash
    split
    · next hunit => exact .unit hunit
    · next hunit => exact .pair (by omega)

/-- No character takes one of the units that pairs are made of. -/
lemma not_surrogate (c : Char) : c.toNat < 0xD800 ∨ 0xE000 ≤ c.toNat ∧ c.toNat < 0x110000 := by
  have h := c.valid
  simp only [UInt32.isValidChar, Nat.isValidChar] at h
  show c.val.toNat < 0xD800 ∨ 0xE000 ≤ c.val.toNat ∧ c.val.toNat < 0x110000
  omega

lemma escapeMarks_inj {c d mark : Char} (hc : (c, mark) ∈ escapeMarks)
    (hd : (d, mark) ∈ escapeMarks) : c = d := by
  have hall : ∀ p ∈ escapeMarks, ∀ q ∈ escapeMarks, p.2 = q.2 → p.1 = q.1 := by decide
  exact hall _ hc _ hd rfl

lemma mark_ne_u {c : Char} : (c, 'u') ∉ escapeMarks := by
  have hall : ∀ p ∈ escapeMarks, p.2 ≠ 'u' := by decide
  exact fun h => hall _ h rfl

/-- A character that is written as a unit is not written as a pair. -/
lemma unit_ne_pair {c d : Char} {xs ys : List Char} (hc : c.toNat < 0x10000)
    (hd : 0x10000 ≤ d.toNat)
    (h : unitEscape c.toNat ++ xs =
      (unitEscape (0xD800 + (d.toNat - 0x10000) / 0x400) ++
        unitEscape (0xDC00 + (d.toNat - 0x10000) % 0x400)) ++ ys) : False := by
  have hd' := not_surrogate d
  rw [List.append_assoc] at h
  have hunit := (unitEscape_append_inj hc (by omega) h).1
  have hc' := not_surrogate c
  omega

lemma pair_append_inj {c d : Char} {xs ys : List Char} (hc : 0x10000 ≤ c.toNat)
    (hd : 0x10000 ≤ d.toNat)
    (h : (unitEscape (0xD800 + (c.toNat - 0x10000) / 0x400) ++
        unitEscape (0xDC00 + (c.toNat - 0x10000) % 0x400)) ++ xs =
      (unitEscape (0xD800 + (d.toNat - 0x10000) / 0x400) ++
        unitEscape (0xDC00 + (d.toNat - 0x10000) % 0x400)) ++ ys) : c = d ∧ xs = ys := by
  have hc' := not_surrogate c
  have hd' := not_surrogate d
  rw [List.append_assoc, List.append_assoc] at h
  obtain ⟨hhigh, h⟩ := unitEscape_append_inj (by omega) (by omega) h
  obtain ⟨hlow, hrest⟩ := unitEscape_append_inj (by omega) (by omega) h
  exact ⟨Char.toNat_inj.1 (by omega), hrest⟩

lemma head_eq_slash {c : Char} {n : ℕ} {xs ys : List Char} (h : [c] ++ xs = unitEscape n ++ ys) :
    c = '\\' := by
  rw [unitEscape, List.singleton_append, List.cons_append] at h
  exact (List.cons.inj h).1

lemma not_marked {c mark : Char} {n : ℕ} {xs ys : List Char} (hmark : (c, mark) ∈ escapeMarks)
    (h : ['\\', mark] ++ xs = unitEscape n ++ ys) : False := by
  rw [unitEscape, List.cons_append, List.singleton_append, List.cons_append, List.cons_append] at h
  obtain rfl : mark = 'u' := (List.cons.inj (List.cons.inj h).2).1
  exact mark_ne_u hmark

lemma Escape.append_inj {c d : Char} {us vs xs ys : List Char} (hc : Escape c us)
    (hd : Escape d vs) (h : us ++ xs = vs ++ ys) : c = d ∧ xs = ys := by
  -- the first two characters tell the kind of the escape, up to units and pairs
  cases hc with
  | marked mark hmark =>
    cases hd with
    | marked mark' hmark' =>
      obtain ⟨rfl, rfl⟩ : mark = mark' ∧ xs = ys := by simpa using h
      exact ⟨escapeMarks_inj hmark hmark', rfl⟩
    | plain _ hslash => exact absurd (List.cons.inj h).1.symm hslash
    | unit _ => exact (not_marked hmark h).elim
    | pair _ =>
      rw [List.append_assoc (unitEscape _)] at h
      exact (not_marked hmark h).elim
  | plain _ hslash =>
    cases hd with
    | marked _ _ => exact absurd (List.cons.inj h).1 hslash
    | plain _ _ => simpa using h
    | unit _ => exact absurd (head_eq_slash h) hslash
    | pair _ =>
      rw [List.append_assoc (unitEscape _)] at h
      exact absurd (head_eq_slash h) hslash
  | unit hunit =>
    cases hd with
    | marked _ hmark => exact (not_marked hmark h.symm).elim
    | plain _ hslash => exact absurd (head_eq_slash h.symm) hslash
    | unit hunit' =>
      obtain ⟨hnat, hrest⟩ := unitEscape_append_inj hunit hunit' h
      exact ⟨Char.toNat_inj.1 hnat, hrest⟩
    | pair hpair => exact (unit_ne_pair hunit hpair h).elim
  | pair hpair =>
    cases hd with
    | marked _ hmark =>
      rw [List.append_assoc (unitEscape _)] at h
      exact (not_marked hmark h.symm).elim
    | plain _ hslash =>
      rw [List.append_assoc (unitEscape _)] at h
      exact absurd (head_eq_slash h.symm) hslash
    | unit hunit => exact (unit_ne_pair hunit hpair h.symm).elim
    | pair hpair' => exact pair_append_inj hpair hpair' h

lemma Escape.head_ne_quote {c : Char} {us : List Char} (h : Escape c us) :
    ∃ x xs, us = x :: xs ∧ x ≠ '"' := by
  cases h with
  | marked mark _ => exact ⟨_, _, rfl, by decide⟩
  | plain hquote _ => exact ⟨_, _, rfl, hquote⟩
  | unit _ => exact ⟨_, _, rfl, by decide⟩
  | pair _ => exact ⟨_, _, rfl, by decide⟩

/-! ### Quoted texts -/

/-- A text between double quotes, as characters. -/
def keyQuotedChars (cs : List Char) : List Char := '"' :: cs.flatMap keyChar ++ ['"']

lemma toList_keyQuoted (s : String) : (keyQuoted s).toList = keyQuotedChars s.toList := by
  simp [keyQuoted, keyQuotedChars]

/-- A quoted text is told apart from what follows. -/
theorem keyQuotedChars_append_inj {cs ds xs ys : List Char}
    (h : keyQuotedChars cs ++ xs = keyQuotedChars ds ++ ys) : cs = ds ∧ xs = ys := by
  have hbody : cs.flatMap keyChar ++ '"' :: xs = ds.flatMap keyChar ++ '"' :: ys := by
    simpa [keyQuotedChars] using h
  clear h
  -- A character on one side only would have to start with the closing quote of the other side.
  induction cs generalizing ds with
  | nil =>
    cases ds with
    | nil => exact ⟨rfl, by simpa using hbody⟩
    | cons d ds =>
      obtain ⟨x, rest, hx, hne⟩ := (escape_keyChar d).head_ne_quote
      simp only [List.flatMap_cons, hx] at hbody
      exact absurd (List.cons.inj hbody).1.symm hne
  | cons c cs ih =>
    cases ds with
    | nil =>
      obtain ⟨x, rest, hx, hne⟩ := (escape_keyChar c).head_ne_quote
      simp only [List.flatMap_cons, hx] at hbody
      exact absurd (List.cons.inj hbody).1 hne
    | cons d ds =>
      simp only [List.flatMap_cons, List.append_assoc] at hbody
      obtain ⟨rfl, hrest⟩ := (escape_keyChar c).append_inj (escape_keyChar d) hbody
      obtain ⟨rfl, htail⟩ := ih hrest
      exact ⟨rfl, htail⟩

end ShaderLoom
