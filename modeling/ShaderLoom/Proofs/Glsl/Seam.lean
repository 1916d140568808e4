import Mathlib.Data.List.Infix
import ShaderLoom.Injection.Splice
import ShaderLoom.Proofs.Glsl.Rewording

/-!
# Seams

Texts without a directive can make one where they are put together: a text that ends with a hash in
front of one that starts with the rest. Code is put together behind texts, and it is cut in front of
a closing brace, where the main function ends, and of an underscore, which the marker of the
declarations starts with. So a directive is kept out of code if no beginning of one stands at such a
place (`Tight.append`, `Finished.of_tight`).
-/

namespace ShaderLoom.Glsl

open Text

/-! ### Beginnings of a directive -/

/-- The texts that a directive begins with, without the empty one and the directive itself. -/
def stubs : List (List Char) := (List.range 7).map fun n => directive.take (n + 1)

/-- A directive, and beginnings of one in front of what code is cut at. -/
def seams : List (List Char) := directive :: stubs.flatMap fun u => [u ++ ['\x7d'], u ++ ['_']]

/-- Code without a directive, and without a beginning of one where it can be cut. -/
def Tight (cs : List Char) : Prop := ∀ t ∈ seams, ¬ t <:+: cs

/-- Code that does not end with a beginning of a directive. -/
def Finished (cs : List Char) : Prop := ∀ u ∈ stubs, ¬ u <:+ cs

/-- Code that makes no directive with any code behind it. -/
structure Clean (cs : List Char) : Prop where
  tight : Tight cs
  finished : Finished cs

instance (cs : List Char) : Decidable (Tight cs) :=
  inferInstanceAs (Decidable (∀ t ∈ seams, ¬ t <:+: cs))

instance (cs : List Char) : Decidable (Finished cs) :=
  inferInstanceAs (Decidable (∀ u ∈ stubs, ¬ u <:+ cs))

instance (cs : List Char) : Decidable (Clean cs) :=
  decidable_of_iff (Tight cs ∧ Finished cs) ⟨fun h => ⟨h.1, h.2⟩, fun h => ⟨h.tight, h.finished⟩⟩

lemma directive_mem_seams : directive ∈ seams := List.mem_cons_self

/-- What a seam begins with begins a directive. -/
lemma mem_stubs_of_front {x t : List Char} (ht : t ∈ seams) (hx : x <+: t) (hne : x ≠ [])
    (hproper : x ≠ t) : x ∈ stubs := by
  have hall : ∀ t ∈ seams, ∀ x ∈ t.inits, x ≠ [] → x ≠ t → x ∈ stubs := by decide
  exact hall t ht x ((List.mem_inits x t).2 hx) hne hproper

lemma mem_stubs_of_front_stub {x u : List Char} (hu : u ∈ stubs) (hx : x <+: u) (hne : x ≠ []) :
    x ∈ stubs := by
  have hall : ∀ u ∈ stubs, ∀ x ∈ u.inits, x ≠ [] → x ∈ stubs := by decide
  exact hall u hu x ((List.mem_inits x u).2 hx) hne

lemma stub_ne_nil {u : List Char} (hu : u ∈ stubs) : u ≠ [] := by
  rintro rfl
  exact absurd hu (by decide)

/-! ### Code put together -/

section

variable {a b : List Char}

lemma Tight.mono (h : Tight b) (hab : a <:+: b) : Tight a :=
  fun t ht hta => h t ht (hta.trans hab)

lemma Tight.no_directive (h : Tight a) : ¬ directive <:+: a := h directive directive_mem_seams

lemma Finished.of_suffix (h : Finished b) (hab : a <:+ b) : Finished a :=
  fun u hu hua => h u hu (hua.trans hab)

lemma tight_nil : Tight [] := by decide

lemma finished_nil : Finished [] := by decide

/-- Nothing makes a directive behind finished code. -/
theorem Tight.append (ha : Tight a) (hfinished : Finished a) (hb : Tight b) : Tight (a ++ b) := by
  intro t ht h
  rcases List.infix_append_iff.1 h with h | h | ⟨x, y, rfl, hx, hy⟩
  · exact ha t ht h
  · exact hb t ht h
  · -- it would lie across the place where the code is put together
    by_cases hxnil : x = []
    · exact hb _ ht (by simpa [hxnil] using hy.isInfix)
    · by_cases hynil : y = []
      · exact ha _ ht (by simpa [hynil] using hx.isInfix)
      · have hproper : x ≠ x ++ y := fun heq => hynil (List.append_right_eq_self.1 heq.symm)
        exact hfinished x (mem_stubs_of_front ht (List.prefix_append x y) hxnil hproper) hx

lemma Finished.append (ha : Finished a) (hb : Finished b) : Finished (a ++ b) := by
  intro u hu h
  rcases List.suffix_or_suffix_of_suffix h (List.suffix_append a b) with hin | ⟨x, rfl⟩
  · exact hb u hu hin
  · by_cases hx : x = []
    · exact hb b (by simpa [hx] using hu) (List.suffix_refl b)
    · have hxa : x <:+ a := by
        obtain ⟨front, hfront⟩ := h
        rw [← List.append_assoc] at hfront
        exact ⟨front, List.append_cancel_right hfront⟩
      exact ha x (mem_stubs_of_front_stub hu (List.prefix_append x b) hx) hxa

lemma Clean.append (ha : Clean a) (hb : Clean b) : Clean (a ++ b) :=
  ⟨ha.tight.append ha.finished hb.tight, ha.finished.append hb.finished⟩

/-- A character that stands in no seam keeps the code around it apart. -/
lemma tight_append_cons {sep : Char} (hsep : ∀ t ∈ seams, sep ∉ t) :
    Tight (a ++ sep :: b) ↔ Tight a ∧ Tight b := by
  constructor
  · intro h
    exact ⟨h.mono (List.prefix_append a _).isInfix,
      h.mono ((List.suffix_cons sep b).trans (List.suffix_append a _)).isInfix⟩
  · rintro ⟨ha, hb⟩ t ht h
    rcases (infix_append_cons_iff (hsep t ht)).1 h with h | h
    · exact ha t ht h
    · exact hb t ht h

lemma tight_append_lineBreak : Tight (a ++ '\n' :: b) ↔ Tight a ∧ Tight b :=
  tight_append_cons (by decide)

/-- Code that ends with a character that is in no beginning of a directive. -/
lemma finished_concat {c : Char} (hc : ∀ u ∈ stubs, c ∉ u) (a : List Char) :
    Finished (a ++ [c]) := by
  intro u hu h
  rcases List.suffix_concat_iff.1 h with hnil | ⟨v, rfl, -⟩
  · exact stub_ne_nil hu hnil
  · exact hc _ hu (by simp)

lemma finished_lineBreak (a : List Char) : Finished (a ++ ['\n']) := finished_concat (by decide) a

/-- Code in front of a place where it is cut is finished. -/
lemma Finished.of_tight {c : Char} (h : Tight (a ++ c :: b)) (hc : ∀ u ∈ stubs, u ++ [c] ∈ seams) :
    Finished a := by
  rintro u hu ⟨front, rfl⟩
  refine h (u ++ [c]) (hc u hu) ⟨front, b, ?_⟩
  simp

end

/-! ### Line breaks at the end -/

section LineBreaks

lemma dropTrailing_append_cons (c : Char) (a b : List Char) :
    dropTrailing c (a ++ c :: b) =
      if dropTrailing c b = [] then dropTrailing c a else a ++ c :: dropTrailing c b := by
  have hreverse : (a ++ c :: b).reverse = b.reverse ++ c :: a.reverse := by simp
  rw [dropTrailing, hreverse, List.dropWhile_append]
  by_cases hb : b.reverse.dropWhile (· = c) = []
  · simp [dropTrailing, hb]
  · simp [dropTrailing, hb]

lemma exists_eq_dropTrailing_append (c : Char) (cs : List Char) :
    ∃ n, cs = dropTrailing c cs ++ List.replicate n c := by
  have hreplicate : cs.reverse.takeWhile (· = c) =
      List.replicate (cs.reverse.takeWhile (· = c)).length c :=
    List.eq_replicate_of_mem fun d hd => by simpa using List.mem_takeWhile_imp hd
  refine ⟨(cs.reverse.takeWhile (· = c)).length, ?_⟩
  calc cs = (cs.reverse.takeWhile (· = c) ++ cs.reverse.dropWhile (· = c)).reverse := by
        rw [List.takeWhile_append_dropWhile, List.reverse_reverse]
    _ = dropTrailing c cs ++ (cs.reverse.takeWhile (· = c)).reverse := List.reverse_append
    _ = dropTrailing c cs ++ List.replicate (cs.reverse.takeWhile (· = c)).length c := by
        rw [← List.reverse_replicate, ← hreplicate]

lemma Tight.of_dropTrailing {cs : List Char} (h : Tight (dropTrailing '\n' cs)) : Tight cs := by
  have hbreaks : ∀ n, Tight (List.replicate n '\n') := by
    intro n
    induction n with
    | zero => exact tight_nil
    | succ n ih => exact tight_append_lineBreak (a := []).2 ⟨tight_nil, ih⟩
  obtain ⟨n, hn⟩ := exists_eq_dropTrailing_append '\n' cs
  rw [hn]
  cases n with
  | zero => simpa using h
  | succ n => exact tight_append_lineBreak.2 ⟨h, hbreaks n⟩

end LineBreaks

/-! ### Where the main function is cut -/

section Main

lemma exists_brace_of_afterMainHeader? {cs body : List Char} (h : afterMainHeader? cs = some body) :
    ∃ front, cs = front ++ '\x7b' :: body ∨ cs = front ++ '\x7b' :: '\n' :: body := by
  simp only [afterMainHeader?, Option.bind_eq_bind, Option.bind_eq_some_iff] at h
  obtain ⟨a, ha, b, hb, c, hc, d, hd, e, he, f, hf, hbody⟩ := h
  have hf' := afterChar?_eq_some_iff.1 hf
  have hsuffix : trimLeft e <:+ cs :=
    calc trimLeft e <:+ e := List.dropWhile_suffix _
      _ <:+ d.dropWhile (· ≠ ')') := suffix_of_afterChar? he
      _ <:+ d := List.dropWhile_suffix _
      _ <:+ trimLeft c := suffix_of_afterChar? hd
      _ <:+ c := List.dropWhile_suffix _
      _ <:+ b := suffix_of_afterFront? hc
      _ <:+ a := suffix_of_afterBlanks? hb
      _ <:+ cs := suffix_of_afterFront? ha
  obtain ⟨front, hfront⟩ := hsuffix
  rw [hf'] at hfront
  refine ⟨front, ?_⟩
  obtain rfl : dropLineBreak f = body := by simpa using hbody
  rw [← hfront]
  unfold dropLineBreak
  split
  · exact .inr rfl
  · exact .inl rfl

/-- The header of the main function ends with a brace, or with a line break behind it. -/
lemma exists_brace_of_splitMain? {cs : List Char} {m : MainSplit} (h : splitMain? cs = some m) :
    ∃ front, m.header = front ++ ['\x7b'] ∨ m.header = front ++ ['\x7b'] ++ ['\n'] := by
  induction cs generalizing m with
  | nil => cases h
  | cons c cs ih =>
    have hwhole := splitMain?_eq_some h
    rw [splitMain?] at h
    split at h
    · next body hbody =>
      obtain rfl := Option.some.inj h
      rw [List.nil_append] at hwhole
      obtain ⟨front, hfront | hfront⟩ := exists_brace_of_afterMainHeader? hbody
      · refine ⟨front, .inl (List.append_cancel_right (hwhole.symm.trans ?_))⟩
        rw [hfront]
        simp
      · refine ⟨front, .inr (List.append_cancel_right (hwhole.symm.trans ?_))⟩
        rw [hfront]
        simp
    · obtain ⟨n, hn, rfl⟩ := Option.map_eq_some_iff.1 h
      exact ih (m := n) hn

lemma finished_header {cs : List Char} {m : MainSplit} (h : splitMain? cs = some m) :
    Finished (m.before ++ m.header) := by
  obtain ⟨front, hheader | hheader⟩ := exists_brace_of_splitMain? h
  · rw [hheader, ← List.append_assoc]
    exact finished_concat (by decide) _
  · rw [hheader, ← List.append_assoc]
    exact finished_lineBreak _

lemma drop_closingBrace? {depth n : ℕ} {cs : List Char} (h : closingBrace? depth cs = some n) :
    ∃ rest, cs.drop n = '\x7d' :: rest := by
  induction cs generalizing depth n with
  | nil => cases h
  | cons c cs ih =>
    have hnext : ∀ {depth}, (closingBrace? depth cs).map (· + 1) = some n →
        ∃ rest, (c :: cs).drop n = '\x7d' :: rest := by
      intro depth hmap
      obtain ⟨m, hm, rfl⟩ := Option.map_eq_some_iff.1 hmap
      exact ih hm
    by_cases hopen : c = '\x7b'
    · exact hnext (by simpa [closingBrace?, hopen] using h)
    · by_cases hclose : c = '\x7d'
      · cases depth with
        | zero =>
          obtain rfl : 0 = n := by simpa [closingBrace?, hclose] using h
          exact ⟨cs, by rw [hclose]; rfl⟩
        | succ depth => exact hnext (by simpa [closingBrace?, hclose] using h)
      · exact hnext (by simpa [closingBrace?, hopen, hclose] using h)

/-- The main function ends in front of a closing brace. -/
lemma drop_endOfMain? {cs : List Char} {n : ℕ} (h : endOfMain? cs = some n) :
    ∃ rest, cs.drop n = '\x7d' :: rest := by
  unfold endOfMain? at h
  split at h
  · cases h
  · next m hm =>
    obtain ⟨k, hk, rfl⟩ := Option.map_eq_some_iff.1 h
    obtain ⟨rest, hrest⟩ := drop_closingBrace? hk
    refine ⟨rest, ?_⟩
    -- what is skipped goes as far as the brace of the header
    have htail := List.takeWhile_append_dropWhile (p := fun c => decide (c ≠ '\x7b'))
      (l := m.header ++ m.body)
    have hcs := splitMain?_eq_some hm
    rw [List.append_assoc, ← htail, ← List.append_assoc] at hcs
    rw [← hrest, Nat.add_comm k, ← List.drop_drop, ← List.drop_drop, ← List.length_append, hcs,
      List.drop_left]

end Main

end ShaderLoom.Glsl
