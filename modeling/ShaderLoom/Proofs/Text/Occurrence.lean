import Mathlib.Data.List.Infix
import ShaderLoom.Text.Search

/-!
# Occurrences of a text

A text occurs in another one if it is a contiguous part of it (`occurs_iff_infix`). A text without a
separator never lies across one, so that it occurs in separated pieces only if it occurs in one of
them. Its first occurrence is therefore known where it follows a separator, and deleting a single
occurrence deletes nothing else. How often a text occurs in two joined texts is known as well, if it
does not lie across the joint (`occurrences_append`).
-/

namespace ShaderLoom.Text

variable {target : List Char}

lemma isSome_afterFront?_iff {front cs : List Char} :
    (afterFront? front cs).isSome ↔ front <+: cs := by
  rw [← isPrefixOf_eq_isSome_afterFront?, List.isPrefixOf_iff_prefix]

/-- A text occurs if it is a contiguous part. -/
theorem occurs_iff_infix {cs : List Char} : occurs target cs ↔ target <:+: cs := by
  induction cs with
  | nil =>
    rw [List.infix_nil, occurs, splitAtFirst]
    split <;> simp_all
  | cons c cs ih =>
    rw [List.infix_cons_iff, ← isSome_afterFront?_iff, ← ih, occurs, occurs, splitAtFirst]
    split
    · next hfront => simp [hfront]
    · next hfront => simp [hfront]

lemma occurs_eq_false_iff {cs : List Char} : occurs target cs = false ↔ ¬ target <:+: cs := by
  rw [← occurs_iff_infix, Bool.not_eq_true]

/-! ### Separators -/

section Separator

variable {sep : Char} {a b : List Char}

lemma prefix_of_prefix_append (hsep : sep ∉ target) (h : target <+: a ++ sep :: b) :
    target <+: a := by
  obtain ⟨rest, hrest⟩ := h
  rcases List.append_eq_append_iff.1 hrest with ⟨mid, ha, -⟩ | ⟨mid, ht, hb⟩
  · exact ⟨mid, ha.symm⟩
  · -- the target would reach beyond the separator
    cases mid with
    | nil => exact ⟨[], by simpa using ht⟩
    | cons c mid =>
      obtain rfl : sep = c := (List.cons.inj hb).1
      exact absurd (by simp [ht]) hsep

/-- A text without a separator does not lie across one. -/
theorem infix_append_cons_iff (hsep : sep ∉ target) :
    target <:+: a ++ sep :: b ↔ target <:+: a ∨ target <:+: b := by
  constructor
  · intro h
    induction a with
    | nil =>
      rw [List.nil_append, List.infix_cons_iff] at h
      rcases h with h | h
      · exact .inl (prefix_of_prefix_append (a := []) hsep h).isInfix
      · exact .inr h
    | cons c a ih =>
      rw [List.cons_append, List.infix_cons_iff] at h
      rcases h with h | h
      · exact .inl (prefix_of_prefix_append (a := c :: a) hsep h).isInfix
      · rcases ih h with h | h
        · exact .inl (h.trans (List.suffix_cons c a).isInfix)
        · exact .inr h
  · rintro (h | h)
    · exact h.trans (List.prefix_append a (sep :: b)).isInfix
    · exact h.trans ((List.suffix_cons sep b).trans (List.suffix_append a (sep :: b))).isInfix

/-- The first occurrence stands behind a separator in front of which there is none. -/
lemma splitAtFirst_append_cons (hsep : sep ∉ target) (hne : target ≠ [])
    (ha : ¬ target <:+: a) :
    splitAtFirst target (a ++ sep :: (target ++ b)) = some (a ++ [sep], b) := by
  have hnone : ∀ rest, ¬ target <+: rest → afterFront? target rest = none := by
    intro rest hrest
    rw [← isSome_afterFront?_iff] at hrest
    simpa using hrest
  induction a with
  | nil =>
    have hfront : ¬ target <+: sep :: (target ++ b) := fun h =>
      ha (prefix_of_prefix_append (a := []) hsep h).isInfix
    rw [List.nil_append, splitAtFirst, hnone _ hfront]
    obtain ⟨t, ts, htarget⟩ := List.exists_cons_of_ne_nil hne
    have hafter := afterFront?_append (t :: ts) b
    rw [htarget]
    simp only [List.cons_append] at hafter ⊢
    simp [splitAtFirst, hafter]
  | cons c a ih =>
    have hfront : ¬ target <+: c :: (a ++ sep :: (target ++ b)) := fun h =>
      ha (prefix_of_prefix_append (a := c :: a) hsep h).isInfix
    have hrest : ¬ target <:+: a := fun h => ha (h.trans (List.suffix_cons c a).isInfix)
    rw [List.cons_append, splitAtFirst, hnone _ hfront, ih hrest]
    rfl

end Separator

/-! ### Deleting -/

lemma replaceFrom_skip (new front rest : List Char) (limit : ℕ) :
    replaceFrom target new limit front.length (front ++ rest) =
      replaceFrom target new limit 0 rest := by
  induction front with
  | nil => rfl
  | cons c front ih => simpa [replaceFrom] using ih

/-- Replacing goes on behind the first occurrence. -/
lemma replaceFrom_of_splitAtFirst {before rest cs : List Char} (new : List Char) (limit : ℕ)
    (hne : target ≠ []) (h : splitAtFirst target cs = some (before, rest)) :
    replaceFrom target new (limit + 1) 0 cs =
      before ++ new ++ replaceFrom target new limit 0 rest := by
  induction cs generalizing before with
  | nil => simp [splitAtFirst, hne] at h
  | cons c cs ih =>
    simp only [splitAtFirst] at h
    split at h
    · next r hr =>
      obtain ⟨rfl, rfl⟩ : [] = before ∧ r = rest := by simpa using h
      have happ := eq_append_of_afterFront? hr
      have hp : target.isPrefixOf (c :: cs) := by simp [isPrefixOf_eq_isSome_afterFront?, hr]
      obtain ⟨t, ts, rfl⟩ := List.exists_cons_of_ne_nil hne
      obtain ⟨rfl, rfl⟩ : c = t ∧ cs = ts ++ r := by simpa using happ
      simp only [replaceFrom, hp, if_true, List.nil_append, List.length_cons, Nat.add_one_sub_one]
      rw [replaceFrom_skip]
    · next hr =>
      obtain ⟨⟨b, r⟩, hb, hcut⟩ := Option.map_eq_some_iff.1 h
      obtain ⟨rfl, rfl⟩ : c :: b = before ∧ r = rest := by simpa using hcut
      have hp : target.isPrefixOf (c :: cs) = false := by
        simp [isPrefixOf_eq_isSome_afterFront?, hr]
      simp only [replaceFrom, hp, Bool.false_eq_true, if_false]
      rw [ih hb]
      rfl

/-- Deleting a text behind whose first occurrence there is none. -/
lemma removeAll_of_splitAtFirst {before rest cs : List Char} (hne : target ≠ [])
    (h : splitAtFirst target cs = some (before, rest)) (hrest : ¬ target <:+: rest) :
    removeAll target cs = before ++ rest := by
  rw [← occurs_eq_false_iff] at hrest
  rw [removeAll, replaceAll, replaceUpTo, if_neg hne,
    replaceFrom_of_splitAtFirst [] cs.length hne h, replaceFrom_of_not_occurs _ _ hrest,
    List.append_nil]

/-! ### Counting -/

/-- How often a text occurs, at places that may overlap. -/
def occurrences (target : List Char) : List Char → ℕ
  | [] => 0
  | c :: cs => (if target.isPrefixOf (c :: cs) then 1 else 0) + occurrences target cs

lemma occurrences_cons_of_pos {c : Char} {cs : List Char} (h : target <+: c :: cs) :
    occurrences target (c :: cs) = occurrences target cs + 1 := by
  rw [occurrences, if_pos (List.isPrefixOf_iff_prefix.2 h), Nat.add_comm]

lemma occurrences_cons_of_neg {c : Char} {cs : List Char} (h : ¬ target <+: c :: cs) :
    occurrences target (c :: cs) = occurrences target cs := by
  rw [occurrences, if_neg (by rwa [List.isPrefixOf_iff_prefix]), Nat.zero_add]

/-- A text that does not occur is counted zero times. -/
lemma occurrences_eq_zero_iff (hne : target ≠ []) {cs : List Char} :
    occurrences target cs = 0 ↔ ¬ target <:+: cs := by
  induction cs with
  | nil => simp [occurrences, hne]
  | cons c cs ih =>
    rw [List.infix_cons_iff, not_or, ← ih]
    by_cases h : target <+: c :: cs
    · simp [occurrences_cons_of_pos h, h]
    · simp [occurrences_cons_of_neg h, h]

/-- A text that starts in the first of two joined texts lies in it, or reaches across the joint. -/
lemma prefix_or_across_of_prefix_append {a b : List Char} (h : target <+: a ++ b) :
    target <+: a ∨ ∃ y, target = a ++ y ∧ y ≠ [] ∧ y <+: b := by
  obtain ⟨rest, hrest⟩ := h
  rcases List.append_eq_append_iff.1 hrest with ⟨mid, ha, -⟩ | ⟨y, htarget, hb⟩
  · exact .inl ⟨mid, ha.symm⟩
  · by_cases hy : y = []
    · exact .inl ⟨[], by simp [htarget, hy]⟩
    · exact .inr ⟨y, htarget, hy, rest, hb.symm⟩

/-- Joining texts keeps what occurs in them. -/
lemma occurrences_add_le (target a b : List Char) :
    occurrences target a + occurrences target b ≤ occurrences target (a ++ b) := by
  induction a with
  | nil => simp [occurrences]
  | cons c a ih =>
    rw [List.cons_append]
    by_cases h : target <+: c :: a
    · have hlong : target <+: c :: (a ++ b) := h.trans (List.prefix_append (c :: a) b)
      rw [occurrences_cons_of_pos h, occurrences_cons_of_pos hlong]
      omega
    · rw [occurrences_cons_of_neg h, occurrences]
      omega

/-- A text that does not lie across the joint of two texts occurs as often as in both of them. -/
theorem occurrences_append {a b : List Char}
    (h : ∀ x y, target = x ++ y → x ≠ [] → y ≠ [] → x <:+ a → ¬ y <+: b) :
    occurrences target (a ++ b) = occurrences target a + occurrences target b := by
  induction a with
  | nil => simp [occurrences]
  | cons c a ih =>
    have hrest := ih fun x y htarget hx hy hxa => h x y htarget hx hy
      (hxa.trans (List.suffix_cons c a))
    rw [List.cons_append]
    by_cases hprefix : target <+: c :: a
    · have hlong : target <+: c :: (a ++ b) := hprefix.trans (List.prefix_append (c :: a) b)
      rw [occurrences_cons_of_pos hprefix, occurrences_cons_of_pos hlong, hrest]
      omega
    · have hnot : ¬ target <+: c :: (a ++ b) := by
        intro hlong
        rcases prefix_or_across_of_prefix_append (a := c :: a) hlong with
          hin | ⟨y, htarget, hy, hyb⟩
        · exact hprefix hin
        · exact h (c :: a) y htarget (by simp) hy (List.suffix_refl _) hyb
      rw [occurrences_cons_of_neg hprefix, occurrences_cons_of_neg hnot, hrest]

/-- A text without a separator occurs as often as in the texts around it. -/
lemma occurrences_append_cons {sep : Char} {a b : List Char} (hsep : sep ∉ target)
    (hne : target ≠ []) :
    occurrences target (a ++ sep :: b) = occurrences target a + occurrences target b := by
  have hnone : ∀ {y : List Char}, y <:+ target → y ≠ [] → ¬ y <+: sep :: b := by
    intro y hy hne hprefix
    obtain ⟨c, ys, rfl⟩ := List.exists_cons_of_ne_nil hne
    obtain rfl : c = sep := by simpa using (List.cons_prefix_cons.1 hprefix).1
    exact hsep (hy.subset List.mem_cons_self)
  rw [occurrences_append fun x y htarget _ hy _ => hnone ⟨x, htarget.symm⟩ hy,
    occurrences_cons_of_neg (hnone (List.suffix_refl _) hne)]

end ShaderLoom.Text
