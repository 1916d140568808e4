import ShaderLoom.Proofs.Glsl.Joint
import ShaderLoom.Proofs.Glsl.Renaming

/-!
# Places of words

A word stands at a place as a whole if none of its neighbours could be a part of it (`IsWordAt`).
Code that is cut between words has the places of both parts (`isWordAt_append`), so that a word
stands in the first part only if one of its places is too far in front
(`forall_isWordAt_append_iff`).
-/

namespace ShaderLoom.Glsl

open Text

/-! ### Whether a word stands somewhere -/

section HasWord

variable {w : List Char} (hw : IsWord w)
include hw

lemma not_hasWord_nil : ¬ hasWord w [] = true := by
  simp [hasWord_iff hw]

lemma hasWord_mark {c : Char} (hc : isWordChar c = false) (cs : List Char) :
    hasWord w (c :: cs) = true ↔ hasWord w cs = true := by
  simp [hasWord_iff hw, pieces_mark hc]

lemma hasWord_word {v rest : List Char} (hv : IsWord v) (hrest : AtWordEnd rest) :
    hasWord w (v ++ rest) = true ↔ w = v ∨ hasWord w rest = true := by
  simp [hasWord_iff hw, pieces_word hv hrest, exists_or]

/-- Cutting between words, no word is lost or gained. -/
lemma hasWord_append {front : List Char} (hfront : AtWordStart front) (cs : List Char) :
    hasWord w (front ++ cs) = true ↔ hasWord w front = true ∨ hasWord w cs = true := by
  induction front using text_induction with
  | nil => exact (or_iff_right (not_hasWord_nil hw)).symm
  | mark c front hc ih =>
    rw [List.cons_append, hasWord_mark hw hc, hasWord_mark hw hc]
    exact ih (hfront.of_suffix (List.suffix_cons c front))
  | word v front hv hend ih =>
    have hend' := (atWordEnd_append (hfront.ne_nil hv) cs).2 hend
    rw [List.append_assoc, hasWord_word hw hv hend', hasWord_word hw hv hend, or_assoc,
      ih (hfront.of_suffix (List.suffix_append v front))]

end HasWord

/-! ### Where a word stands -/

/-- The word stands as a whole behind the text `before`. -/
def IsWordAt (w before cs : List Char) : Prop :=
  ∃ behind, cs = before ++ (w ++ behind) ∧ AtWordStart before ∧ AtWordEnd behind

namespace IsWordAt

variable {w before cs : List Char}

lemma length_lt (h : IsWordAt w before cs) (hw : IsWord w) : before.length < cs.length := by
  obtain ⟨behind, rfl, -, -⟩ := h
  have hlength := List.length_pos_of_ne_nil hw.ne_nil
  simp only [List.length_append]
  omega

/-- What is put in front of a place does not matter, if no word is made longer. -/
lemma append {front : List Char} (h : IsWordAt w before cs)
    (hstart : AtWordStart (front ++ before)) : IsWordAt w (front ++ before) (front ++ cs) := by
  obtain ⟨behind, rfl, -, hend⟩ := h
  exact ⟨behind, by rw [List.append_assoc], hstart, hend⟩

end IsWordAt

section Place

variable {w before : List Char} (hw : IsWord w)
include hw

lemma not_isWordAt_nil : ¬ IsWordAt w before [] :=
  fun h => absurd (h.length_lt hw) (Nat.not_lt_zero _)

/-- Behind a mark stands what stood there before. -/
lemma isWordAt_mark {c : Char} {cs : List Char} (hc : isWordChar c = false) :
    IsWordAt w before (c :: cs) ↔ ∃ before', before = c :: before' ∧ IsWordAt w before' cs := by
  constructor
  · rintro ⟨behind, heq, hstart, hend⟩
    cases before with
    | nil =>
      have hmark : AtWordEnd (w ++ behind) := by
        rw [← List.nil_append (w ++ behind), ← heq]
        exact atWordEnd_cons.2 hc
      exact absurd hmark hw.not_atWordEnd
    | cons d before =>
      obtain ⟨rfl, rfl⟩ := List.cons.inj heq
      exact ⟨before, rfl, behind, rfl, hstart.of_suffix (List.suffix_cons _ before), hend⟩
  · rintro ⟨before, rfl, h⟩
    have hstart : AtWordStart ([c] ++ before) := by
      obtain ⟨-, -, hstart, -⟩ := h
      exact AtWordStart.append (by simp [AtWordStart, hc]) hstart
    exact h.append hstart

/-- At the front of a text stands its first word, and behind it what stood there before. -/
lemma isWordAt_word {v rest : List Char} (hv : IsWord v) (hrest : AtWordEnd rest) :
    IsWordAt w before (v ++ rest) ↔
      before = [] ∧ w = v ∨ ∃ before', before = v ++ before' ∧ IsWordAt w before' rest := by
  constructor
  · rintro ⟨behind, heq, hstart, hend⟩
    rcases eq_or_ne before [] with rfl | hne
    · have hfirst : some (v, rest) = some (w, behind) := by
        rw [← splitWord?_word hv hrest, ← splitWord?_word hw hend, heq, List.nil_append]
      obtain ⟨rfl, -⟩ : v = w ∧ rest = behind := by simpa using hfirst
      exact .inl ⟨rfl, rfl⟩
    · rcases List.append_eq_append_iff.1 heq with ⟨before', rfl, hrest'⟩ | ⟨back, rfl, -⟩
      · exact .inr ⟨before', rfl, behind, hrest', hstart.of_suffix (List.suffix_append v _), hend⟩
      · -- a word that starts inside of the first one would not be whole
        have hbefore : IsWord before := ⟨hne, fun c hc => hv.all c (List.mem_append_left _ hc)⟩
        rw [← List.append_nil before] at hstart
        exact absurd rfl (hstart.ne_nil hbefore)
  · rintro (⟨rfl, rfl⟩ | ⟨before, rfl, h⟩)
    · exact ⟨rest, rfl, rfl, hrest⟩
    · have hne : before ≠ [] := by
        rintro rfl
        obtain ⟨behind, rfl, -, -⟩ := h
        exact hw.not_atWordEnd hrest
      obtain ⟨-, -, hstart, -⟩ := id h
      exact h.append ((atWordStart_append v hne).2 hstart)

/-- Code that is cut between words has the places of both parts. -/
theorem isWordAt_append {front cs : List Char} (hfront : AtWordStart front) :
    IsWordAt w before (front ++ cs) ↔
      IsWordAt w before front ∨ ∃ before', before = front ++ before' ∧ IsWordAt w before' cs := by
  induction front using text_induction generalizing before with
  | nil => simp [not_isWordAt_nil hw]
  | mark c front hc ih =>
    rw [List.cons_append, isWordAt_mark hw hc, isWordAt_mark hw hc]
    simp only [ih (hfront.of_suffix (List.suffix_cons c front)), and_or_left, exists_or]
    refine or_congr Iff.rfl ⟨?_, ?_⟩
    · rintro ⟨-, rfl, before', rfl, h⟩
      exact ⟨before', rfl, h⟩
    · rintro ⟨before', rfl, h⟩
      exact ⟨_, rfl, before', rfl, h⟩
  | word v front hv hend ih =>
    have hend' := (atWordEnd_append (hfront.ne_nil hv) cs).2 hend
    rw [List.append_assoc, isWordAt_word hw hv hend', isWordAt_word hw hv hend, or_assoc]
    simp only [ih (hfront.of_suffix (List.suffix_append v front)), and_or_left, exists_or]
    refine or_congr Iff.rfl (or_congr Iff.rfl ⟨?_, ?_⟩)
    · rintro ⟨-, rfl, before', rfl, h⟩
      exact ⟨before', by rw [List.append_assoc], h⟩
    · rintro ⟨before', rfl, h⟩
      exact ⟨_, by rw [List.append_assoc], before', rfl, h⟩

lemma hasWord_iff_exists_isWordAt {cs : List Char} :
    hasWord w cs = true ↔ ∃ before, IsWordAt w before cs := by
  induction cs using text_induction with
  | nil => exact iff_of_false (not_hasWord_nil hw) fun ⟨_, h⟩ => not_isWordAt_nil hw h
  | mark c cs hc ih =>
    simp only [hasWord_mark hw hc, isWordAt_mark hw hc, ih]
    exact ⟨fun ⟨before, h⟩ => ⟨_, before, rfl, h⟩, fun ⟨_, before, _, h⟩ => ⟨before, h⟩⟩
  | word v rest hv hrest ih =>
    simp only [hasWord_word hw hv hrest, isWordAt_word hw hv hrest, ih]
    constructor
    · rintro (rfl | ⟨before, h⟩)
      · exact ⟨[], .inl ⟨rfl, rfl⟩⟩
      · exact ⟨_, .inr ⟨before, rfl, h⟩⟩
    · rintro ⟨-, ⟨-, rfl⟩ | ⟨before, -, h⟩⟩
      · exact .inl rfl
      · exact .inr ⟨before, h⟩

/-- A property that all places behind a cut have, and none in front of it, belongs to all places of
a word exactly if it does not stand in front of the cut. -/
theorem forall_isWordAt_append_iff {front cs : List Char} {P : List Char → Prop}
    (hfront : AtWordStart front) (hbehind : ∀ before, IsWordAt w before cs → P (front ++ before))
    (hbefore : ∀ before, P before → front.length ≤ before.length) :
    (∀ before, IsWordAt w before (front ++ cs) → P before) ↔ hasWord w front = false := by
  rw [← Bool.not_eq_true, hasWord_iff_exists_isWordAt hw, not_exists]
  constructor
  · intro hall before h
    have hle := hbefore before (hall before ((isWordAt_append hw hfront).2 (.inl h)))
    exact absurd (h.length_lt hw) (Nat.not_lt.2 hle)
  · intro hnone before h
    rcases (isWordAt_append hw hfront).1 h with hhere | ⟨before, rfl, hthere⟩
    · exact absurd hhere (hnone before)
    · exact hbehind before hthere

end Place

end ShaderLoom.Glsl
