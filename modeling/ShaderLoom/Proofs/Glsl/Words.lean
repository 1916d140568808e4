import Mathlib.Data.List.Basic
import Mathlib.Data.List.TakeWhile
import ShaderLoom.Glsl.Dialect

/-!
# Words and marks

Shader code is a sequence of words, which are as long as possible, and of marks, the other
characters. What a conversion makes of a word depends on the word and on what stands behind it, and
there on marks and lengths only: another word in place of a word makes no difference. So code is cut
into pieces (`pieces`), a change of words is a function on pieces (`renameWords`), and the pieces of
the changed code are the changed pieces (`pieces_renameWords`).
-/

namespace ShaderLoom.Glsl

open Text

/-! ### Words -/

/-- A word: at least one character, and only such characters as can stand in a word. -/
structure IsWord (w : List Char) : Prop where
  ne_nil : w ≠ []
  all : ∀ c ∈ w, isWordChar c = true

instance (w : List Char) : Decidable (IsWord w) :=
  decidable_of_iff (w ≠ [] ∧ w.all isWordChar = true)
    ⟨fun h => ⟨h.1, List.all_eq_true.1 h.2⟩, fun h => ⟨h.ne_nil, List.all_eq_true.2 h.all⟩⟩

/-- A word in front of the text ends where the text begins. -/
def AtWordEnd (cs : List Char) : Prop := cs.head?.any isWordChar = false

instance (cs : List Char) : Decidable (AtWordEnd cs) :=
  inferInstanceAs (Decidable (cs.head?.any isWordChar = false))

lemma atWordEnd_nil : AtWordEnd [] := rfl

@[simp] lemma atWordEnd_cons {c : Char} {cs : List Char} :
    AtWordEnd (c :: cs) ↔ isWordChar c = false := by
  simp [AtWordEnd]

lemma IsWord.cons {c : Char} {w : List Char} (hc : isWordChar c = true)
    (hw : ∀ d ∈ w, isWordChar d = true) : IsWord (c :: w) where
  ne_nil := by simp
  all := by
    intro d hd
    rcases List.mem_cons.1 hd with rfl | hd
    · exact hc
    · exact hw d hd

/-- A word behind a part of one. -/
lemma isWord_append {inner w : List Char} (hinner : ∀ c ∈ inner, isWordChar c = true)
    (hw : IsWord w) : IsWord (inner ++ w) where
  ne_nil := by simp [hw.ne_nil]
  all := by
    intro c hc
    rcases List.mem_append.1 hc with hc | hc
    · exact hinner c hc
    · exact hw.all c hc

/-- A word starts with a character of a word. -/
lemma IsWord.exists_cons {w : List Char} (hw : IsWord w) :
    ∃ c v, w = c :: v ∧ isWordChar c = true := by
  match w, hw with
  | [], hw => exact absurd rfl hw.ne_nil
  | c :: v, hw => exact ⟨c, v, rfl, hw.all c (by simp)⟩

lemma IsWord.not_atWordEnd {w rest : List Char} (hw : IsWord w) : ¬ AtWordEnd (w ++ rest) := by
  obtain ⟨c, v, rfl, hc⟩ := hw.exists_cons
  simp [hc]

lemma takeWhile_word {w rest : List Char} (hw : ∀ c ∈ w, isWordChar c = true)
    (hrest : AtWordEnd rest) : (w ++ rest).takeWhile isWordChar = w := by
  rw [List.takeWhile_append_of_pos hw]
  cases rest with
  | nil => simp
  | cons c rest => simp [atWordEnd_cons.1 hrest]

lemma dropWhile_word {w rest : List Char} (hw : ∀ c ∈ w, isWordChar c = true)
    (hrest : AtWordEnd rest) : (w ++ rest).dropWhile isWordChar = rest := by
  rw [List.dropWhile_append_of_pos hw]
  cases rest with
  | nil => simp
  | cons c rest => simp [atWordEnd_cons.1 hrest]

lemma atWordEnd_dropWhile (cs : List Char) : AtWordEnd (cs.dropWhile isWordChar) := by
  induction cs with
  | nil => exact atWordEnd_nil
  | cons c cs ih =>
    rw [List.dropWhile_cons]
    split
    · exact ih
    · next hc => exact atWordEnd_cons.2 (by simpa using hc)

lemma isWord_append_takeWhile {w : List Char} (hw : IsWord w) (cs : List Char) :
    IsWord (w ++ cs.takeWhile isWordChar) where
  ne_nil := by simp [hw.ne_nil]
  all := by
    intro c hc
    rcases List.mem_append.1 hc with hc | hc
    · exact hw.all c hc
    · exact List.mem_takeWhile_imp hc

lemma splitWord?_word {w rest : List Char} (hw : IsWord w) (hrest : AtWordEnd rest) :
    splitWord? (w ++ rest) = some (w, rest) := by
  unfold splitWord?
  rw [takeWhile_word hw.all hrest, dropWhile_word hw.all hrest]
  simp [hw.ne_nil]

lemma splitWord?_of_atWordEnd {cs : List Char} (h : AtWordEnd cs) : splitWord? cs = none := by
  cases cs with
  | nil => rfl
  | cons c cs => simp [splitWord?, atWordEnd_cons.1 h]

lemma splitWord?_eq_some {cs w rest : List Char} (h : splitWord? cs = some (w, rest)) :
    IsWord w ∧ AtWordEnd rest ∧ cs = w ++ rest := by
  simp only [splitWord?] at h
  split at h
  · cases h
  · next hne =>
    cases h
    exact ⟨⟨hne, fun c hc => List.mem_takeWhile_imp hc⟩, atWordEnd_dropWhile cs,
      (List.takeWhile_append_dropWhile).symm⟩

/-- A text is empty, starts with a mark, or starts with a word. -/
@[elab_as_elim]
theorem text_induction {P : List Char → Prop} (nil : P [])
    (mark : ∀ c cs, isWordChar c = false → P cs → P (c :: cs))
    (word : ∀ w rest, IsWord w → AtWordEnd rest → P rest → P (w ++ rest)) (cs : List Char) :
    P cs := by
  induction hn : cs.length using Nat.strong_induction_on generalizing cs with
  | _ n ih =>
    subst hn
    match cs with
    | [] => exact nil
    | c :: cs =>
      cases hc : isWordChar c with
      | false => exact mark c cs hc (ih _ (by simp) cs rfl)
      | true =>
        have hsplit : (c :: cs.takeWhile isWordChar) ++ cs.dropWhile isWordChar = c :: cs := by
          rw [List.cons_append, List.takeWhile_append_dropWhile]
        rw [← hsplit]
        refine word _ _ (.cons hc fun d hd => List.mem_takeWhile_imp hd)
          (atWordEnd_dropWhile cs) (ih _ ?_ _ rfl)
        exact Nat.lt_succ_of_le (List.length_dropWhile_le _ _)

/-- A keyword in front of something that cannot start with a character of a word is found at the
front of a text exactly if the word there is the keyword. -/
lemma afterFront?_bind_word {β : Type} {front w rest : List Char} {next : List Char → Option β}
    (hfront : ∀ c ∈ front, isWordChar c = true) (hw : ∀ c ∈ w, isWordChar c = true)
    (hrest : AtWordEnd rest) (hnext : ∀ c cs, isWordChar c = true → next (c :: cs) = none) :
    (afterFront? front (w ++ rest)).bind next = if w = front then next rest else none := by
  induction front generalizing w with
  | nil =>
    cases w with
    | nil => simp [afterFront?]
    | cons c w => simp [afterFront?, hnext c _ (hw c (by simp))]
  | cons f front ih =>
    cases w with
    | nil =>
      cases rest with
      | nil => simp [afterFront?]
      | cons c rest =>
        -- the mark differs from the first character of the keyword
        have hne : f ≠ c := by
          rintro rfl
          exact absurd (hfront f (by simp)) (by simp [atWordEnd_cons.1 hrest])
        simp [afterFront?, hne]
    | cons c w =>
      by_cases hfc : f = c
      · have hstep := ih (fun d hd => hfront d (by simp [hd])) (w := w)
          fun d hd => hw d (by simp [hd])
        simp [afterFront?, hfc, hstep]
      · have hne : ¬ c = f := fun h => hfc h.symm
        simp [afterFront?, hfc, hne]

/-! ### Marks -/

lemma isWordChar_of_isGap {c : Char} (h : isGap c = true) : isWordChar c = false := by
  have hc : c = ' ' ∨ c = '\t' := by simpa [isGap] using h
  rcases hc with rfl | rfl <;> decide

lemma isGap_of_isWordChar {c : Char} (h : isWordChar c = true) : isGap c = false := by
  by_contra hgap
  rw [isWordChar_of_isGap (by simpa using hgap)] at h
  exact absurd h (by simp)

lemma afterGap?_of_isWordChar {c : Char} {cs : List Char} (h : isWordChar c = true) :
    afterGap? (c :: cs) = none := by
  simp [afterGap?, isGap_of_isWordChar h]

lemma afterGap?_eq_some_iff {cs rest : List Char} :
    afterGap? cs = some rest ↔ cs.head?.any isGap = true ∧ cs.dropWhile isGap = rest := by
  cases cs with
  | nil => simp [afterGap?]
  | cons c cs => cases hc : isGap c <;> simp [afterGap?, hc]

lemma afterChar?_of_isWordChar {c d : Char} {cs : List Char} (h : isWordChar c = true)
    (hd : isWordChar d = false) : afterChar? d (c :: cs) = none := by
  have hne : c ≠ d := by
    rintro rfl
    exact absurd h (by simp [hd])
  simp [afterChar?, hne]

lemma IsWord.afterGap? {w rest : List Char} (hw : IsWord w) : afterGap? (w ++ rest) = none := by
  obtain ⟨c, v, rfl, hc⟩ := hw.exists_cons
  exact afterGap?_of_isWordChar hc

lemma IsWord.afterChar? {d : Char} {w rest : List Char} (hw : IsWord w)
    (hd : isWordChar d = false) : afterChar? d (w ++ rest) = none := by
  obtain ⟨c, v, rfl, hc⟩ := hw.exists_cons
  exact afterChar?_of_isWordChar hc hd

/-! ### Pieces of code -/

/-- What stands behind a word. -/
inductive Follower where
  /-- An opening parenthesis. -/
  | call
  /-- A gap, and behind it a variable with its type. -/
  | variableAfter (gap : List Char)
  /-- Anything else. -/
  | other
deriving DecidableEq

/-- What stands behind a word, given the text from there on. -/
def follower (cs : List Char) : Follower :=
  if cs.head? = some '(' then .call
  else if ((afterGap? cs).bind afterVariable?).isSome then .variableAfter (cs.takeWhile isGap)
  else .other

/-- A piece of code: a mark, or a word with what stands behind it. -/
inductive Piece where
  | mark (c : Char)
  | word (w : List Char) (behind : Follower)
deriving DecidableEq

/-- The pieces of code. -/
def pieces : List Char → List Piece
  | [] => []
  | c :: cs =>
    if isWordChar c then
      match pieces cs with
      | .word w behind :: ps => .word (c :: w) behind :: ps
      | ps => .word [c] (follower cs) :: ps
    else .mark c :: pieces cs

/-- What becomes of words, given what stands behind them. -/
abbrev Renaming := Follower → List Char → List Char

namespace Piece

/-- The text of a piece. -/
def text : Piece → List Char
  | .mark c => [c]
  | .word w _ => w

/-- Rename a piece, if it is a word. -/
def rename (f : Renaming) : Piece → Piece
  | .mark c => .mark c
  | .word w behind => .word (f behind w) behind

end Piece

/-- Rename the words of code. -/
def renameWords (f : Renaming) (cs : List Char) : List Char :=
  (pieces cs).flatMap fun p => (p.rename f).text

@[simp] lemma pieces_nil : pieces [] = [] := rfl

lemma pieces_mark {c : Char} (hc : isWordChar c = false) (cs : List Char) :
    pieces (c :: cs) = .mark c :: pieces cs := by
  simp [pieces, hc]

lemma pieces_word {w rest : List Char} (hw : IsWord w) (hrest : AtWordEnd rest) :
    pieces (w ++ rest) = .word w (follower rest) :: pieces rest := by
  have hstep : ∀ c w, (∀ d ∈ c :: w, isWordChar d = true) →
      pieces (c :: w ++ rest) = .word (c :: w) (follower rest) :: pieces rest := by
    intro c w
    induction w generalizing c with
    | nil =>
      intro hall
      have hc : isWordChar c = true := hall c (by simp)
      cases rest with
      | nil => simp [pieces, hc]
      | cons d rest =>
        have hd := atWordEnd_cons.1 hrest
        simp [pieces, hc, hd]
    | cons d w ih =>
      intro hall
      have hrec := ih d fun e he => hall e (List.mem_cons_of_mem _ he)
      have hc : isWordChar c = true := hall c (by simp)
      rw [List.cons_append, pieces, if_pos hc, hrec]
  match w, hw with
  | [], hw => exact absurd rfl hw.ne_nil
  | c :: w, hw => exact hstep c w hw.all

section Rename

variable {f : Renaming}

@[simp] lemma renameWords_nil : renameWords f [] = [] := rfl

lemma renameWords_mark {c : Char} (hc : isWordChar c = false) (cs : List Char) :
    renameWords f (c :: cs) = c :: renameWords f cs := by
  simp [renameWords, pieces_mark hc, Piece.rename, Piece.text]

lemma renameWords_marks {marks : List Char} (hmarks : ∀ c ∈ marks, isWordChar c = false)
    (rest : List Char) : renameWords f (marks ++ rest) = marks ++ renameWords f rest := by
  induction marks with
  | nil => rfl
  | cons c marks ih =>
    rw [List.cons_append, renameWords_mark (hmarks c List.mem_cons_self),
      ih fun d hd => hmarks d (List.mem_cons_of_mem c hd), List.cons_append]

lemma renameWords_word {w rest : List Char} (hw : IsWord w) (hrest : AtWordEnd rest) :
    renameWords f (w ++ rest) = f (follower rest) w ++ renameWords f rest := by
  simp [renameWords, pieces_word hw hrest, Piece.rename, Piece.text]

lemma flatMap_text_pieces (cs : List Char) : (pieces cs).flatMap Piece.text = cs := by
  induction cs using text_induction with
  | nil => rfl
  | mark c cs hc ih => simp [pieces_mark hc, Piece.text, ih]
  | word w rest hw hrest ih => simp [pieces_word hw hrest, Piece.text, ih]

/-- Code whose words all keep their names stays as it is. -/
lemma renameWords_eq_self {cs : List Char}
    (h : ∀ w behind, .word w behind ∈ pieces cs → f behind w = w) : renameWords f cs = cs := by
  have hkept : renameWords f cs = (pieces cs).flatMap Piece.text := by
    refine List.flatMap_congr fun p hp => ?_
    cases p with
    | mark c => rfl
    | word w behind => exact h w behind hp
  rw [hkept, flatMap_text_pieces]

end Rename

/-! ### Renaming does not touch the structure of code -/

namespace Renaming

/-- Words become words. -/
def KeepsWords (f : Renaming) : Prop := ∀ behind w, IsWord w → IsWord (f behind w)

/-- The word stays as it is, and no other becomes it. -/
def Keeps (f : Renaming) (v : List Char) : Prop := ∀ behind w, f behind w = v ↔ w = v

/-- Rename in two steps. -/
def followedBy (f g : Renaming) : Renaming := fun behind w => g behind (f behind w)

lemma followedBy_apply (f g : Renaming) (behind : Follower) (w : List Char) :
    f.followedBy g behind w = g behind (f behind w) := rfl

lemma KeepsWords.followedBy {f g : Renaming} (hf : f.KeepsWords) (hg : g.KeepsWords) :
    (f.followedBy g).KeepsWords :=
  fun behind _ hw => hg behind _ (hf behind _ hw)

lemma Keeps.apply {f : Renaming} {v : List Char} (hf : f.Keeps v) (behind : Follower) :
    f behind v = v :=
  (hf behind v).2 rfl

lemma Keeps.followedBy {f g : Renaming} {v : List Char} (hf : f.Keeps v) (hg : g.Keeps v) :
    (f.followedBy g).Keeps v :=
  fun behind w => (hg behind _).trans (hf behind w)

end Renaming

section Structure

variable {f : Renaming}

lemma takeWhile_renameWords {p : Char → Bool} (hf : f.KeepsWords)
    (hp : ∀ c, p c = true → isWordChar c = false) (cs : List Char) :
    (renameWords f cs).takeWhile p = cs.takeWhile p ∧
      (renameWords f cs).dropWhile p = renameWords f (cs.dropWhile p) := by
  -- neither the old nor the new word can be passed over
  have hstop : ∀ {w rest}, IsWord w → (w ++ rest).takeWhile p = [] ∧
      (w ++ rest).dropWhile p = w ++ rest := by
    intro w rest hw
    obtain ⟨c, v, rfl, hword⟩ := hw.exists_cons
    have hc : p c = false := by
      by_contra hc
      rw [Bool.not_eq_false] at hc
      exact absurd hword (by simp [hp c hc])
    simp [hc]
  induction cs using text_induction with
  | nil => simp
  | mark c cs hc ih =>
    rw [renameWords_mark hc, List.takeWhile_cons, List.takeWhile_cons, List.dropWhile_cons,
      List.dropWhile_cons]
    cases p c with
    | true => simpa using ih
    | false => simp [renameWords_mark hc]
  | word w rest hw hrest ih =>
    rw [renameWords_word hw hrest, (hstop (hf _ _ hw)).1, (hstop (hf _ _ hw)).2, (hstop hw).1,
      (hstop hw).2, renameWords_word hw hrest]
    exact ⟨rfl, rfl⟩

lemma head?_renameWords {c : Char} (hf : f.KeepsWords) (hc : isWordChar c = false)
    (cs : List Char) : (renameWords f cs).head? = some c ↔ cs.head? = some c := by
  have hword : ∀ {w rest : List Char}, IsWord w → ¬ (w ++ rest).head? = some c := by
    intro w rest hw hhead
    obtain ⟨d, v, rfl, hd⟩ := hw.exists_cons
    obtain rfl : d = c := by simpa using hhead
    exact absurd hd (by simp [hc])
  induction cs using text_induction with
  | nil => rfl
  | mark d cs hd ih => simp [renameWords_mark hd]
  | word w rest hw hrest ih =>
    rw [renameWords_word hw hrest]
    exact iff_of_false (hword (hf _ _ hw)) (hword hw)

lemma atWordEnd_renameWords (hf : f.KeepsWords) {cs : List Char} :
    AtWordEnd (renameWords f cs) ↔ AtWordEnd cs := by
  induction cs using text_induction with
  | nil => rfl
  | mark c cs hc ih => simp [renameWords_mark hc]
  | word w rest hw hrest ih =>
    rw [renameWords_word hw hrest]
    exact iff_of_false (hf _ _ hw).not_atWordEnd hw.not_atWordEnd

lemma afterGap?_renameWords (hf : f.KeepsWords) (cs : List Char) :
    afterGap? (renameWords f cs) = (afterGap? cs).map (renameWords f) := by
  induction cs using text_induction with
  | nil => rfl
  | mark c cs hc ih =>
    rw [renameWords_mark hc, afterGap?, afterGap?,
      (takeWhile_renameWords hf (fun _ => isWordChar_of_isGap) cs).2]
    split <;> rfl
  | word w rest hw hrest ih =>
    rw [renameWords_word hw hrest, (hf _ _ hw).afterGap?, hw.afterGap?]
    rfl

lemma afterChar?_renameWords {d : Char} (hf : f.KeepsWords) (hd : isWordChar d = false)
    (cs : List Char) : afterChar? d (renameWords f cs) = (afterChar? d cs).map (renameWords f) := by
  induction cs using text_induction with
  | nil => rfl
  | mark c cs hc ih =>
    rw [renameWords_mark hc, afterChar?, afterChar?]
    split <;> rfl
  | word w rest hw hrest ih =>
    rw [renameWords_word hw hrest, (hf _ _ hw).afterChar? hd, hw.afterChar? hd]
    rfl

lemma splitWord?_renameWords (hf : f.KeepsWords) (cs : List Char) :
    splitWord? (renameWords f cs) =
      (splitWord? cs).map fun s => (f (follower s.2) s.1, renameWords f s.2) := by
  induction cs using text_induction with
  | nil => rfl
  | mark c cs hc ih =>
    rw [renameWords_mark hc, splitWord?_of_atWordEnd (atWordEnd_cons.2 hc),
      splitWord?_of_atWordEnd (atWordEnd_cons.2 hc)]
    rfl
  | word w rest hw hrest ih =>
    rw [renameWords_word hw hrest, splitWord?_word hw hrest,
      splitWord?_word (hf _ _ hw) ((atWordEnd_renameWords hf).2 hrest)]
    rfl

lemma afterLength_eq (cs : List Char) :
    afterLength cs = ((afterChar? '[' cs).bind fun cs =>
      (splitWord? cs).bind fun s => afterChar? ']' s.2).getD cs := rfl

lemma afterVariable?_eq (cs : List Char) :
    afterVariable? cs = (splitWord? cs).bind fun s => (afterGap? s.2).bind fun cs =>
      (splitWord? cs).bind fun s => afterChar? ';' (afterLength s.2) := rfl

lemma afterLength_renameWords (hf : f.KeepsWords) (cs : List Char) :
    afterLength (renameWords f cs) = renameWords f (afterLength cs) := by
  have hbracketed : ((afterChar? '[' (renameWords f cs)).bind fun cs =>
        (splitWord? cs).bind fun s => afterChar? ']' s.2) =
      ((afterChar? '[' cs).bind fun cs => (splitWord? cs).bind fun s => afterChar? ']' s.2).map
        (renameWords f) := by
    rw [afterChar?_renameWords hf (by decide), Option.bind_map, Option.map_bind]
    refine Option.bind_congr fun cs _ => ?_
    simp only [Function.comp_apply]
    rw [splitWord?_renameWords hf, Option.bind_map, Option.map_bind]
    exact Option.bind_congr fun s _ => afterChar?_renameWords hf (by decide) s.2
  rw [afterLength_eq, hbracketed, afterLength_eq]
  exact Option.getD_map ..

lemma afterVariable?_renameWords (hf : f.KeepsWords) (cs : List Char) :
    afterVariable? (renameWords f cs) = (afterVariable? cs).map (renameWords f) := by
  rw [afterVariable?_eq, afterVariable?_eq, splitWord?_renameWords hf, Option.bind_map,
    Option.map_bind]
  refine Option.bind_congr fun s _ => ?_
  simp only [Function.comp_apply]
  rw [afterGap?_renameWords hf, Option.bind_map, Option.map_bind]
  refine Option.bind_congr fun cs _ => ?_
  simp only [Function.comp_apply]
  rw [splitWord?_renameWords hf, Option.bind_map, Option.map_bind]
  refine Option.bind_congr fun s _ => ?_
  simp only [Function.comp_apply]
  rw [afterLength_renameWords hf]
  exact afterChar?_renameWords hf (by decide) _

/-- Behind a renamed text stands what stood there before. -/
lemma follower_renameWords (hf : f.KeepsWords) (cs : List Char) :
    follower (renameWords f cs) = follower cs := by
  have hvariable : ((afterGap? (renameWords f cs)).bind afterVariable?).isSome =
      ((afterGap? cs).bind afterVariable?).isSome := by
    rw [afterGap?_renameWords hf, Option.bind_map]
    have hrest : (afterVariable? ∘ renameWords f) =
        fun cs => (afterVariable? cs).map (renameWords f) :=
      funext fun cs => afterVariable?_renameWords hf cs
    rw [hrest]
    cases afterGap? cs <;> simp
  unfold follower
  rw [hvariable, (takeWhile_renameWords hf (fun _ => isWordChar_of_isGap) cs).1,
    if_congr (head?_renameWords hf (by decide) cs) rfl rfl]

/-- The pieces of renamed code are the renamed pieces. -/
theorem pieces_renameWords (hf : f.KeepsWords) (cs : List Char) :
    pieces (renameWords f cs) = (pieces cs).map (Piece.rename f) := by
  induction cs using text_induction with
  | nil => rfl
  | mark c cs hc ih => simp [renameWords_mark hc, pieces_mark hc, Piece.rename, ih]
  | word w rest hw hrest ih =>
    rw [renameWords_word hw hrest,
      pieces_word (hf _ _ hw) ((atWordEnd_renameWords hf).2 hrest), pieces_word hw hrest,
      follower_renameWords hf, ih]
    rfl

/-- Two renamings after each other are one. -/
theorem renameWords_renameWords (hf : f.KeepsWords) (g : Renaming) (cs : List Char) :
    renameWords g (renameWords f cs) = renameWords (f.followedBy g) cs := by
  rw [renameWords, pieces_renameWords hf, List.flatMap_map]
  refine List.flatMap_congr fun p _ => ?_
  cases p <;> rfl

lemma mem_pieces_renameWords (hf : f.KeepsWords) {cs w : List Char} {behind : Follower} :
    .word w behind ∈ pieces (renameWords f cs) ↔
      ∃ v, .word v behind ∈ pieces cs ∧ f behind v = w := by
  rw [pieces_renameWords hf, List.mem_map]
  constructor
  · rintro ⟨p, hp, heq⟩
    cases p with
    | mark c => cases heq
    | word v behind' =>
      obtain ⟨rfl, rfl⟩ : f behind' v = w ∧ behind' = behind := by simpa [Piece.rename] using heq
      exact ⟨v, hp, rfl⟩
  · rintro ⟨v, hv, rfl⟩
    exact ⟨_, hv, rfl⟩

end Structure

end ShaderLoom.Glsl
