import ShaderLoom.Proofs.Glsl.Words

/-!
# Joints of code

Code is cut in front of its main function, and a declaration is put there. No word is cut if none
reaches the joint (`AtWordStart`), and no variable is if what stands behind the joint cannot belong
to one (`Standalone`). Then the pieces of the whole are the pieces of both parts
(`pieces_append`).
-/

namespace ShaderLoom.Glsl

open Text

/-- No word of the text reaches its end. -/
def AtWordStart (cs : List Char) : Prop := cs.getLast?.any isWordChar = false

instance (cs : List Char) : Decidable (AtWordStart cs) :=
  inferInstanceAs (Decidable (cs.getLast?.any isWordChar = false))

lemma atWordStart_append (front : List Char) {cs : List Char} (hne : cs ≠ []) :
    AtWordStart (front ++ cs) ↔ AtWordStart cs := by
  rw [AtWordStart, AtWordStart, List.getLast?_append_of_ne_nil _ hne]

lemma AtWordStart.of_suffix {cs back : List Char} (h : AtWordStart cs) (hback : back <:+ cs) :
    AtWordStart back := by
  obtain ⟨front, rfl⟩ := hback
  by_cases hnil : back = []
  · exact hnil ▸ rfl
  · exact (atWordStart_append _ hnil).1 h

lemma AtWordStart.append {front cs : List Char} (hfront : AtWordStart front)
    (h : AtWordStart cs) : AtWordStart (front ++ cs) := by
  by_cases hnil : cs = []
  · simpa [hnil] using hfront
  · exact (atWordStart_append _ hnil).2 h

lemma AtWordStart.ne_nil {w rest : List Char} (hw : IsWord w) (h : AtWordStart (w ++ rest)) :
    rest ≠ [] := by
  rintro rfl
  rw [List.append_nil, AtWordStart, List.getLast?_eq_getLast_of_ne_nil hw.ne_nil] at h
  exact absurd (hw.all _ (List.getLast_mem hw.ne_nil)) (by simpa using h)

lemma atWordEnd_append {front : List Char} (hne : front ≠ []) (cs : List Char) :
    AtWordEnd (front ++ cs) ↔ AtWordEnd front := by
  rw [AtWordEnd, AtWordEnd, List.head?_append_of_ne_nil _ hne]

lemma suffix_of_splitWord? {cs : List Char} {s : List Char × List Char}
    (h : splitWord? cs = some s) : s.2 <:+ cs := by
  obtain ⟨-, -, rfl⟩ := splitWord?_eq_some h
  exact List.suffix_append _ _

lemma suffix_of_afterGap? {cs rest : List Char} (h : afterGap? cs = some rest) : rest <:+ cs := by
  obtain ⟨-, rfl⟩ := afterGap?_eq_some_iff.1 h
  exact List.dropWhile_suffix _

/-- A word, and behind it a text that keeps it from being a part of a variable or of an output that
starts before the word. -/
structure Standalone (v rest : List Char) : Prop where
  word : IsWord v
  mark : AtWordEnd rest
  notType : v ≠ "vec4".toList
  notLength : afterChar? ']' rest = none
  notName : afterChar? ';' (afterLength rest) = none
  notOutput : afterChar? ';' (rest.dropWhile isGap) = none
  notVariable : afterVariable? (v ++ rest) = none

section Cut

variable {front v rest : List Char}

lemma dropWhile_isGap_append (hv : IsWord v) :
    (front ++ (v ++ rest)).dropWhile isGap = front.dropWhile isGap ++ (v ++ rest) ∧
      (front ++ (v ++ rest)).takeWhile isGap = front.takeWhile isGap := by
  induction front with
  | nil =>
    obtain ⟨c, w, rfl, hc⟩ := hv.exists_cons
    simp [isGap_of_isWordChar hc]
  | cons c front ih => cases hc : isGap c <;> simp [hc, ih]

lemma afterGap?_append (hv : IsWord v) :
    afterGap? (front ++ (v ++ rest)) = (afterGap? front).map (· ++ (v ++ rest)) := by
  cases front with
  | nil => exact hv.afterGap?
  | cons c front =>
    rw [List.cons_append, afterGap?, afterGap?, (dropWhile_isGap_append hv).1]
    split <;> rfl

lemma afterChar?_append {d : Char} (hv : IsWord v) (hd : isWordChar d = false) :
    afterChar? d (front ++ (v ++ rest)) = (afterChar? d front).map (· ++ (v ++ rest)) := by
  cases front with
  | nil => exact hv.afterChar? hd
  | cons c front =>
    rw [List.cons_append, afterChar?, afterChar?]
    split <;> rfl

/-- The word at the front of a text is not cut; where there is none, the next word comes from
behind the joint. -/
lemma splitWord?_append_bind {β : Type} {next : List Char × List Char → Option β}
    (hfront : AtWordStart front) (hv : IsWord v) (hrest : AtWordEnd rest)
    (hnext : next (v, rest) = none) :
    (splitWord? (front ++ (v ++ rest))).bind next =
      (splitWord? front).bind fun s => next (s.1, s.2 ++ (v ++ rest)) := by
  cases front using text_induction with
  | nil => simp [splitWord?_word hv hrest, hnext, splitWord?_of_atWordEnd atWordEnd_nil]
  | mark c cs hc =>
    rw [List.cons_append, splitWord?_of_atWordEnd (atWordEnd_cons.2 hc),
      splitWord?_of_atWordEnd (atWordEnd_cons.2 hc)]
    rfl
  | word w cs hw hcs =>
    match cs, hcs, hfront.ne_nil hw with
    | c :: cs, hcs, _ =>
      rw [List.append_assoc, splitWord?_word hw hcs, splitWord?_word hw (by simpa using hcs)]
      rfl

variable (hfront : AtWordStart front) (hback : Standalone v rest)
include hfront hback

lemma afterLength_append :
    afterLength (front ++ (v ++ rest)) = afterLength front ++ (v ++ rest) := by
  have hbracketed : ((afterChar? '[' (front ++ (v ++ rest))).bind fun cs =>
        (splitWord? cs).bind fun s => afterChar? ']' s.2) =
      ((afterChar? '[' front).bind fun cs => (splitWord? cs).bind fun s =>
        afterChar? ']' s.2).map (· ++ (v ++ rest)) := by
    rw [afterChar?_append hback.word (by decide), Option.bind_map, Option.map_bind]
    refine Option.bind_congr fun cs hcs => ?_
    have hcs' := hfront.of_suffix (suffix_of_afterChar? hcs)
    simp only [Function.comp_apply]
    rw [splitWord?_append_bind hcs' hback.word hback.mark hback.notLength, Option.map_bind]
    exact Option.bind_congr fun s _ => afterChar?_append hback.word (by decide)
  rw [afterLength_eq, hbracketed, afterLength_eq]
  exact Option.getD_map ..

lemma afterVariable?_append :
    afterVariable? (front ++ (v ++ rest)) = (afterVariable? front).map (· ++ (v ++ rest)) := by
  have hnone := hback.notVariable
  rw [afterVariable?_eq, splitWord?_word hback.word hback.mark, Option.bind_some] at hnone
  rw [afterVariable?_eq, afterVariable?_eq,
    splitWord?_append_bind hfront hback.word hback.mark hnone, Option.map_bind]
  refine Option.bind_congr fun s hs => ?_
  have hs' := hfront.of_suffix (suffix_of_splitWord? hs)
  simp only [Function.comp_apply]
  rw [afterGap?_append hback.word, Option.bind_map, Option.map_bind]
  refine Option.bind_congr fun cs hcs => ?_
  have hcs' := hs'.of_suffix (suffix_of_afterGap? hcs)
  simp only [Function.comp_apply]
  rw [splitWord?_append_bind hcs' hback.word hback.mark hback.notName, Option.map_bind]
  refine Option.bind_congr fun t ht => ?_
  simp only [Function.comp_apply]
  rw [afterLength_append (hcs'.of_suffix (suffix_of_splitWord? ht)) hback]
  exact afterChar?_append hback.word (by decide)

/-- What stands behind a word does not reach over the joint. -/
lemma follower_append (hne : front ≠ []) : follower (front ++ (v ++ rest)) = follower front := by
  have hhead : (front ++ (v ++ rest)).head? = front.head? := List.head?_append_of_ne_nil _ hne
  have hvariable : ((afterGap? (front ++ (v ++ rest))).bind afterVariable?).isSome =
      ((afterGap? front).bind afterVariable?).isSome := by
    rw [afterGap?_append hback.word, Option.bind_map]
    cases hcs : afterGap? front with
    | none => rfl
    | some cs =>
      have hcut := afterVariable?_append (hfront.of_suffix (suffix_of_afterGap? hcs)) hback
      simp [hcut]
  rw [follower, follower, hhead, hvariable, (dropWhile_isGap_append hback.word).2]

/-- Code is cut between its pieces. -/
theorem pieces_append : pieces (front ++ (v ++ rest)) = pieces front ++ pieces (v ++ rest) := by
  induction front using text_induction with
  | nil => rfl
  | mark c cs hc ih =>
    rw [List.cons_append, pieces_mark hc, pieces_mark hc,
      ih (hfront.of_suffix (List.suffix_cons c cs)), List.cons_append]
  | word w cs hw hcs ih =>
    have hne := hfront.ne_nil hw
    have hcs2 := hfront.of_suffix (List.suffix_append w cs)
    rw [List.append_assoc, pieces_word hw ((atWordEnd_append hne _).2 hcs), pieces_word hw hcs,
      follower_append hcs2 hback hne, ih hcs2, List.cons_append]

lemma renameWords_append (f : Renaming) :
    renameWords f (front ++ (v ++ rest)) = renameWords f front ++ renameWords f (v ++ rest) := by
  rw [renameWords, pieces_append hfront hback, List.flatMap_append]
  rfl

end Cut

section Rename

variable {f : Renaming}

lemma renameWords_eq_nil_iff (hf : f.KeepsWords) {cs : List Char} :
    renameWords f cs = [] ↔ cs = [] := by
  cases cs using text_induction with
  | nil => simp
  | mark c cs hc => simp [renameWords_mark hc]
  | word w rest hw hrest => simp [renameWords_word hw hrest, (hf _ w hw).ne_nil, hw.ne_nil]

lemma atWordStart_renameWords (hf : f.KeepsWords) {cs : List Char} (h : AtWordStart cs) :
    AtWordStart (renameWords f cs) := by
  induction cs using text_induction with
  | nil => exact h
  | mark c cs hc ih =>
    have hcs := ih (h.of_suffix (List.suffix_cons c cs))
    rw [renameWords_mark hc]
    by_cases hnil : renameWords f cs = []
    · simp [hnil, AtWordStart, hc]
    · exact (atWordStart_append [c] hnil).2 hcs
  | word w cs hw hcs ih =>
    have hne : renameWords f cs ≠ [] := by
      rw [ne_eq, renameWords_eq_nil_iff hf]
      exact h.ne_nil hw
    rw [renameWords_word hw hcs, atWordStart_append _ hne]
    exact ih (h.of_suffix (List.suffix_append w cs))

end Rename

end ShaderLoom.Glsl
