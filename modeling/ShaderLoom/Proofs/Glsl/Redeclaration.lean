import ShaderLoom.Proofs.Glsl.Completeness

/-!
# Words that are declared with the type of outputs

In the older dialect, a declared output becomes the built-in one wherever its name stands, whatever
it means there. So the built-in output comes to be declared itself exactly if the source declares
another thing of that name and type, such as a parameter of a function
(`transpile_redeclares_iff`). Which words stand behind the type of outputs does not change in
respelled code (`declares_respelled`), nor by a conversion of the version
(`declares_versionTo100`).
-/

namespace ShaderLoom.Glsl

open Text

/-! ### Behind the type of outputs -/

/-- The type of outputs. -/
abbrev outputType : List Char := "vec4".toList

/-- The text ends with the type of outputs, perhaps with a gap behind it. -/
def EndsWithType (cs : List Char) : Prop :=
  ∃ front gap, cs = front ++ (outputType ++ gap) ∧ AtWordStart front ∧ IsGapText gap

lemma not_endsWithType_nil : ¬ EndsWithType [] := by
  rintro ⟨front, gap, heq, -⟩
  simp at heq

lemma endsWithType_mark {c : Char} {cs : List Char} (hc : isWordChar c = false) :
    EndsWithType (cs ++ [c]) ↔ isGap c = true ∧ EndsWithType cs := by
  constructor
  · rintro ⟨front, gap, heq, hfront, hgap⟩
    rcases List.eq_nil_or_concat gap with rfl | ⟨gap, d, rfl⟩
    · -- the type ends with a character of a word
      have hlast := congrArg List.getLast? heq
      have hend : (front ++ (outputType ++ [])).getLast? = some '4' := by
        rw [List.getLast?_append]
        rfl
      rw [hend, List.getLast?_concat, Option.some.injEq] at hlast
      rw [hlast] at hc
      exact absurd hc (by decide)
    · rw [List.concat_eq_append, ← List.append_assoc, ← List.append_assoc] at heq
      rw [List.concat_eq_append] at hgap
      obtain ⟨hcs, hd⟩ := List.append_inj' heq rfl
      obtain rfl : c = d := by simpa using hd
      rw [List.append_assoc] at hcs
      exact ⟨hgap c (by simp), front, gap, hcs, hfront, fun e he => hgap e (by simp [he])⟩
  · rintro ⟨hgap, front, gap, rfl, hfront, hgaps⟩
    refine ⟨front, gap ++ [c], by simp only [List.append_assoc], hfront, ?_⟩
    exact List.forall_mem_append.2 ⟨hgaps, List.forall_mem_singleton.2 hgap⟩

lemma endsWithType_gap {cs gap : List Char} (hgap : IsGapText gap) :
    EndsWithType (cs ++ gap) ↔ EndsWithType cs := by
  induction gap generalizing cs with
  | nil => rw [List.append_nil]
  | cons c gap ih =>
    have hc := hgap c List.mem_cons_self
    rw [List.append_cons, ih fun d hd => hgap d (List.mem_cons_of_mem c hd),
      endsWithType_mark (isWordChar_of_isGap hc), and_iff_right hc]

/-- Behind a word that has not ended, there is no gap yet. -/
lemma endsWithType_word {cs w : List Char} (hcs : AtWordStart cs) (hw : IsWord w) :
    EndsWithType (cs ++ w) ↔ w = outputType := by
  have htype : IsWord outputType := by decide
  constructor
  · rintro ⟨front, gap, heq, hfront, hgap⟩
    have hend : ¬ AtWordStart (cs ++ w) := fun h =>
      (AtWordStart.ne_nil hw (by simpa using h.of_suffix (List.suffix_append cs w)) :
        ([] : List Char) ≠ []) rfl
    have hnil : gap = [] := by
      by_contra hne
      refine hend (heq ▸ ?_)
      rw [← List.append_assoc]
      exact (atWordStart_append _ hne).2 (atWordStart_gap hgap)
    subst hnil
    have hplace : IsWordAt outputType front (cs ++ w) := ⟨[], heq, hfront, rfl⟩
    rcases (isWordAt_append htype hcs).1 hplace with ⟨behind, rfl, -, -⟩ | ⟨before, rfl, hthere⟩
    · have hlength := congrArg List.length heq
      have hpos := List.length_pos_of_ne_nil hw.ne_nil
      simp only [List.length_append, List.length_nil] at hlength
      omega
    · rw [← List.append_nil w] at hthere
      rcases (isWordAt_word htype hw atWordEnd_nil).1 hthere with ⟨-, rfl⟩ | ⟨before, -, hnone⟩
      · rfl
      · exact absurd hnone (not_isWordAt_nil htype)
  · rintro rfl
    exact ⟨cs, [], by rw [List.append_nil], hcs, List.forall_mem_nil _⟩

/-- What ends with the type of outputs, and with something behind it, has the type as a word. -/
lemma EndsWithType.hasWord {front cs : List Char} (h : EndsWithType front)
    (hstart : AtWordStart front) : hasWord outputType (front ++ cs) = true := by
  obtain ⟨back, gap, rfl, hback, hgap⟩ := h
  have hne : gap ≠ [] :=
    (hstart.of_suffix (List.suffix_append back _)).ne_nil (w := outputType) (by decide)
  refine (hasWord_iff_exists_isWordAt (by decide)).2 ⟨back, gap ++ cs, ?_, hback, ?_⟩
  · simp only [List.append_assoc]
  · exact hgap.atWordEnd hne cs

/-! ### Declared words -/

/-- The word stands somewhere behind the type of outputs and a gap. -/
def IsDeclared (w cs : List Char) : Prop := ∃ before, IsWordAt w before cs ∧ EndsWithType before

/-- Somewhere in the code `cs`, in front of which stands the text `back`, a word that gets the name
stands behind the type of outputs and a gap. -/
def Declares (f : Renaming) (name back cs : List Char) : Prop :=
  ∃ front w behind, cs = front ++ (w ++ behind) ∧ AtWordStart (back ++ front) ∧ IsWord w ∧
    AtWordEnd behind ∧ EndsWithType (back ++ front) ∧ f (follower behind) w = name

/-- All words keep their names. -/
def Renaming.unchanged : Renaming := fun _ w => w

lemma Renaming.unchanged_ignoresGaps : Renaming.unchanged.IgnoresGaps := fun _ _ => rfl

lemma map_unchanged (cs : List Char) : (wording cs).map Renaming.unchanged.onWord = wording cs :=
  List.map_id _

lemma isDeclared_iff {w cs : List Char} (hw : IsWord w) :
    IsDeclared w cs ↔ Declares .unchanged w [] cs := by
  constructor
  · rintro ⟨front, ⟨behind, heq, hstart, hend⟩, htype⟩
    exact ⟨front, w, behind, heq, hstart, hw, hend, htype, rfl⟩
  · rintro ⟨front, w, behind, heq, hstart, -, hend, htype, rfl⟩
    exact ⟨front, ⟨behind, heq, hstart, hend⟩, htype⟩

section Declares

variable {f g : Renaming} {name back back' cs : List Char}

lemma not_declares_nil : ¬ Declares f name back [] := by
  rintro ⟨front, w, behind, heq, -, hw, -⟩
  simp [hw.ne_nil] at heq

lemma declares_mark {c : Char} (hc : isWordChar c = false) :
    Declares f name back (c :: cs) ↔ Declares f name (back ++ [c]) cs := by
  constructor
  · rintro ⟨front, w, behind, heq, hstart, hw, hend, htype, hname⟩
    obtain ⟨front, rfl, -⟩ := (isWordAt_mark hw hc).1
      ⟨behind, heq, hstart.of_suffix (List.suffix_append back front), hend⟩
    rw [List.append_cons] at hstart htype
    exact ⟨front, w, behind, (List.cons.inj heq).2, hstart, hw, hend, htype, hname⟩
  · rintro ⟨front, w, behind, rfl, hstart, hw, hend, htype, hname⟩
    rw [← List.append_cons] at hstart htype
    exact ⟨c :: front, w, behind, rfl, hstart, hw, hend, htype, hname⟩

lemma declares_gap {gap : List Char} (hgap : IsGapText gap) :
    Declares f name back (gap ++ cs) ↔ Declares f name (back ++ gap) cs := by
  induction gap generalizing back with
  | nil => rw [List.nil_append, List.append_nil]
  | cons c gap ih =>
    rw [List.cons_append, declares_mark (isWordChar_of_isGap (hgap c List.mem_cons_self)),
      ih fun d hd => hgap d (List.mem_cons_of_mem c hd), ← List.append_cons]

lemma declares_word {w : List Char} (hback : AtWordStart back) (hw : IsWord w)
    (hcs : AtWordEnd cs) :
    Declares f name back (w ++ cs) ↔
      (EndsWithType back ∧ f (follower cs) w = name) ∨ Declares f name (back ++ w) cs := by
  constructor
  · rintro ⟨front, v, behind, heq, hstart, hv, hend, htype, hname⟩
    rcases (isWordAt_word hv hw hcs).1
      ⟨behind, heq, hstart.of_suffix (List.suffix_append back front), hend⟩ with
      ⟨rfl, rfl⟩ | ⟨front, rfl, -⟩
    · obtain rfl := List.append_cancel_left heq
      exact .inl ⟨by rwa [List.append_nil] at htype, hname⟩
    · rw [List.append_assoc] at heq
      rw [← List.append_assoc] at hstart htype
      exact .inr ⟨front, v, behind, List.append_cancel_left heq, hstart, hv, hend, htype, hname⟩
  · rintro (⟨htype, hname⟩ | ⟨front, v, behind, rfl, hstart, hv, hend, htype, hname⟩)
    · exact ⟨[], w, cs, rfl, by rwa [List.append_nil], hw, hcs, by rwa [List.append_nil], hname⟩
    · rw [List.append_assoc] at hstart htype
      exact ⟨w ++ front, v, behind, by rw [List.append_assoc], hstart, hv, hend, htype, hname⟩

/-- A word that is not the type, and behind no type, declares nothing. -/
lemma declares_other {w : List Char} (hback : AtWordStart back) (htype : ¬ EndsWithType back)
    (hw : IsWord w) (hcs : AtWordEnd cs) :
    Declares f name back (w ++ cs) ↔ Declares f name (back ++ w) cs := by
  rw [declares_word hback hw hcs, or_iff_right fun h => htype h.1]

lemma declares_congr {name' : List Char}
    (h : ∀ w, hasWord w cs = true → ∀ behind, f behind w = name ↔ g behind w = name') :
    Declares f name back cs ↔ Declares g name' back cs := by
  have hmem : ∀ {front w behind : List Char}, cs = front ++ (w ++ behind) →
      AtWordStart (back ++ front) → IsWord w → AtWordEnd behind → hasWord w cs = true :=
    fun heq hstart hw hend => (hasWord_iff_exists_isWordAt hw).2
      ⟨_, _, heq, hstart.of_suffix (List.suffix_append back _), hend⟩
  constructor
  · rintro ⟨front, w, behind, heq, hstart, hw, hend, htype, hname⟩
    exact ⟨front, w, behind, heq, hstart, hw, hend, htype,
      (h w (hmem heq hstart hw hend) _).1 hname⟩
  · rintro ⟨front, w, behind, heq, hstart, hw, hend, htype, hname⟩
    exact ⟨front, w, behind, heq, hstart, hw, hend, htype,
      (h w (hmem heq hstart hw hend) _).2 hname⟩

/-- In code that is cut between words, a word that is declared stands in one of the parts. -/
lemma declares_append {front : List Char} (hfront : AtWordStart front) :
    Declares .unchanged name back (front ++ cs) ↔
      Declares .unchanged name back front ∨ Declares .unchanged name (back ++ front) cs := by
  constructor
  · rintro ⟨before, w, behind, heq, hstart, hw, hend, htype, hname⟩
    rcases (isWordAt_append hw hfront).1
      ⟨behind, heq, hstart.of_suffix (List.suffix_append back before), hend⟩ with
      ⟨behind, heq, -, hend⟩ | ⟨before, rfl, behind, heq, -, hend⟩
    · exact .inl ⟨before, w, behind, heq, hstart, hw, hend, htype, hname⟩
    · rw [← List.append_assoc] at hstart htype
      exact .inr ⟨before, w, behind, heq, hstart, hw, hend, htype, hname⟩
  · rintro (⟨before, w, behind, heq, hstart, hw, hend, htype, hname⟩ |
      ⟨before, w, behind, heq, hstart, hw, hend, htype, hname⟩)
    · have hplace : IsWordAt w before (front ++ cs) := (isWordAt_append hw hfront).2
        (.inl ⟨behind, heq, hstart.of_suffix (List.suffix_append back before), hend⟩)
      obtain ⟨behind, heq, -, hend⟩ := hplace
      exact ⟨before, w, behind, heq, hstart, hw, hend, htype, hname⟩
    · rw [List.append_assoc] at hstart htype
      exact ⟨front ++ before, w, behind, by rw [heq, List.append_assoc], hstart, hw, hend, htype,
        hname⟩

end Declares

/-! ### Respelled code -/

section Respelled

variable {fixed : List Char → Prop} {f g : Renaming} {name cs ds back back' : List Char}

/-- Respelled texts both end with the type of outputs, or neither does. -/
lemma endsWithType_respelled (h : Respelled fixed cs ds) (htype : fixed outputType)
    (hback : AtWordStart back ∨ AtWordEnd cs) (hback' : AtWordStart back' ∨ AtWordEnd ds)
    (hsame : EndsWithType back' ↔ EndsWithType back) :
    EndsWithType (back' ++ ds) ↔ EndsWithType (back ++ cs) := by
  induction h generalizing back back' with
  | nil => rwa [List.append_nil, List.append_nil]
  | @mark c cs ds hc hrest ih =>
    have hstart : ∀ back, AtWordStart (back ++ [c]) := fun back => by simp [AtWordStart, hc]
    rw [List.append_cons back, List.append_cons back']
    refine ih (.inl (hstart _)) (.inl (hstart _)) ?_
    rw [endsWithType_mark hc, endsWithType_mark hc, hsame]
  | @gap g g' cs ds hne hne' hg hg' hrest ih =>
    rw [← List.append_assoc, ← List.append_assoc]
    refine ih (.inl ((atWordStart_append _ hne).2 (atWordStart_gap hg)))
      (.inl ((atWordStart_append _ hne').2 (atWordStart_gap hg'))) ?_
    rw [endsWithType_gap hg, endsWithType_gap hg', hsame]
  | @word w v cs ds hw hv hcs hname hrest ih =>
    rw [← List.append_assoc, ← List.append_assoc]
    refine ih (.inr hcs) (.inr (hrest.atWordEnd_iff.1 hcs)) ?_
    rw [endsWithType_word (hback.resolve_right hw.not_atWordEnd) hw,
      endsWithType_word (hback'.resolve_right hv.not_atWordEnd) hv, hname _ htype]

/-- In respelled code, the same words are declared, by the names that they get. -/
theorem declares_respelled (h : Respelled fixed cs ds) (htype : fixed outputType)
    (hf : f.IgnoresGaps) (hg : g.IgnoresGaps)
    (hwording : (wording ds).map g.onWord = (wording cs).map f.onWord)
    (hback : AtWordStart back ∨ AtWordEnd cs) (hback' : AtWordStart back' ∨ AtWordEnd ds)
    (hsame : EndsWithType back' ↔ EndsWithType back) :
    Declares g name back' ds ↔ Declares f name back cs := by
  induction h generalizing back back' with
  | nil => exact iff_of_false not_declares_nil not_declares_nil
  | @mark c cs ds hc hrest ih =>
    have hstart : ∀ back, AtWordStart (back ++ [c]) := fun back => by simp [AtWordStart, hc]
    rw [wording_mark hc, wording_mark hc] at hwording
    rw [declares_mark hc, declares_mark hc]
    refine ih hwording (.inl (hstart _)) (.inl (hstart _)) ?_
    rw [endsWithType_mark hc, endsWithType_mark hc, hsame]
  | @gap u u' cs ds hne hne' hu hu' hrest ih =>
    rw [wording_marks fun c hc => isWordChar_of_isGap (hu c hc),
      wording_marks fun c hc => isWordChar_of_isGap (hu' c hc)] at hwording
    rw [declares_gap hu, declares_gap hu']
    refine ih hwording (.inl ((atWordStart_append _ hne).2 (atWordStart_gap hu)))
      (.inl ((atWordStart_append _ hne').2 (atWordStart_gap hu'))) ?_
    rw [endsWithType_gap hu, endsWithType_gap hu', hsame]
  | @word w v cs ds hw hv hcs hname hrest ih =>
    have hds := hrest.atWordEnd_iff.1 hcs
    have hstart := hback.resolve_right hw.not_atWordEnd
    have hstart' := hback'.resolve_right hv.not_atWordEnd
    rw [wording_word hw hcs, wording_word hv hds, List.map_cons, List.map_cons] at hwording
    obtain ⟨hword, hwords⟩ := List.cons.inj hwording
    have hgets : g (follower ds) v = f (follower cs) w := by
      rw [← hg, ← hf]
      exact congrArg Prod.snd hword
    rw [declares_word hstart hw hcs, declares_word hstart' hv hds, hsame, hgets,
      ih hwords (.inr hcs) (.inr hds)]
    rw [endsWithType_word hstart hw, endsWithType_word hstart' hv, hname _ htype]

end Respelled

/-! ### The converted version -/

section Version

variable {f : Renaming} {name back cs : List Char}

/-- Words that are not the type declare nothing, and what they are put in front of is behind no
type. -/
lemma declares_pass {front : List Char} (hfront : AtWordStart front)
    (hwords : ∀ w behind, .word w behind ∈ pieces front → w ≠ outputType)
    (hback : AtWordStart back ∨ AtWordEnd front) (htype : ¬ EndsWithType back) :
    ¬ EndsWithType (back ++ front) ∧
      (Declares f name back (front ++ cs) ↔ Declares f name (back ++ front) cs) := by
  induction front using text_induction generalizing back with
  | nil =>
    rw [List.append_nil, List.nil_append]
    exact ⟨htype, Iff.rfl⟩
  | mark c front hc ih =>
    rw [pieces_mark hc] at hwords
    have hstart : AtWordStart (back ++ [c]) := by simp [AtWordStart, hc]
    rw [List.append_cons back, List.cons_append, declares_mark hc]
    exact ih (hfront.of_suffix (List.suffix_cons c front))
      (fun w behind hmem => hwords w behind (List.mem_cons_of_mem _ hmem)) (.inl hstart)
      fun h => htype ((endsWithType_mark hc).1 h).2
  | word w front hw hend ih =>
    rw [pieces_word hw hend] at hwords
    have hstart := hback.resolve_right hw.not_atWordEnd
    have hend' := (atWordEnd_append (hfront.ne_nil hw) cs).2 hend
    rw [← List.append_assoc back, List.append_assoc w, declares_other hstart htype hw hend']
    exact ih (hfront.of_suffix (List.suffix_append w front))
      (fun v behind hmem => hwords v behind (List.mem_cons_of_mem _ hmem)) (.inr hend)
      fun h => hwords w _ List.mem_cons_self ((endsWithType_word hstart hw).1 h)

/-- Words of a version, and behind them a word that starts with one. -/
structure IsVersionFront (line w : List Char) : Prop where
  line : OfVersionWords line
  word : IsWord w
  lead : "es".toList <+: w ∨ "100".toList <+: w

namespace IsVersionFront

variable {line w : List Char} (h : IsVersionFront line w)
include h

lemma ne {v : List Char} (hnew : ¬ "es".toList <+: v) (hold : ¬ "100".toList <+: v) : w ≠ v := by
  rintro rfl
  exact h.lead.elim hnew hold

lemma declares (hcs : AtWordEnd cs) :
    ¬ EndsWithType (line ++ w) ∧
      (Declares f name [] (line ++ (w ++ cs)) ↔ Declares f name (line ++ w) cs) := by
  have hother : ∀ v ∈ versionWords, v ≠ outputType := by decide
  obtain ⟨hline, hpass⟩ := @declares_pass f name [] (w ++ cs) line h.line.start
    (fun v behind hmem => hother v (h.line.words v behind hmem)) (.inl rfl) not_endsWithType_nil
  refine ⟨fun htype => ?_, hpass.trans (declares_other h.line.start hline h.word hcs)⟩
  exact h.ne (by decide) (by decide) ((endsWithType_word h.line.start h.word).1 htype)

lemma hasWord_builtinOutput (hcs : AtWordEnd cs) :
    hasWord builtinOutput (line ++ (w ++ cs)) = true ↔ hasWord builtinOutput cs = true := by
  rw [h.line.hasWord (by decide) (by decide), hasWord_word (by decide) h.word hcs]
  exact or_iff_right (h.ne (by decide) (by decide)).symm

end IsVersionFront

/-- Conversion of the version changes nothing, or it changes what stands in front of a text behind a
version. -/
lemma versionTo100_cases (cs : List Char) :
    versionTo100 cs = cs ∨ ∃ line line' w w' rest, cs = line ++ (w ++ rest) ∧
      versionTo100 cs = line' ++ (w' ++ rest) ∧ IsVersionFront line w ∧
        IsVersionFront line' w' ∧ AtWordEnd rest := by
  cases h : afterVersion300? cs with
  | none => exact .inl (versionTo100_eq_self h)
  | some behind =>
    obtain ⟨line, heq, hline, -⟩ := afterVersion300?_cut h
    refine .inr ⟨line, "#version ".toList, "es".toList ++ behind.takeWhile isWordChar,
      "100".toList ++ behind.takeWhile isWordChar, behind.dropWhile isWordChar, ?_, ?_,
      ⟨hline, isWord_append_takeWhile (by decide) behind, .inl (List.prefix_append _ _)⟩,
      ⟨ofVersionWords_lead (by decide), isWord_append_takeWhile (by decide) behind,
        .inr (List.prefix_append _ _)⟩, atWordEnd_dropWhile behind⟩
    · rw [heq, List.append_assoc "es".toList, List.takeWhile_append_dropWhile]
    · rw [versionTo100, h, List.append_assoc "100".toList, List.takeWhile_append_dropWhile]
      rfl

lemma respelled_self (cs : List Char) : Respelled (· = outputType) cs cs := .refl cs

lemma declares_versionTo100 (hf : f.IgnoresGaps) (cs : List Char) :
    Declares f name [] (versionTo100 cs) ↔ Declares f name [] cs := by
  rcases versionTo100_cases cs with hsame | ⟨line, line', w, w', rest, rfl, heq, hfront, hfront',
    hrest⟩
  · rw [hsame]
  · obtain ⟨htype, hbehind⟩ := @IsVersionFront.declares f name rest _ _ hfront hrest
    obtain ⟨htype', hbehind'⟩ := @IsVersionFront.declares f name rest _ _ hfront' hrest
    rw [heq, hbehind, hbehind']
    exact declares_respelled (respelled_self rest) rfl hf hf rfl (.inr hrest) (.inr hrest)
      (iff_of_false htype' htype)

lemma endsWithType_versionTo100 (cs : List Char) :
    EndsWithType (versionTo100 cs) ↔ EndsWithType cs := by
  rcases versionTo100_cases cs with hsame | ⟨line, line', w, w', rest, rfl, heq, hfront, hfront',
    hrest⟩
  · rw [hsame]
  · have htype := (@IsVersionFront.declares .unchanged [] rest _ _ hfront hrest).1
    have htype' := (@IsVersionFront.declares .unchanged [] rest _ _ hfront' hrest).1
    rw [heq, ← List.append_assoc, ← List.append_assoc]
    exact endsWithType_respelled (respelled_self rest) rfl (.inr hrest) (.inr hrest)
      (iff_of_false htype' htype)

lemma hasWord_builtinOutput_versionTo100 (cs : List Char) :
    hasWord builtinOutput (versionTo100 cs) = true ↔ hasWord builtinOutput cs = true := by
  rcases versionTo100_cases cs with hsame | ⟨line, line', w, w', rest, rfl, heq, hfront, hfront',
    hrest⟩
  · rw [hsame]
  · rw [heq, hfront.hasWord_builtinOutput hrest, hfront'.hasWord_builtinOutput hrest]

end Version

/-! ### The built-in output in place of the declared one -/

lemma qualifierRenaming_ignoresGaps (old new : List Char) :
    (qualifierRenaming old new).IgnoresGaps := by
  intro behind w
  cases behind <;> rfl

lemma nameTo100_ignoresGaps (stage : Stage) : (nameTo100 stage).IgnoresGaps := by
  have hchanges : ∀ changes, (changesRenaming changes).IgnoresGaps := by
    intro changes
    induction changes with
    | nil => exact fun _ _ => rfl
    | cons change changes ih => exact (qualifierRenaming_ignoresGaps _ _).followedBy ih
  exact textureTo100_ignoresGaps.followedBy (hchanges _)

section Output

variable {name before before' rest rest' : List Char}

/-- The built-in output is declared where another thing was declared by the old name, unless that is
the name of the type. -/
lemma isDeclared_renameWord_iff {cs : List Char} (hname : IsWord name)
    (hunused : hasWord builtinOutput cs = false) :
    IsDeclared builtinOutput (renameWord name builtinOutput cs) ↔
      name ≠ outputType ∧ Declares .unchanged name [] cs := by
  by_cases htype : name = outputType
  · -- the type is gone
    refine iff_of_false ?_ fun h => h.1 htype
    rintro ⟨front, ⟨behind, heq, hstart, -⟩, hends⟩
    have hword : hasWord outputType (front ++ (builtinOutput ++ behind)) = true :=
      hends.hasWord hstart
    rw [← heq, hasWord_iff (by decide)] at hword
    obtain ⟨behind, hmem⟩ := hword
    exact ne_name_of_mem_wording hname (htype ▸ by decide) cs _ (mem_wording hmem) htype.symm
  · have hkeepsWords : (wordRenaming name builtinOutput).KeepsWords :=
      wordRenaming_keepsWords (by decide)
    have hrespelled : Respelled (· = outputType) cs
        (renameWords (wordRenaming name builtinOutput) cs) :=
      respelled_renameWords hkeepsWords
        (by rintro x rfl; exact wordRenaming_keeps (Ne.symm htype) (by decide)) cs
    rw [isDeclared_iff (by decide), and_iff_right htype, renameWord_eq_renameWords hname,
      declares_respelled hrespelled rfl (fun _ _ => rfl) Renaming.unchanged_ignoresGaps
        ((map_unchanged _).trans (wording_renameWords hkeepsWords (fun _ _ => rfl) cs))
        (.inl (by rfl)) (.inl (by rfl)) Iff.rfl]
    refine declares_congr fun w hw behind => ?_
    have hother : w ≠ builtinOutput := by
      rintro rfl
      rw [hunused] at hw
      cases hw
    by_cases hold : w = name
    · exact iff_of_true (if_pos hold) hold
    · exact iff_of_false (fun h => hother ((if_neg hold).symm.trans h)) hold

/-- What the converted parts of code declare, when they are put together. -/
lemma declares_converted (hbefore : ConvertedNames before before')
    (hrest : ConvertedNames rest rest') (hstart : AtWordStart before)
    (hstart' : AtWordStart before') :
    Declares .unchanged name [] (before' ++ rest') ↔
      Declares (nameTo100 .fragment) name [] before ∨
        Declares (nameTo100 .fragment) name before rest := by
  have hgaps := nameTo100_ignoresGaps .fragment
  have htype : outputType ∉ touchedNames .fragment := by decide
  have hends : EndsWithType before' ↔ EndsWithType before :=
    @endsWithType_respelled _ _ _ [] [] hbefore.respelled htype (.inl rfl) (.inl rfl) Iff.rfl
  rw [declares_append hstart', List.nil_append]
  refine or_congr ?_ ?_
  · exact declares_respelled hbefore.respelled htype hgaps Renaming.unchanged_ignoresGaps
      ((map_unchanged _).trans hbefore.wording) (.inl rfl) (.inl rfl) Iff.rfl
  · exact declares_respelled hrest.respelled htype hgaps Renaming.unchanged_ignoresGaps
      ((map_unchanged _).trans hrest.wording) (.inl hstart) (.inl hstart') hends

lemma hasWord_iff_mem_wording {cs w : List Char} (hw : IsWord w) :
    hasWord w cs = true ↔ w ∈ (wording cs).map Prod.snd := by
  rw [hasWord_iff hw, List.mem_map]
  constructor
  · rintro ⟨behind, hmem⟩
    exact ⟨_, mem_wording hmem, rfl⟩
  · rintro ⟨p, hp, rfl⟩
    obtain ⟨piece, hpiece, heq⟩ := List.mem_filterMap.1 hp
    cases piece with
    | mark c => cases heq
    | word v behind =>
      cases heq
      exact ⟨behind, hpiece⟩

/-- Code without a word has it in neither part around a declaration. -/
lemma OutputSplit.Cuts.not_hasWord {cs w : List Char} {d : OutputSplit} (h : d.Cuts cs)
    (hw : IsWord w) (hunused : hasWord w cs = false) :
    ¬ hasWord w d.before = true ∧ ¬ hasWord w d.rest = true := by
  obtain ⟨behind, behind', hwording⟩ := h.exists_wording
  rw [Bool.eq_false_iff, ne_eq, hasWord_iff_mem_wording hw, hwording] at hunused
  rw [hasWord_iff_mem_wording hw, hasWord_iff_mem_wording hw]
  simp only [List.map_append, List.map_cons, List.mem_append, List.mem_cons, not_or] at hunused
  exact ⟨hunused.1, hunused.2.2.2.2⟩

end Output

/-- A fragment stage that declares an output and does not have the built-in one: in the older
dialect the built-in output comes to be declared itself exactly if the source declares another
thing, behind the type of outputs and a gap, whose name in the older dialect is that of the output.
Of the code in front of the declaration and behind it, all words count, put together without it. An
output that has the name of the type takes the type away with it. Where the output has no name that
a conversion changes or puts in place of others, the source without the declaration declares that
name. -/
theorem transpile_redeclares_iff {s : String} {d : OutputSplit}
    (hunused : hasWord builtinOutput s.toList = false) (hd : splitOutput? s.toList = some d) :
    ∃ t, transpile (.text s) (.int 100) .fragment = .ok t ∧
      (IsDeclared builtinOutput t.toList ↔
        d.name ≠ outputType ∧
          (Declares (nameTo100 .fragment) d.name [] d.before ∨
            Declares (nameTo100 .fragment) d.name d.before d.rest)) ∧
      (d.name ∉ touchedNames .fragment → d.name ≠ outputType →
        (IsDeclared builtinOutput t.toList ↔ IsDeclared d.name (d.before ++ d.rest))) := by
  obtain ⟨e, he, hname, hbefore, hrest⟩ := splitOutput?_namesTo100 (splitOutput?_versionTo100 hd)
  have hcuts := cuts_of_splitOutput? hd
  have hcuts' := cuts_of_splitOutput? he
  have hstart := atWordStart_versionTo100 hcuts.start
  have hgaps := nameTo100_ignoresGaps .fragment
  have hunused' : hasWord builtinOutput (e.before ++ e.rest) = false := by
    obtain ⟨hfront, hbehind⟩ := hcuts.not_hasWord (by decide) hunused
    rw [← hasWord_builtinOutput_versionTo100,
      hbefore.respelled.hasWord_iff (by decide) (by decide)] at hfront
    rw [hrest.respelled.hasWord_iff (by decide) (by decide)] at hbehind
    rw [Bool.eq_false_iff, ne_eq, hasWord_append (by decide) hcuts'.start]
    exact not_or.2 ⟨hfront, hbehind⟩
  have hresult : convert .es100 .fragment s.toList =
      renameWord d.name builtinOutput (e.before ++ e.rest) := by
    rw [convert_es100_fragment, outputTo100, he, ← hname]
  have hversion : Declares (nameTo100 .fragment) d.name (versionTo100 d.before) d.rest ↔
      Declares (nameTo100 .fragment) d.name d.before d.rest :=
    declares_respelled (respelled_self d.rest) rfl hgaps hgaps rfl (.inl hcuts.start) (.inl hstart)
      (endsWithType_versionTo100 d.before)
  have hdeclared : IsDeclared builtinOutput (convert .es100 .fragment s.toList) ↔
      d.name ≠ outputType ∧
        (Declares (nameTo100 .fragment) d.name [] d.before ∨
          Declares (nameTo100 .fragment) d.name d.before d.rest) := by
    rw [hresult, isDeclared_renameWord_iff hcuts.name hunused',
      declares_converted hbefore hrest hstart hcuts'.start, declares_versionTo100 hgaps, hversion]
  refine ⟨_, transpile_number .es100 .fragment s, ?_, fun huntouched htype => ?_⟩
  · rw [String.toList_ofList, hdeclared]
  · have hkept : ∀ back cs, Declares (nameTo100 .fragment) d.name back cs ↔
        Declares .unchanged d.name back cs := fun back cs =>
      declares_congr fun w _ behind => (nameTo100_within .fragment).keeps huntouched behind w
    rw [String.toList_ofList, hdeclared, and_iff_right htype, isDeclared_iff hcuts.name,
      declares_append hcuts.start, hkept, hkept, List.nil_append]

/-- A fragment stage with a variable that has the name of its output. -/
def shadowedGlow : String :=
  "#version 300 es\nout vec4 glow;\nvoid main() \x7b vec4 \tglow; \x7d\n"

theorem shadowedGlow_redeclares :
    hasWord builtinOutput shadowedGlow.toList = false ∧
    ∃ d, splitOutput? shadowedGlow.toList = some d ∧ d.name = "glow".toList ∧
      d.name ∉ touchedNames .fragment ∧ d.name ≠ outputType ∧
      ∃ t, transpile (.text shadowedGlow) (.int 100) .fragment = .ok t ∧
        IsDeclared builtinOutput t.toList := by
  have hunused : hasWord builtinOutput shadowedGlow.toList = false := by decide +kernel
  have hd : splitOutput? shadowedGlow.toList = some ⟨"#version 300 es\n".toList, "glow".toList,
      "void main() \x7b vec4 \tglow; \x7d\n".toList⟩ := by
    decide +kernel
  obtain ⟨t, ht, -, hdeclared⟩ := transpile_redeclares_iff hunused hd
  refine ⟨hunused, _, hd, rfl, by decide, by decide, t, ht,
    (hdeclared (by decide) (by decide)).2 ?_⟩
  refine ⟨"#version 300 es\nvoid main() \x7b vec4 \t".toList,
    ⟨"; \x7d\n".toList, rfl, by decide, by decide⟩, ?_⟩
  exact ⟨"#version 300 es\nvoid main() \x7b ".toList, " \t".toList, rfl, by decide,
    List.all_eq_true.1 (by decide +kernel)⟩

/-- A fragment stage with a parameter that has the name of its output. -/
def filteredGlow : String :=
  "#version 300 es\nout vec4 color;\nvoid filter_color(inout vec4 color) \x7b\x7d\n" ++
    "void main() \x7b filter_color(color); \x7d\n"

theorem filteredGlow_parameter_redeclared :
    hasWord builtinOutput filteredGlow.toList = false ∧
    (∃ d, splitOutput? filteredGlow.toList = some d ∧ splitOutput? d.rest = none) ∧
    ∃ t, transpile (.text filteredGlow) (.int 100) .fragment = .ok t ∧
      t = "#version 100\nvoid filter_color(inout vec4 gl_FragColor) \x7b\x7d\n" ++
        "void main() \x7b filter_color(gl_FragColor); \x7d\n" ∧
      IsDeclared builtinOutput t.toList := by
  have hd : splitOutput? filteredGlow.toList = some ⟨"#version 300 es\n".toList, "color".toList,
      ("void filter_color(inout vec4 color) \x7b\x7d\n" ++
        "void main() \x7b filter_color(color); \x7d\n").toList⟩ := by
    decide +kernel
  have hresult : String.ofList (convert .es100 .fragment filteredGlow.toList) =
      "#version 100\nvoid filter_color(inout vec4 gl_FragColor) \x7b\x7d\n" ++
        "void main() \x7b filter_color(gl_FragColor); \x7d\n" := by
    decide +kernel
  refine ⟨by decide +kernel, ⟨_, hd, by decide +kernel⟩, _,
    transpile_number .es100 .fragment filteredGlow, hresult, ?_⟩
  rw [hresult]
  refine ⟨"#version 100\nvoid filter_color(inout vec4 ".toList,
    ⟨(") \x7b\x7d\nvoid main() \x7b filter_color(gl_FragColor); \x7d\n").toList, by decide +kernel,
      by decide, by decide⟩, ?_⟩
  exact ⟨"#version 100\nvoid filter_color(inout ".toList, " ".toList, rfl, by decide,
    List.all_eq_true.1 (by decide +kernel)⟩

end ShaderLoom.Glsl
