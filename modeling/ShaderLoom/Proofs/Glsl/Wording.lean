import ShaderLoom.Proofs.Glsl.Respelling

/-!
# The wording of code

The wording of code is made of its words, each with what stands behind it, where the length of a gap
does not count. A conversion of names changes each word by itself (`wording_namesTo300`,
`wording_namesTo100`): though the change of a qualifier makes its gap a single space, the same things
stand behind all words as before. Code whose wording a conversion leaves alone stays as it is
(`namesTo300_eq_self`, `namesTo100_eq_self`).
-/

namespace ShaderLoom.Glsl

open Text

/-! ### What stands behind a word, whatever the gap is -/

/-- What stands behind a word, with a single space for its gap. -/
def Follower.spaced : Follower → Follower
  | .variableAfter _ => .variableAfter [' ']
  | behind => behind

lemma spaced_cases (behind : Follower) :
    behind.spaced = .variableAfter [' '] ∨ behind.spaced = .call ∨ behind.spaced = .other := by
  cases behind with
  | variableAfter gap => exact .inl rfl
  | call => exact .inr (.inl rfl)
  | other => exact .inr (.inr rfl)

lemma spaced_eq_call_iff {behind : Follower} : behind.spaced = .call ↔ behind = .call := by
  cases behind <;> simp [Follower.spaced]

/-- A gap and a variable stand at the front of the text. -/
def LeadsToVariable (cs : List Char) : Prop := ((afterGap? cs).bind afterVariable?).isSome

instance (cs : List Char) : Decidable (LeadsToVariable cs) :=
  inferInstanceAs (Decidable (_ = true))

lemma leadsToVariable_iff {cs : List Char} :
    LeadsToVariable cs ↔ (follower cs).spaced = .variableAfter [' '] := by
  constructor
  · intro h
    rw [follower_eq_variableAfter_iff.2 ⟨h, rfl⟩]
    rfl
  · intro h
    cases hbehind : follower cs with
    | variableAfter gap => exact (follower_eq_variableAfter_iff.1 hbehind).1
    | call => simp [hbehind, Follower.spaced] at h
    | other => simp [hbehind, Follower.spaced] at h

/-- The renaming does the same for all gaps. -/
def Renaming.IgnoresGaps (f : Renaming) : Prop := ∀ behind w, f behind.spaced w = f behind w

lemma Renaming.IgnoresGaps.followedBy {f g : Renaming} (hf : f.IgnoresGaps)
    (hg : g.IgnoresGaps) : (f.followedBy g).IgnoresGaps := by
  intro behind w
  rw [followedBy_apply, followedBy_apply, hf, hg]

lemma textureRenaming_ignoresGaps (kinds endings : List (List Char))
    (new : List Char → List Char) : (textureRenaming kinds endings new).IgnoresGaps := by
  intro behind w
  cases behind <;> rfl

lemma qualifierRenaming_self (old new gap : List Char) :
    qualifierRenaming old new (.variableAfter gap) old = new :=
  if_pos rfl

namespace Respelled

variable {fixed : List Char → Prop} {cs ds : List Char}

lemma refl (cs : List Char) : Respelled fixed cs cs := by
  induction cs using text_induction with
  | nil => exact .nil
  | mark c cs hc ih => exact .mark hc ih
  | word w rest hw hrest ih => exact .word hw hw hrest (fun _ _ => Iff.rfl) ih

lemma afterLength (h : Respelled fixed cs ds) :
    Respelled fixed (Glsl.afterLength cs) (Glsl.afterLength ds) := by
  have hbracketed := rel_bind (h.afterChar? (d := '[') (by decide) (by decide)) fun cs ds h =>
    rel_bind h.splitWord? fun s t hst => hst.2.afterChar? (d := ']') (by decide) (by decide)
  rw [afterLength_eq, afterLength_eq]
  revert hbracketed
  generalize ((Glsl.afterChar? '[' cs).bind fun cs =>
    (Glsl.splitWord? cs).bind fun s => Glsl.afterChar? ']' s.2) = x
  generalize ((Glsl.afterChar? '[' ds).bind fun cs =>
    (Glsl.splitWord? cs).bind fun s => Glsl.afterChar? ']' s.2) = y
  intro hxy
  cases hxy with
  | none => exact h
  | some hrest => exact hrest

lemma afterVariable? (h : Respelled fixed cs ds) :
    Option.Rel (Respelled fixed) (Glsl.afterVariable? cs) (Glsl.afterVariable? ds) := by
  rw [afterVariable?_eq, afterVariable?_eq]
  refine rel_bind h.splitWord? fun s t hst => rel_bind hst.2.afterGap? fun cs ds h => ?_
  exact rel_bind h.splitWord? fun s t hst =>
    hst.2.afterLength.afterChar? (by decide) (by decide)

/-- The same stands behind a word in both texts, except for the length of a gap. -/
lemma follower_spaced (h : Respelled fixed cs ds) :
    (follower cs).spaced = (follower ds).spaced := by
  have hcall : cs.head? = some '(' ↔ ds.head? = some '(' := by
    have hiff : ∀ cs : List Char, cs.head? = some '(' ↔ (Glsl.afterChar? '(' cs).isSome := by
      intro cs
      cases cs with
      | nil => simp [Glsl.afterChar?]
      | cons c cs => by_cases hc : c = '(' <;> simp [Glsl.afterChar?, hc]
    rw [hiff, hiff, isSome_of_rel (h.afterChar? (by decide) (by decide))]
  have hvariable := isSome_of_rel (rel_bind h.afterGap? fun _ _ h => h.afterVariable?)
  unfold follower
  by_cases hparenthesis : cs.head? = some '('
  · rw [if_pos hparenthesis, if_pos (hcall.1 hparenthesis)]
  · rw [if_neg hparenthesis, if_neg (mt hcall.2 hparenthesis), hvariable]
    split <;> rfl

end Respelled

/-! ### Words with what stands behind them -/

/-- The words of code, each with what stands behind it, whatever the gaps are. -/
def wording (cs : List Char) : List (Follower × List Char) :=
  (pieces cs).filterMap fun
    | .mark _ => none
    | .word w behind => some (behind.spaced, w)

/-- Rename a word by what stands behind it. -/
def Renaming.onWord (f : Renaming) (p : Follower × List Char) : Follower × List Char :=
  (p.1, f p.1 p.2)

@[simp] lemma wording_nil : wording [] = [] := rfl

lemma wording_mark {c : Char} (hc : isWordChar c = false) (cs : List Char) :
    wording (c :: cs) = wording cs := by
  simp [wording, pieces_mark hc]

lemma wording_word {w rest : List Char} (hw : IsWord w) (hrest : AtWordEnd rest) :
    wording (w ++ rest) = ((follower rest).spaced, w) :: wording rest := by
  simp [wording, pieces_word hw hrest]

lemma wording_marks {marks : List Char} (hmarks : ∀ c ∈ marks, isWordChar c = false)
    (rest : List Char) : wording (marks ++ rest) = wording rest := by
  induction marks with
  | nil => rfl
  | cons c marks ih =>
    rw [List.cons_append, wording_mark (hmarks c List.mem_cons_self),
      ih fun d hd => hmarks d (List.mem_cons_of_mem c hd)]

lemma mem_wording {cs w : List Char} {behind : Follower} (h : .word w behind ∈ pieces cs) :
    (behind.spaced, w) ∈ wording cs :=
  List.mem_filterMap.2 ⟨_, h, rfl⟩

lemma spaced_of_mem_wording {cs : List Char} {p : Follower × List Char} (h : p ∈ wording cs) :
    p.1.spaced = p.1 := by
  obtain ⟨piece, -, hpiece⟩ := List.mem_filterMap.1 h
  cases piece with
  | mark c => cases hpiece
  | word w behind =>
    cases hpiece
    cases behind <;> rfl

/-- The wording of renamed code is the renamed wording. -/
lemma wording_renameWords {f : Renaming} (hf : f.KeepsWords) (hgaps : f.IgnoresGaps)
    (cs : List Char) : wording (renameWords f cs) = (wording cs).map f.onWord := by
  induction cs using text_induction with
  | nil => rfl
  | mark c cs hc ih => rw [renameWords_mark hc, wording_mark hc, wording_mark hc, ih]
  | word w rest hw hrest ih =>
    rw [renameWords_word hw hrest,
      wording_word (hf _ _ hw) ((atWordEnd_renameWords hf).2 hrest), wording_word hw hrest,
      follower_renameWords hf, ih, List.map_cons, Renaming.onWord, hgaps]

lemma Respelled.length_wording {fixed : List Char → Prop} {cs ds : List Char}
    (h : Respelled fixed cs ds) : (wording cs).length = (wording ds).length := by
  induction h with
  | nil => rfl
  | mark hc hrest ih => rw [wording_mark hc, wording_mark hc, ih]
  | gap hne hne' hg hg' hrest ih =>
    rw [wording_marks fun c hc => isWordChar_of_isGap (hg c hc),
      wording_marks fun c hc => isWordChar_of_isGap (hg' c hc), ih]
  | word hw hv hcs hname hrest ih =>
    rw [wording_word hw hcs, wording_word hv (hrest.atWordEnd_iff.1 hcs), List.length_cons,
      List.length_cons, ih]

section Qualifier

variable {old new : List Char}

/-- The rule for a qualifier applies where it stands in front of a variable. -/
lemma isSome_qualifierRule_iff (hold : IsWord old) {previous : Option Char} {w rest : List Char}
    (hstart : startsWord previous = true) (hw : IsWord w) (hrest : AtWordEnd rest) :
    (qualifierRule old new previous (w ++ rest)).isSome ↔
      w = old ∧ (follower rest).spaced = .variableAfter [' '] := by
  rw [qualifierRule_word hold hstart hw hrest, ← leadsToVariable_iff, LeadsToVariable]
  split
  · next hword =>
    rw [and_iff_right hword]
    cases afterGap? rest <;> simp
  · next hword => simp [hword]

/-- Where the rule for a qualifier does not apply, the word is kept. -/
lemma qualifierRenaming_of_none (hold : IsWord old) {previous : Option Char} {w rest : List Char}
    (hstart : startsWord previous = true) (hw : IsWord w) (hrest : AtWordEnd rest)
    (hnone : qualifierRule old new previous (w ++ rest) = none) :
    qualifierRenaming old new (follower rest).spaced w = w := by
  rcases spaced_cases (follower rest) with hbehind | hbehind | hbehind
  case inr.inl => rw [hbehind]; rfl
  case inr.inr => rw [hbehind]; rfl
  have happlies := @isSome_qualifierRule_iff old new hold previous w rest hstart hw hrest
  rw [hnone, hbehind] at happlies
  have hname : w ≠ old := fun h => absurd (happlies.2 ⟨h, rfl⟩) (by simp)
  rw [hbehind]
  exact if_neg hname

/-- The wording behind a change of a qualifier, from a place on where a word can start or a mark
comes next. -/
lemma wording_substituteFrom (hold : IsWord old) (hnew : IsWord new) {cs : List Char}
    {previous : Option Char} (hprevious : startsWord previous = true ∨ AtWordEnd cs) :
    wording (substituteFrom (qualifierRule old new) 0 previous cs) =
      (wording cs).map (qualifierRenaming old new).onWord := by
  have hrule : (qualifierRule old new).AtWords := qualifierRule_atWords hold
  -- what stands behind a word is the same in the changed text
  have hrespelled : ∀ {rest : List Char} {previous : Option Char},
      startsWord previous = true ∨ AtWordEnd rest → Respelled (fun _ => False) rest
        (substituteFrom (qualifierRule old new) 0 previous rest) := fun hprevious =>
    (Respelled.refl _).substituteFrom hold hnew (fun h => h) (fun h => h) hprevious
  induction hn : cs.length using Nat.strong_induction_on generalizing previous cs with
  | _ n ih =>
    subst hn
    cases cs using text_induction with
    | nil => rfl
    | mark c cs hc =>
      rw [substituteFrom, hrule.mark previous c cs hc]
      simp only
      rw [wording_mark hc, wording_mark hc]
      exact ih _ (by simp) (.inl (by simp [hc])) rfl
    | word w rest hw hrest =>
      have hlength := List.length_pos_of_ne_nil hw.ne_nil
      have hstart := hprevious.resolve_right hw.not_atWordEnd
      have hcases := @qualifierRule_cases old new hold previous w rest hstart hw hrest
      rw [wording_word hw hrest, List.map_cons]
      rcases hcases with hnone | ⟨rfl, gap, text, rfl, hne, hgap, hafter, hsome⟩
      · have hsame := @hrespelled rest (lastOf previous w) (.inr hrest)
        rw [substituteFrom_word hrule hw hnone, wording_word hw (hsame.atWordEnd_iff.1 hrest),
          ← hsame.follower_spaced, ih _ (by simpa using hlength) (.inr hrest) rfl, Renaming.onWord,
          qualifierRenaming_of_none hold hstart hw hrest hnone]
      · have hnext := (exchangeable_gap hne hgap).startsWord_or_atWordEnd (w := w) hrest previous
        have hspace : IsGapText [' '] := List.forall_mem_singleton.2 (by decide)
        have hsame := Respelled.gap hne (by simp) hgap hspace (hrespelled hnext)
        have happlies := Option.isSome_of_mem hsome
        rw [isSome_qualifierRule_iff hold hstart hw hrest] at happlies
        have hshorter : text.length < (w ++ (gap ++ text)).length := by
          simp only [List.length_append]
          omega
        rw [substituteFrom_replaced hw hsome, List.append_assoc,
          wording_word hnew (hspace.atWordEnd (by simp) _), ← hsame.follower_spaced,
          wording_marks fun c hc => isWordChar_of_isGap (hspace c hc), ih _ hshorter hnext rfl,
          wording_marks fun c hc => isWordChar_of_isGap (hgap c hc), Renaming.onWord, happlies.2]
        simp only [qualifierRenaming_self]

/-- The wording behind a change of a qualifier is the wording with a renamed qualifier. -/
lemma wording_substitute (hold : IsWord old) (hnew : IsWord new) (cs : List Char) :
    wording (substitute (qualifierRule old new) cs) =
      (wording cs).map (qualifierRenaming old new).onWord :=
  wording_substituteFrom hold hnew (.inl rfl)

/-- Where a qualifier that would change stands in front of no variable, its rule changes nothing,
gaps included. -/
lemma substitute_qualifierRule_eq_self (hold : IsWord old) (hne : old ≠ new) {cs : List Char}
    (h : ∀ p ∈ wording cs, qualifierRenaming old new p.1 p.2 = p.2) :
    substitute (qualifierRule old new) cs = cs := by
  refine substituteFrom_of_inapplicable _ none cs (places_eq_nil_iff.1 ?_)
  refine List.eq_nil_iff_forall_not_mem.2 fun after hafter => ?_
  obtain ⟨previous, w, rest, rfl, hw, hrest, hstart, happlies, hmem⟩ :=
    exists_piece (qualifierRule_atWords hold) hafter
  obtain ⟨rfl, hbehind⟩ := (isSome_qualifierRule_iff hold hstart hw hrest).1 happlies
  have hkept := h _ (mem_wording hmem)
  rw [hbehind] at hkept
  exact hne (hkept.symm.trans (qualifierRenaming_self w new [' ']))

end Qualifier

/-- Where no texture function has another name, the rule for them changes nothing. -/
lemma substitute_textureRule_eq_self {kinds endings : List (List Char)}
    {new : List Char → List Char} (hkinds : ∀ kind ∈ kinds, kind.all isWordChar = true)
    (hendings : ∀ ending ∈ endings, ending.all isWordChar = true) {cs : List Char}
    (h : ∀ p ∈ wording cs, textureRenaming kinds endings new p.1 p.2 = p.2) :
    substitute (textureRule kinds endings new) cs = cs := by
  rw [substitute_textureRule hkinds hendings]
  refine renameWords_eq_self fun w behind hmem => ?_
  rw [← textureRenaming_ignoresGaps]
  exact h _ (mem_wording hmem)

/-! ### The wording of converted code -/

section Changes

variable {changes : List (List Char × List Char)} {cs : List Char}

lemma wording_changeQualifiers (hwords : ∀ change ∈ changes, IsWord change.1 ∧ IsWord change.2) :
    wording (changeQualifiers changes cs) =
      (wording cs).map (changesRenaming changes).onWord := by
  induction changes generalizing cs with
  | nil => exact (List.map_id _).symm
  | cons change changes ih =>
    have hchange := hwords change List.mem_cons_self
    show wording (changeQualifiers changes (substitute (qualifierRule change.1 change.2) cs)) = _
    rw [ih fun c hc => hwords c (List.mem_cons_of_mem _ hc),
      wording_substitute hchange.1 hchange.2, List.map_map]
    rfl

lemma changeQualifiers_eq_self
    (hwords : ∀ change ∈ changes, IsWord change.1 ∧ change.1 ≠ change.2)
    (h : ∀ change ∈ changes, ∀ p ∈ wording cs,
      qualifierRenaming change.1 change.2 p.1 p.2 = p.2) : changeQualifiers changes cs = cs := by
  induction changes with
  | nil => rfl
  | cons change changes ih =>
    have hchange := hwords change List.mem_cons_self
    show changeQualifiers changes (substitute (qualifierRule change.1 change.2) cs) = cs
    rw [substitute_qualifierRule_eq_self hchange.1 hchange.2 (h change List.mem_cons_self)]
    exact ih (fun c hc => hwords c (List.mem_cons_of_mem _ hc))
      fun c hc => h c (List.mem_cons_of_mem _ hc)

end Changes

lemma textureTo300_ignoresGaps : textureTo300.IgnoresGaps :=
  (textureRenaming_ignoresGaps _ _ _).followedBy (textureRenaming_ignoresGaps _ _ _)

lemma textureTo100_ignoresGaps : textureTo100.IgnoresGaps :=
  ((textureRenaming_ignoresGaps _ _ _).followedBy (textureRenaming_ignoresGaps _ _ _)).followedBy
    (textureRenaming_ignoresGaps _ _ _)

section Stage

variable (stage : Stage) (cs : List Char)

/-- Conversion of names to the newer dialect changes each word by itself. -/
theorem wording_namesTo300 :
    wording (namesTo300 stage cs) = (wording cs).map (nameTo300 stage).onWord := by
  rw [namesTo300, wording_changeQualifiers isWord_qualifiersTo300, substitute_texturesTo300,
    wording_renameWords textureTo300_keepsWords textureTo300_ignoresGaps, List.map_map]
  rfl

/-- Conversion of names to the older dialect changes each word by itself. -/
theorem wording_namesTo100 :
    wording (namesTo100 stage cs) = (wording cs).map (nameTo100 stage).onWord := by
  rw [namesTo100, wording_changeQualifiers isWord_qualifiersTo100, substitute_texturesTo100,
    wording_renameWords textureTo100_keepsWords textureTo100_ignoresGaps, List.map_map]
  rfl

/-- The renamings of a conversion to the newer dialect, one by one. -/
def renamingsTo300 : List Renaming :=
  [textureRenaming samplerKinds ["LodEXT".toList, "Lod".toList] fun _ => "textureLod".toList,
    textureRenaming samplerKinds ["EXT".toList, []] fun _ => "texture".toList] ++
  (qualifiersTo300 stage).map fun change => qualifierRenaming change.1 change.2

/-- The renamings of a conversion to the older dialect, one by one. -/
def renamingsTo100 : List Renaming :=
  [textureRenaming samplerKinds ["Lod".toList] fun kind =>
      "texture".toList ++ kind ++ "LodEXT".toList,
    textureRenaming [[]] [[]] fun _ => "texture2D".toList,
    textureRenaming [[]] ["Lod".toList] fun _ => "texture2DLodEXT".toList] ++
  (qualifiersTo100 stage).map fun change => qualifierRenaming change.1 change.2

end Stage

section Settled

variable {stage : Stage} {cs : List Char}

/-- Code whose words have the names of the newer dialect stays as it is, gaps included. -/
theorem namesTo300_eq_self
    (h : ∀ f ∈ renamingsTo300 stage, ∀ p ∈ wording cs, f p.1 p.2 = p.2) :
    namesTo300 stage cs = cs := by
  simp only [renamingsTo300, List.forall_mem_append, List.forall_mem_cons, List.forall_mem_map] at h
  obtain ⟨⟨hlod, hsample, -⟩, hqualifiers⟩ := h
  rw [namesTo300, lodTo300, substitute_textureRule_eq_self (by decide) (by decide) hlod,
    sampleTo300, substitute_textureRule_eq_self (by decide) (by decide) hsample]
  exact changeQualifiers_eq_self (by cases stage <;> decide) hqualifiers

/-- Code whose words have the names of the older dialect stays as it is, gaps included. -/
theorem namesTo100_eq_self
    (h : ∀ f ∈ renamingsTo100 stage, ∀ p ∈ wording cs, f p.1 p.2 = p.2) :
    namesTo100 stage cs = cs := by
  simp only [renamingsTo100, List.forall_mem_append, List.forall_mem_cons, List.forall_mem_map] at h
  obtain ⟨⟨hkindLod, hsample, hlod, -⟩, hqualifiers⟩ := h
  rw [namesTo100, kindLodTo100, substitute_textureRule_eq_self (by decide) (by decide) hkindLod,
    sampleTo100, substitute_textureRule_eq_self (by decide) (by decide) hsample,
    lodTo100, substitute_textureRule_eq_self (by decide) (by decide) hlod]
  exact changeQualifiers_eq_self (by cases stage <;> decide) hqualifiers

end Settled

end ShaderLoom.Glsl
