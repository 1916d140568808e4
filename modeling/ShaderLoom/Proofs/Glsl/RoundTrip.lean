import ShaderLoom.Proofs.Glsl.Output

/-!
# Conversion there and back

Code that keeps to its dialect is the same after it was converted to the other dialect and back,
provided that the conversion loses nothing: all texture functions sample two-dimensional textures,
the gaps that are replaced are single spaces, and the name of the default output is free.
-/

namespace ShaderLoom.Glsl

open Text

/-! ### Code that keeps to its dialect -/

/-- The rules that convert names to the newer dialect. -/
def rulesTo300 (stage : Stage) : List Rule :=
  [lodTo300, sampleTo300] ++
    (qualifiersTo300 stage).map fun change => qualifierRule change.1 change.2

/-- The rules that convert names to the older dialect. -/
def rulesTo100 (stage : Stage) : List Rule :=
  [kindLodTo100, sampleTo100, lodTo100] ++
    (qualifiersTo100 stage).map fun change => qualifierRule change.1 change.2

/-- Wherever a qualifier changes, a single space stands behind it. -/
def SingleSpaced (changes : List (List Char × List Char)) (cs : List Char) : Prop :=
  ∀ change ∈ changes, ∀ after ∈ places (qualifierRule change.1 change.2) none cs,
    (after.drop change.1.length).takeWhile isGap = [' ']

instance (changes : List (List Char × List Char)) (cs : List Char) :
    Decidable (SingleSpaced changes cs) :=
  inferInstanceAs (Decidable (∀ change ∈ changes,
    ∀ after ∈ places (qualifierRule change.1 change.2) none cs, _ = _))

/-- Code of the older dialect from which the conversion takes nothing that the way back does not
restore. -/
structure Plain100 (stage : Stage) (cs : List Char) : Prop where
  version : versionLine100 <+: cs
  /-- Nothing is in the newer dialect. -/
  old : ∀ rule ∈ rulesTo100 stage, inapplicable rule none cs = true
  spaced : SingleSpaced (qualifiersTo300 stage) cs
  /-- Only these texture functions are called. -/
  samplers : ∀ after ∈ places lodTo300 none cs ++ places sampleTo300 none cs,
    "texture2D(".toList <+: after ∨ "texture2DLodEXT(".toList <+: after

instance (stage : Stage) (cs : List Char) : Decidable (Plain100 stage cs) :=
  decidable_of_iff
    (versionLine100 <+: cs ∧ (∀ rule ∈ rulesTo100 stage, inapplicable rule none cs = true) ∧
      SingleSpaced (qualifiersTo300 stage) cs ∧
      ∀ after ∈ places lodTo300 none cs ++ places sampleTo300 none cs,
        "texture2D(".toList <+: after ∨ "texture2DLodEXT(".toList <+: after)
    ⟨fun h => ⟨h.1, h.2.1, h.2.2.1, h.2.2.2⟩, fun h => ⟨h.version, h.old, h.spaced, h.samplers⟩⟩

/-- Code of the older dialect that declares no output; if the built-in one is used, the default
output can be declared in front of the main function. -/
structure ImplicitOutput (cs : List Char) : Prop where
  undeclared : splitOutput? cs = none
  free : hasWord defaultOutput cs = false
  main : hasWord builtinOutput cs = true → ∃ m, splitMain? cs = some m ∧ AtWordStart m.before

instance (cs : List Char) : Decidable (ImplicitOutput cs) :=
  decidable_of_iff
    (splitOutput? cs = none ∧ hasWord defaultOutput cs = false ∧
      (hasWord builtinOutput cs = true → ∃ m, m ∈ splitMain? cs ∧ AtWordStart m.before))
    ⟨fun h => ⟨h.1, h.2.1, h.2.2⟩, fun h => ⟨h.undeclared, h.free, h.main⟩⟩

/-- Code of the newer dialect from which the conversion takes nothing that the way back does not
restore. -/
structure Plain300 (stage : Stage) (cs : List Char) : Prop where
  version : versionLine300 <+: cs
  /-- Nothing is in the older dialect. -/
  new : ∀ rule ∈ rulesTo300 stage, inapplicable rule none cs = true
  spaced : SingleSpaced (qualifiersTo100 stage) cs

instance (stage : Stage) (cs : List Char) : Decidable (Plain300 stage cs) :=
  decidable_of_iff
    (versionLine300 <+: cs ∧ (∀ rule ∈ rulesTo300 stage, inapplicable rule none cs = true) ∧
      SingleSpaced (qualifiersTo100 stage) cs)
    ⟨fun h => ⟨h.1, h.2.1, h.2.2⟩, fun h => ⟨h.version, h.new, h.spaced⟩⟩

/-! ### Words that stay -/

lemma changesRenaming_eq_self {changes : List (List Char × List Char)} {behind : Follower}
    {w : List Char} (h : ∀ gap, behind = .variableAfter gap → ∀ change ∈ changes, w ≠ change.1) :
    changesRenaming changes behind w = w := by
  induction changes with
  | nil => rfl
  | cons change changes ih =>
    have hfirst : qualifierRenaming change.1 change.2 behind w = w := by
      cases behind with
      | variableAfter gap => exact if_neg (h gap rfl change (by simp))
      | call => rfl
      | other => rfl
    rw [changesRenaming, Renaming.followedBy, hfirst]
    exact ih fun gap hgap c hc => h gap hgap c (by simp [hc])

lemma textureRenaming_call (kinds endings : List (List Char)) (new : List Char → List Char)
    (w : List Char) : textureRenaming kinds endings new .call w = w ∨
      ∃ kind ∈ kinds, ∃ ending ∈ endings, w = "texture".toList ++ kind ++ ending := by
  cases hname : textureName? kinds endings new w with
  | none =>
    left
    rw [textureRenaming, hname]
    rfl
  | some name =>
    obtain ⟨kind, hkind, ending, hending, hw, -⟩ := textureName?_eq_some hname
    exact .inr ⟨kind, hkind, ending, hending, hw⟩

section Pieces

variable {cs w : List Char} {behind : Follower}

/-- Where the rule does not apply, no texture function gets a new name. -/
lemma textureRenaming_of_inapplicable {kinds endings : List (List Char)}
    {new : List Char → List Char} (hkinds : ∀ kind ∈ kinds, kind.all isWordChar = true)
    (hendings : ∀ ending ∈ endings, ending.all isWordChar = true)
    (h : inapplicable (textureRule kinds endings new) none cs = true)
    (hw : .word w behind ∈ pieces cs) : textureRenaming kinds endings new behind w = w := by
  cases behind with
  | call =>
    cases hname : textureName? kinds endings new w with
    | none => rw [textureRenaming, hname]; rfl
    | some name =>
      obtain ⟨rest, hplace⟩ :=
        exists_mem_places_textureRule hkinds hendings hw (Option.isSome_of_mem hname)
      rw [places_eq_nil_iff.2 h] at hplace
      cases hplace
  | variableAfter gap => rfl
  | other => rfl

lemma not_mem_pieces_of_inapplicable {old new : List Char} (hold : IsWord old)
    (h : inapplicable (qualifierRule old new) none cs = true) (gap : List Char) :
    .word old (.variableAfter gap) ∉ pieces cs := by
  intro hw
  obtain ⟨rest, -, hplace⟩ := exists_mem_places_qualifierRule new hold hw
  rw [places_eq_nil_iff.2 h] at hplace
  cases hplace

/-- Where the rules do not apply, no qualifier changes. -/
lemma changesRenaming_of_inapplicable {changes : List (List Char × List Char)}
    (hchanges : ∀ change ∈ changes, IsWord change.1)
    (h : ∀ change ∈ changes, inapplicable (qualifierRule change.1 change.2) none cs = true)
    (hw : .word w behind ∈ pieces cs) : changesRenaming changes behind w = w := by
  refine changesRenaming_eq_self ?_
  rintro gap rfl change hc rfl
  exact not_mem_pieces_of_inapplicable (hchanges change hc) (h change hc) gap hw

/-- Code without names of the newer dialect keeps its names on the way to the older one. -/
lemma nameTo100_of_inapplicable {stage : Stage}
    (h : ∀ rule ∈ rulesTo100 stage, inapplicable rule none cs = true)
    (hw : .word w behind ∈ pieces cs) : nameTo100 stage behind w = w := by
  have hkind := textureRenaming_of_inapplicable (by decide) (by decide)
    (h kindLodTo100 (by simp [rulesTo100])) hw
  have hsample := textureRenaming_of_inapplicable (by decide) (by decide)
    (h sampleTo100 (by simp [rulesTo100])) hw
  have hlod := textureRenaming_of_inapplicable (by decide) (by decide)
    (h lodTo100 (by simp [rulesTo100])) hw
  have hchanges := changesRenaming_of_inapplicable
    (fun change hc => (isWord_qualifiersTo100 change hc).1)
    (fun change hc => h _ (List.mem_append_right _ (List.mem_map.2 ⟨change, hc, rfl⟩))) hw
  rw [nameTo100, textureTo100]
  simp only [Renaming.followedBy, hkind, hsample, hlod, hchanges]

/-- Code without names of the older dialect keeps its names on the way to the newer one. -/
lemma nameTo300_of_inapplicable {stage : Stage}
    (h : ∀ rule ∈ rulesTo300 stage, inapplicable rule none cs = true)
    (hw : .word w behind ∈ pieces cs) : nameTo300 stage behind w = w := by
  have hlod := textureRenaming_of_inapplicable (by decide) (by decide)
    (h lodTo300 (by simp [rulesTo300])) hw
  have hsample := textureRenaming_of_inapplicable (by decide) (by decide)
    (h sampleTo300 (by simp [rulesTo300])) hw
  have hchanges := changesRenaming_of_inapplicable
    (fun change hc => (isWord_qualifiersTo300 change hc).1)
    (fun change hc => h _ (List.mem_append_right _ (List.mem_map.2 ⟨change, hc, rfl⟩))) hw
  rw [nameTo300, textureTo300]
  simp only [Renaming.followedBy, hlod, hsample, hchanges]

end Pieces

/-! ### Gaps -/

section Spaced

variable {cs : List Char} {changes others : List (List Char × List Char)}

lemma SingleSpaced.gap_eq (h : SingleSpaced changes cs) {change : List Char × List Char}
    (hchange : change ∈ changes) (hold : IsWord change.1) {gap : List Char}
    (hw : .word change.1 (.variableAfter gap) ∈ pieces cs) : gap = [' '] := by
  obtain ⟨rest, hgap, hplace⟩ := exists_mem_places_qualifierRule change.2 hold hw
  have hspace := h change hchange _ hplace
  rwa [List.drop_left, hgap] at hspace

/-- Where the qualifiers of one dialect have single spaces behind them, and those of the other do
not change, all have. -/
lemma SingleSpaced.spaced {names : List (List Char)} (hspaced : SingleSpaced changes cs)
    (hchanges : ∀ change ∈ changes, IsWord change.1) (hothers : ∀ change ∈ others, IsWord change.1)
    (hnone : ∀ change ∈ others, inapplicable (qualifierRule change.1 change.2) none cs = true)
    (hnames : ∀ w ∈ names, w ∈ changes.map Prod.fst ∨ w ∈ others.map Prod.fst) :
    Spaced names cs := by
  intro w hw gap hmem
  rcases hnames w hw with hin | hin
  · obtain ⟨change, hchange, rfl⟩ := List.mem_map.1 hin
    exact hspaced.gap_eq hchange (hchanges change hchange) hmem
  · obtain ⟨change, hchange, rfl⟩ := List.mem_map.1 hin
    exact absurd hmem (not_mem_pieces_of_inapplicable (hothers change hchange)
      (hnone change hchange) gap)

end Spaced

/-! ### From the older dialect and back -/

/-- A called word is read off the text from there on. -/
lemma eq_of_call {v w rest : List Char} (hv : IsWord v) (hw : IsWord w)
    (h : v ++ "(".toList <+: w ++ '(' :: rest) : w = v := by
  obtain ⟨behind, hbehind⟩ := h
  have hcall : ∀ cs, AtWordEnd ('(' :: cs) := fun _ => rfl
  have hsplit := splitWord?_word hw (hcall rest)
  rw [← hbehind, List.append_assoc] at hsplit
  exact (Prod.mk.inj (Option.some.inj (hsplit.symm.trans (splitWord?_word hv (hcall behind))))).1

namespace Plain100

variable {stage : Stage} {cs : List Char} (h : Plain100 stage cs)
include h

lemma spaced_names : Spaced (qualifierNames stage) cs :=
  h.spaced.spaced (fun change hc => (isWord_qualifiersTo300 change hc).1)
    (fun change hc => (isWord_qualifiersTo100 change hc).1)
    (fun change hc => h.old _ (List.mem_append_right _ (List.mem_map.2 ⟨change, hc, rfl⟩)))
    (by cases stage <;> decide)

/-- The texture functions that get new names. -/
lemma sampler_eq {w : List Char} {kinds endings : List (List Char)} {new : List Char → List Char}
    (hkinds : ∀ kind ∈ kinds, kind.all isWordChar = true)
    (hendings : ∀ ending ∈ endings, ending.all isWordChar = true)
    (hrule : textureRule kinds endings new ∈ [lodTo300, sampleTo300])
    (hw : .word w .call ∈ pieces cs) :
    w = "texture2D".toList ∨ w = "texture2DLodEXT".toList ∨
      textureRenaming kinds endings new .call w = w := by
  cases hname : textureName? kinds endings new w with
  | none => exact .inr (.inr (by rw [textureRenaming, hname]; rfl))
  | some name =>
    obtain ⟨-, -, -, hword, -⟩ := exists_place hw
    obtain ⟨rest, hplace⟩ :=
      exists_mem_places_textureRule hkinds hendings hw (Option.isSome_of_mem hname)
    have hplaces : w ++ '(' :: rest ∈ places lodTo300 none cs ++ places sampleTo300 none cs := by
      rcases List.mem_cons.1 hrule with heq | hrule
      · exact List.mem_append_left _ (heq ▸ hplace)
      · exact List.mem_append_right _ (List.mem_singleton.1 hrule ▸ hplace)
    rcases h.samplers _ hplaces with hfront | hfront
    · exact .inl (eq_of_call (by decide) hword hfront)
    · exact .inr (.inl (eq_of_call (by decide) hword hfront))

/-- Each name becomes what it was. -/
lemma name_restored {w : List Char} {behind : Follower} (hw : .word w behind ∈ pieces cs) :
    nameTo100 stage behind (nameTo300 stage behind w) = w := by
  have hkept := nameTo100_of_inapplicable h.old hw
  cases behind with
  | call =>
    have hstage : nameTo300 stage .call w = textureTo300 .call w := by cases stage <;> rfl
    rcases h.sampler_eq (by decide) (by decide) (List.mem_cons_self ..) hw with rfl | rfl | hlod
    · cases stage <;> rfl
    · cases stage <;> rfl
    rcases h.sampler_eq (by decide) (by decide)
      (List.mem_cons_of_mem _ (List.mem_singleton.2 rfl)) hw with rfl | rfl | hsample
    · cases stage <;> rfl
    · cases stage <;> rfl
    have hsame : nameTo300 stage .call w = w := by
      rw [hstage, textureTo300]
      simp only [Renaming.followedBy, hlod, hsample]
    rw [hsame, hkept]
  | variableAfter gap =>
    have hstage : ∀ v, nameTo300 stage (.variableAfter gap) v =
        changesRenaming (qualifiersTo300 stage) (.variableAfter gap) v := fun v => rfl
    by_cases hchange : ∃ change ∈ qualifiersTo300 stage, change.1 = w
    · obtain ⟨change, hc, rfl⟩ := hchange
      cases stage with
      | vertex =>
        rcases List.mem_cons.1 hc with rfl | hc
        · rfl
        · obtain rfl := List.mem_singleton.1 hc
          rfl
      | fragment =>
        obtain rfl := List.mem_singleton.1 hc
        rfl
    · have hsame : nameTo300 stage (.variableAfter gap) w = w := by
        rw [hstage]
        exact changesRenaming_eq_self fun _ _ change hc heq => hchange ⟨change, hc, heq.symm⟩
      rw [hsame, hkept]
  | other => cases stage <;> rfl

end Plain100

/-! ### From the newer dialect and back -/

namespace Plain300

variable {stage : Stage} {cs : List Char} (h : Plain300 stage cs)
include h

lemma spaced_names : Spaced (qualifierNames stage) cs :=
  h.spaced.spaced (fun change hc => (isWord_qualifiersTo100 change hc).1)
    (fun change hc => (isWord_qualifiersTo300 change hc).1)
    (fun change hc => h.new _ (List.mem_append_right _ (List.mem_map.2 ⟨change, hc, rfl⟩)))
    (by cases stage <;> decide)

/-- No texture function has a kind and a level of detail, since it would be of the older dialect. -/
lemma kindLod_kept {w : List Char} (hw : .word w .call ∈ pieces cs) :
    textureRenaming samplerKinds ["Lod".toList]
      (fun kind => "texture".toList ++ kind ++ "LodEXT".toList) .call w = w := by
  rcases textureRenaming_call _ _ _ w with hsame | ⟨kind, hkind, ending, hending, hname⟩
  · exact hsame
  · have hlod := textureRenaming_of_inapplicable (by decide) (by decide)
      (h.new lodTo300 (by simp [rulesTo300])) hw
    have hchanged : ∀ kind ∈ samplerKinds, ∀ ending ∈ ["Lod".toList],
        textureRenaming samplerKinds ["LodEXT".toList, "Lod".toList]
          (fun _ => "textureLod".toList) .call ("texture".toList ++ kind ++ ending) ≠
            "texture".toList ++ kind ++ ending := by decide
    exact absurd (hname ▸ hlod) (hchanged kind hkind ending hending)

/-- Each name becomes what it was. -/
lemma name_restored {w : List Char} {behind : Follower} (hw : .word w behind ∈ pieces cs) :
    nameTo300 stage behind (nameTo100 stage behind w) = w := by
  have hkept := nameTo300_of_inapplicable h.new hw
  cases behind with
  | call =>
    have hstage : nameTo100 stage .call w = textureTo100 .call w := by cases stage <;> rfl
    have hkindLod := h.kindLod_kept hw
    rcases textureRenaming_call [[]] [[]] (fun _ => "texture2D".toList) w with
      hsample | ⟨kind, hkind, ending, hending, rfl⟩
    rcases textureRenaming_call [[]] ["Lod".toList] (fun _ => "texture2DLodEXT".toList) w with
      hlod | ⟨kind, hkind, ending, hending, rfl⟩
    · have hsame : nameTo100 stage .call w = w := by
        rw [hstage, textureTo100]
        simp only [Renaming.followedBy, hkindLod, hsample, hlod]
      rw [hsame, hkept]
    all_goals
      obtain rfl := List.mem_singleton.1 hkind
      obtain rfl := List.mem_singleton.1 hending
      cases stage <;> rfl
  | variableAfter gap =>
    have hstage : ∀ v, nameTo100 stage (.variableAfter gap) v =
        changesRenaming (qualifiersTo100 stage) (.variableAfter gap) v := fun v => rfl
    by_cases hchange : ∃ change ∈ qualifiersTo100 stage, change.1 = w
    · obtain ⟨change, hc, rfl⟩ := hchange
      cases stage with
      | vertex =>
        rcases List.mem_cons.1 hc with rfl | hc
        · rfl
        · obtain rfl := List.mem_singleton.1 hc
          rfl
      | fragment =>
        obtain rfl := List.mem_singleton.1 hc
        rfl
    · have hsame : nameTo100 stage (.variableAfter gap) w = w := by
        rw [hstage]
        exact changesRenaming_eq_self fun _ _ change hc heq => hchange ⟨change, hc, heq.symm⟩
      rw [hsame, hkept]
  | other => cases stage <;> rfl

end Plain300

/-! ### Behind the version line -/

section Version

variable {stage : Stage} {cs : List Char} {names : List (List Char)}

lemma spaced_versionLine100 : Spaced names (versionLine100 ++ cs) ↔ Spaced names cs := by
  simp [Spaced, pieces_versionLine100]

lemma spaced_versionLine300 : Spaced names (versionLine300 ++ cs) ↔ Spaced names cs := by
  simp [Spaced, pieces_versionLine300]

lemma mem_pieces_versionLine100 {p : Piece} (hp : p ∈ pieces cs) :
    p ∈ pieces (versionLine100 ++ cs) := by
  rw [pieces_versionLine100]
  exact List.mem_append_right _ hp

lemma mem_pieces_versionLine300 {p : Piece} (hp : p ∈ pieces cs) :
    p ∈ pieces (versionLine300 ++ cs) := by
  rw [pieces_versionLine300]
  exact List.mem_append_right _ hp

lemma hasWord_renameWords {f : Renaming} {w : List Char} (hw : IsWord w) (hf : f.KeepsWords)
    (hkeeps : f.Keeps w) (cs : List Char) : hasWord w (renameWords f cs) = hasWord w cs := by
  rw [Bool.eq_iff_iff]
  exact ((respelled_renameWords hf (fun _ hkept => hkept) cs).hasWord_iff hw hkeeps).symm

lemma keeps_versionWords {f : Renaming} (hf : f.Within (touchedNames stage)) :
    ∀ w ∈ versionWords, f.Keeps w := by
  have huntouched : ∀ w ∈ versionWords, w ∉ touchedNames stage := by cases stage <;> decide
  exact fun w hw => hf.keeps (huntouched w hw)

lemma namesTo300_versionLine (h : Spaced (qualifierNames stage) cs) :
    namesTo300 stage (versionTo300 (versionLine100 ++ cs)) =
      versionLine300 ++ renameWords (nameTo300 stage) cs := by
  rw [versionTo300_versionLine100, namesTo300_eq (spaced_versionLine300.2 h),
    renameWords_versionLine300 (keeps_versionWords (nameTo300_within stage))]

lemma namesTo100_versionLine (h : Spaced (qualifierNames stage) cs) :
    namesTo100 stage (versionTo100 (versionLine300 ++ cs)) =
      versionLine100 ++ renameWords (nameTo100 stage) cs := by
  rw [versionTo100_versionLine300, namesTo100_eq (spaced_versionLine100.2 h),
    renameWords_versionLine100 (keeps_versionWords (nameTo100_within stage))]

/-- The names of the newer dialect leave the gaps behind qualifiers as they are. -/
lemma spaced_nameTo300 (h : Spaced (qualifierNames stage) cs) :
    Spaced (qualifierNames stage) (renameWords (nameTo300 stage) cs) := by
  refine spaced_renameWords h (nameTo300_keepsWords stage) fun gap w hw => ?_
  have hwithin : (changesRenaming (qualifiersTo300 stage)).Within (qualifierNames stage) :=
    changesRenaming_within (by cases stage <;> decide)
  rcases hwithin (.variableAfter gap) w with hsame | ⟨hold, -⟩
  · exact hsame ▸ hw
  · exact hold

/-- The names of the older dialect leave the gaps behind qualifiers as they are. -/
lemma spaced_nameTo100 (h : Spaced (qualifierNames stage) cs) :
    Spaced (qualifierNames stage) (renameWords (nameTo100 stage) cs) := by
  refine spaced_renameWords h (nameTo100_keepsWords stage) fun gap w hw => ?_
  have hwithin : (changesRenaming (qualifiersTo100 stage)).Within (qualifierNames stage) :=
    changesRenaming_within (by cases stage <;> decide)
  rcases hwithin (.variableAfter gap) w with hsame | ⟨hold, -⟩
  · exact hsame ▸ hw
  · exact hold

end Version

/-! ### The output -/

lemma outputTo300_of_unused {cs : List Char} (hnone : splitOutput? cs = none)
    (hunused : hasWord builtinOutput cs = false) : outputTo300 cs = cs := by
  have hword : IsWord builtinOutput := by decide
  simp only [outputTo300, hnone, hunused, Bool.false_eq_true, if_false]
  rw [renameWord_eq_renameWords hword]
  refine renameWords_eq_self fun w behind hw => if_neg ?_
  rintro rfl
  have hused := (hasWord_iff hword).2 ⟨behind, hw⟩
  exact absurd (hused.symm.trans hunused) (by simp)

lemma outputTo300_of_used {cs : List Char} (hnone : splitOutput? cs = none)
    (hused : hasWord builtinOutput cs = true) :
    outputTo300 cs = renameWords (wordRenaming builtinOutput defaultOutput) (declareOutput cs) := by
  simp only [outputTo300, hnone, hused, if_true]
  exact renameWord_eq_renameWords (by decide) ..

lemma wordRenaming_keeps {old new v : List Char} (hold : v ≠ old) (hnew : v ≠ new) :
    (wordRenaming old new).Keeps v := by
  intro behind w
  by_cases hw : w = old
  · rw [wordRenaming, if_pos hw, hw]
    exact iff_of_false hnew.symm hold.symm
  · rw [wordRenaming, if_neg hw]

/-- The words of a fragment stage in the newer dialect, with the declared output. -/
def fragmentTo300 : Renaming :=
  (nameTo300 .fragment).followedBy (wordRenaming builtinOutput defaultOutput)

/-- The words of a fragment stage in the newer dialect and back, with the declared output. -/
def fragmentThereAndBack : Renaming := fragmentTo300.followedBy (nameTo100 .fragment)

lemma fragmentTo300_keepsWords : fragmentTo300.KeepsWords :=
  (nameTo300_keepsWords _).followedBy (wordRenaming_keepsWords (by decide))

lemma fragmentThereAndBack_keepsWords : fragmentThereAndBack.KeepsWords :=
  fragmentTo300_keepsWords.followedBy (nameTo100_keepsWords _)

lemma fragmentTo300_keeps {v : List Char} (htouched : v ∉ touchedNames .fragment)
    (hbuiltin : v ≠ builtinOutput) (hdefault : v ≠ defaultOutput) : fragmentTo300.Keeps v :=
  ((nameTo300_within _).keeps htouched).followedBy (wordRenaming_keeps hbuiltin hdefault)

lemma fragmentThereAndBack_keeps {v : List Char} (htouched : v ∉ touchedNames .fragment)
    (hbuiltin : v ≠ builtinOutput) (hdefault : v ≠ defaultOutput) :
    fragmentThereAndBack.Keeps v :=
  (fragmentTo300_keeps htouched hbuiltin hdefault).followedBy
    ((nameTo100_within _).keeps htouched)

/-- The words of the declaration stay as they are. -/
lemma fragmentThereAndBack_outputWords :
    ∀ w ∈ outputWords, ∀ behind, fragmentThereAndBack behind w = w := by
  intro w hw behind
  have hwords : ∀ w ∈ outputWords, w ∉ touchedNames .fragment ∧ w ≠ builtinOutput := by decide
  obtain ⟨htouched, hbuiltin⟩ := hwords w hw
  have hto300 : fragmentTo300 behind w = w := by
    rw [fragmentTo300, Renaming.followedBy, ((nameTo300_within _).keeps htouched).apply]
    exact if_neg hbuiltin
  rw [fragmentThereAndBack, Renaming.followedBy, hto300]
  exact ((nameTo100_within _).keeps htouched).apply behind

namespace ImplicitOutput

variable {cs rest : List Char}

lemma undeclared_rest (h : ImplicitOutput (versionLine100 ++ rest)) : splitOutput? rest = none := by
  have hnone := h.undeclared
  rwa [ofVersionWords_versionLine100.splitOutput?, Option.map_eq_none_iff] at hnone

lemma undeclared_300 (h : ImplicitOutput (versionLine100 ++ rest)) :
    splitOutput? (versionLine300 ++ renameWords (nameTo300 .fragment) rest) = none := by
  have hsome := isSome_splitOutput?_renameWords (nameTo300_keepsWords .fragment)
    ((nameTo300_within .fragment).keeps (by decide))
    ((nameTo300_within .fragment).keeps (by decide)) rest
  rw [h.undeclared_rest, Option.isSome_none, Option.isSome_eq_false_iff,
    Option.isNone_iff_eq_none] at hsome
  rw [ofVersionWords_versionLine300.splitOutput?, hsome]
  rfl

/-- The built-in output is used in the newer dialect as it was before. -/
lemma hasWord_300 : hasWord builtinOutput
      (versionLine300 ++ renameWords (nameTo300 .fragment) rest) =
    hasWord builtinOutput (versionLine100 ++ rest) := by
  rw [ofVersionWords_versionLine300.hasWord (by decide) (by decide),
    ofVersionWords_versionLine100.hasWord (by decide) (by decide)]
  exact hasWord_renameWords (by decide) (nameTo300_keepsWords _)
    ((nameTo300_within _).keeps (by decide)) rest

/-- Each name becomes what it was, the built-in output by way of the declared one. -/
lemma name_restored (h : ImplicitOutput cs) (hcs : Plain100 .fragment cs) {w : List Char}
    {behind : Follower} (hw : .word w behind ∈ pieces cs) :
    (fragmentThereAndBack.followedBy (wordRenaming defaultOutput builtinOutput)) behind w = w := by
  have hdefault : w ≠ defaultOutput := by
    rintro rfl
    have hused := (hasWord_iff (by decide)).2 ⟨behind, hw⟩
    exact absurd (hused.symm.trans h.free) (by simp)
  have hkeeps : (nameTo300 .fragment).Keeps builtinOutput :=
    (nameTo300_within .fragment).keeps (by decide)
  have hdeclared : (nameTo100 .fragment).Keeps defaultOutput :=
    (nameTo100_within .fragment).keeps (by decide)
  by_cases hbuiltin : w = builtinOutput
  · have hto300 : fragmentTo300 behind w = defaultOutput := by
      rw [fragmentTo300, Renaming.followedBy_apply, (hkeeps behind w).2 hbuiltin]
      exact if_pos rfl
    have hback : fragmentThereAndBack behind w = defaultOutput := by
      rw [fragmentThereAndBack, Renaming.followedBy_apply, hto300, hdeclared.apply]
    rw [Renaming.followedBy_apply, hback, hbuiltin]
    exact if_pos rfl
  · have hto300 : fragmentTo300 behind w = nameTo300 .fragment behind w :=
      if_neg fun heq => hbuiltin ((hkeeps behind w).1 heq)
    have hback : fragmentThereAndBack behind w = w := by
      rw [fragmentThereAndBack, Renaming.followedBy_apply, hto300, hcs.name_restored hw]
    rw [Renaming.followedBy_apply, hback]
    exact if_neg hdefault

/-- The code with the declaration, in the newer dialect. -/
lemma convert_300 (h : ImplicitOutput (versionLine100 ++ rest))
    (hcs : Plain100 .fragment (versionLine100 ++ rest))
    (hused : hasWord builtinOutput (versionLine100 ++ rest) = true) {m : MainSplit}
    (hm : splitMain? rest = some m) (hstart : AtWordStart m.before) :
    convert .es300 .fragment (versionLine100 ++ rest) =
      versionLine300 ++ renameWords fragmentTo300 (declareOutput rest) := by
  have hspaced := spaced_versionLine100.1 hcs.spaced_names
  have hwithin := nameTo300_within .fragment
  have houtput : ∀ w ∈ outputWords, w ∉ touchedNames .fragment := by decide
  have hversion : ∀ w ∈ versionWords, fragmentTo300.Keeps w := by
    have hwords : ∀ w ∈ versionWords, w ∉ touchedNames .fragment ∧ w ≠ builtinOutput ∧
      w ≠ defaultOutput := by decide
    exact fun w hw => fragmentTo300_keeps (hwords w hw).1 (hwords w hw).2.1 (hwords w hw).2.2
  have hm300 : splitMain? (versionLine300 ++ rest) = some (m.prepend versionLine300) := by
    rw [ofVersionWords_versionLine300.splitMain?, hm]
    rfl
  have hdeclared : declareOutput (renameWords (nameTo300 .fragment) (versionLine300 ++ rest)) =
      renameWords (nameTo300 .fragment) (declareOutput (versionLine300 ++ rest)) :=
    declareOutput_renameWords hm300 (.append (by decide) hstart) (nameTo300_keepsWords _)
      (hwithin.keeps (by decide)) (fun v hv => hwithin.keeps (untouched_of_void _ hv))
      fun w hw behind => (hwithin.keeps (houtput w hw)).apply behind
  rw [convert_es300_fragment, namesTo300_versionLine hspaced, outputTo300_of_used h.undeclared_300
    (hasWord_300.trans hused), ← renameWords_versionLine300 (keeps_versionWords hwithin),
    hdeclared, declareOutput_pass ofVersionWords_versionLine300 hm,
    renameWords_renameWords (nameTo300_keepsWords _), ← fragmentTo300,
    renameWords_versionLine300 hversion]

/-- The declaration has no gaps behind qualifiers that change. -/
lemma spaced_declared {m : MainSplit} (hspaced : Spaced (qualifierNames .fragment) rest)
    (hm : splitMain? rest = some m) (hstart : AtWordStart m.before) :
    Spaced (qualifierNames .fragment) (renameWords fragmentTo300 (declareOutput rest)) := by
  have hwords : ∀ w ∈ qualifierNames .fragment, w ∉ outputWords := by decide
  have hdeclared : Spaced (qualifierNames .fragment) (declareOutput rest) := by
    intro w hw gap hmem
    rcases mem_pieces_declareOutput hm hstart hmem with hmem | hmem
    · exact hspaced w hw gap hmem
    · exact absurd hmem (hwords w hw)
  rw [fragmentTo300, ← renameWords_renameWords (nameTo300_keepsWords _)]
  refine spaced_renameWords (spaced_nameTo300 hdeclared) (wordRenaming_keepsWords (by decide))
    fun gap w hw => ?_
  by_cases hbuiltin : w = builtinOutput
  · rw [wordRenaming, if_pos hbuiltin] at hw
    exact absurd (hwords _ hw) (by decide)
  · rwa [wordRenaming, if_neg hbuiltin] at hw

/-- Where the built-in output is used, the default output is declared in the newer dialect, and the
way back removes the declaration. -/
lemma convert_used (h : ImplicitOutput (versionLine100 ++ rest))
    (hcs : Plain100 .fragment (versionLine100 ++ rest))
    (hused : hasWord builtinOutput (versionLine100 ++ rest) = true) :
    convert .es100 .fragment (convert .es300 .fragment (versionLine100 ++ rest)) =
      versionLine100 ++ rest := by
  obtain ⟨m, hm100, hstart100⟩ := h.main hused
  have hpass := hm100
  rw [ofVersionWords_versionLine100.splitMain?] at hpass
  obtain ⟨m, hm, rfl⟩ := Option.map_eq_some_iff.1 hpass
  have hstart : AtWordStart m.before := hstart100.of_suffix (List.suffix_append ..)
  have hspaced := spaced_declared (spaced_versionLine100.1 hcs.spaced_names) hm hstart
  have hkeeps : ∀ w ∈ "out".toList :: "vec4".toList :: versionWords,
      fragmentThereAndBack.Keeps w := by
    have hwords : ∀ w ∈ "out".toList :: "vec4".toList :: versionWords,
      w ∉ touchedNames .fragment ∧ w ≠ builtinOutput ∧ w ≠ defaultOutput := by decide
    exact fun w hw =>
      fragmentThereAndBack_keeps (hwords w hw).1 (hwords w hw).2.1 (hwords w hw).2.2
  obtain ⟨s, hs, hname, hrest⟩ := splitOutput?_declareOutput hm100 hstart100
    fragmentThereAndBack_keepsWords (hkeeps _ (by simp)) (hkeeps _ (by simp))
    fragmentThereAndBack_outputWords h.undeclared
  have hback : namesTo100 .fragment (versionTo100
      (versionLine300 ++ renameWords fragmentTo300 (declareOutput rest))) =
      renameWords fragmentThereAndBack (declareOutput (versionLine100 ++ rest)) := by
    rw [namesTo100_versionLine hspaced, renameWords_renameWords fragmentTo300_keepsWords,
      ← fragmentThereAndBack, declareOutput_pass ofVersionWords_versionLine100 hm,
      renameWords_versionLine100 fun w hw => hkeeps w (by simp [hw])]
  rw [h.convert_300 hcs hused hm hstart, convert_es100_fragment, hback, outputTo100, hs]
  simp only [hname, hrest]
  rw [renameWord_eq_renameWords (by decide),
    renameWords_renameWords fragmentThereAndBack_keepsWords, renameWords_eq_self]
  exact fun w behind hw => h.name_restored hcs hw

/-- Where the built-in output is not used, no output is declared in the newer dialect. -/
lemma convert_unused (h : ImplicitOutput (versionLine100 ++ rest))
    (hcs : Plain100 .fragment (versionLine100 ++ rest))
    (hunused : hasWord builtinOutput (versionLine100 ++ rest) = false) :
    convert .es100 .fragment (convert .es300 .fragment (versionLine100 ++ rest)) =
      versionLine100 ++ rest := by
  have hspaced := spaced_versionLine100.1 hcs.spaced_names
  rw [convert_es300_fragment, convert_es100_fragment, namesTo300_versionLine hspaced,
    outputTo300_of_unused h.undeclared_300 (hasWord_300.trans hunused),
    namesTo100_versionLine (spaced_nameTo300 hspaced),
    renameWords_renameWords (nameTo300_keepsWords _), renameWords_eq_self]
  · rw [outputTo100, h.undeclared]
  · exact fun w behind hw => hcs.name_restored (mem_pieces_versionLine100 hw)

end ImplicitOutput

/-! ### Whole stages -/

lemma Plain100.convert_vertex {cs : List Char} (h : Plain100 .vertex cs) :
    convert .es100 .vertex (convert .es300 .vertex cs) = cs := by
  obtain ⟨rest, rfl⟩ := h.version
  have hspaced := spaced_versionLine100.1 h.spaced_names
  rw [convert_es300_vertex, convert_es100_vertex, namesTo300_versionLine hspaced,
    namesTo100_versionLine (spaced_nameTo300 hspaced),
    renameWords_renameWords (nameTo300_keepsWords _), renameWords_eq_self]
  exact fun w behind hw => h.name_restored (mem_pieces_versionLine100 hw)

lemma Plain100.convert_fragment {cs : List Char} (h : Plain100 .fragment cs)
    (houtput : ImplicitOutput cs) :
    convert .es100 .fragment (convert .es300 .fragment cs) = cs := by
  obtain ⟨rest, rfl⟩ := h.version
  cases hused : hasWord builtinOutput (versionLine100 ++ rest) with
  | true => exact houtput.convert_used h hused
  | false => exact houtput.convert_unused h hused

lemma Plain300.convert_vertex {cs : List Char} (h : Plain300 .vertex cs) :
    convert .es300 .vertex (convert .es100 .vertex cs) = cs := by
  obtain ⟨rest, rfl⟩ := h.version
  have hspaced := spaced_versionLine300.1 h.spaced_names
  rw [convert_es100_vertex, convert_es300_vertex, namesTo100_versionLine hspaced,
    namesTo300_versionLine (spaced_nameTo100 hspaced),
    renameWords_renameWords (nameTo100_keepsWords _), renameWords_eq_self]
  exact fun w behind hw => h.name_restored (mem_pieces_versionLine300 hw)

lemma transpile_number (d : Dialect) (stage : Stage) (s : String) :
    transpile (.text s) (.int d.number) stage =
      .ok (String.ofList (convert d stage s.toList)) := by
  rw [transpile, Dialect.ofValue?_number]
  rfl

/-- Code that two conversions restore is the same after both. -/
lemma transpile_transpile {d e : Dialect} {stage : Stage} {s : String}
    (h : convert e stage (convert d stage s.toList) = s.toList) :
    (transpile (.text s) (.int d.number) stage >>= fun t =>
      transpile (.text t) (.int e.number) stage) = .ok s := by
  rw [transpile_number]
  show transpile (.text (String.ofList (convert d stage s.toList))) (.int e.number) stage = _
  rw [transpile_number, String.toList_ofList, h, String.ofList_toList]

/-- Code of the older dialect is the same after the conversion to the newer one and back. -/
theorem transpile_to300_to100 {stage : Stage} {s : String} (h : Plain100 stage s.toList)
    (houtput : stage = .fragment → ImplicitOutput s.toList) :
    (transpile (.text s) (.int 300) stage >>= fun t => transpile (.text t) (.int 100) stage) =
      .ok s := by
  refine transpile_transpile (d := .es300) (e := .es100) ?_
  cases stage with
  | vertex => exact h.convert_vertex
  | fragment => exact h.convert_fragment (houtput rfl)

/-- A fragment stage of the older dialect that uses what the conversion changes. -/
def litFragment : String :=
  "#version 100\nvarying vec2 p;\nvoid main() \x7b gl_FragColor = texture2D(image, p); \x7d\n"

theorem litFragment_restored :
    (Plain100 .fragment litFragment.toList ∧ ImplicitOutput litFragment.toList) ∧
      (transpile (.text litFragment) (.int 300) .fragment >>= fun t =>
        transpile (.text t) (.int 100) .fragment) = .ok litFragment := by
  have hplain : Plain100 .fragment litFragment.toList := by decide +kernel
  have houtput : ImplicitOutput litFragment.toList := by decide +kernel
  exact ⟨⟨hplain, houtput⟩, transpile_to300_to100 hplain fun _ => houtput⟩

/-- A vertex stage of the newer dialect is the same after the conversion to the older one and
back. -/
theorem transpile_to100_to300 {s : String} (h : Plain300 .vertex s.toList) :
    (transpile (.text s) (.int 100) .vertex >>= fun t => transpile (.text t) (.int 300) .vertex) =
      .ok s :=
  transpile_transpile (d := .es100) (e := .es300) h.convert_vertex

/-- A vertex stage of the newer dialect that uses what the conversion changes. -/
def movedVertex : String :=
  "#version 300 es\nin vec3 p;\nout vec2 q;\nvoid main() \x7b q = texture(image, p.xy).xy; \x7d\n"

theorem movedVertex_restored :
    Plain300 .vertex movedVertex.toList ∧
      (transpile (.text movedVertex) (.int 100) .vertex >>= fun t =>
        transpile (.text t) (.int 300) .vertex) = .ok movedVertex := by
  have hplain : Plain300 .vertex movedVertex.toList := by decide +kernel
  exact ⟨hplain, transpile_to100_to300 hplain⟩

end ShaderLoom.Glsl
