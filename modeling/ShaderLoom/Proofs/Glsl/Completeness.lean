import ShaderLoom.Proofs.Glsl.Removal

/-!
# Conversion of a fragment stage in one pass

The conversion to the older dialect takes out the first declaration of an output only. So it is
complete, in that the result declares no output and a second conversion leaves it as it is, exactly
if taking out that declaration leaves nothing to convert (`transpile_fragment_complete_iff`): the
source declares no other output, and what stands around the declaration makes up no other thing that
a conversion looks for.
-/

namespace ShaderLoom.Glsl

open Text

/-! ### Variables across a cut -/

/-- A word in front of the cut that stands in front of a variable only with what is behind the
cut. -/
def DeclaresAcross (w before rest : List Char) : Prop :=
  ∃ front back, before = front ++ (w ++ back) ∧ AtWordStart front ∧ AtWordEnd back ∧
    ¬ LeadsToVariable back ∧ LeadsToVariable (back ++ rest)

lemma declaresAcross_iff_exists_index {w before rest : List Char} :
    DeclaresAcross w before rest ↔ ∃ i ∈ List.range (before.length + 1), w <+: before.drop i ∧
      AtWordStart (before.take i) ∧ AtWordEnd (before.drop (i + w.length)) ∧
      ¬ LeadsToVariable (before.drop (i + w.length)) ∧
      LeadsToVariable (before.drop (i + w.length) ++ rest) := by
  constructor
  · rintro ⟨front, back, rfl, hstart, hend, hacross⟩
    have hle : front.length < (front ++ (w ++ back)).length + 1 := by
      simp only [List.length_append]
      omega
    refine ⟨front.length, List.mem_range.2 hle, ?_⟩
    rw [← List.drop_drop, List.drop_left, List.drop_left, List.take_left]
    exact ⟨List.prefix_append w back, hstart, hend, hacross⟩
  · rintro ⟨i, -, ⟨back, hback⟩, hstart, hend, hacross⟩
    rw [← List.drop_drop, ← hback, List.drop_left] at hend hacross
    exact ⟨before.take i, back, by rw [hback, List.take_append_drop], hstart, hend, hacross⟩

instance (w before rest : List Char) : Decidable (DeclaresAcross w before rest) :=
  decidable_of_iff' _ declaresAcross_iff_exists_index

section Across

variable {w rest : List Char} (hw : IsWord w)
include hw

lemma not_declaresAcross_nil : ¬ DeclaresAcross w [] rest := by
  rintro ⟨front, back, heq, -⟩
  simp [hw.ne_nil] at heq

lemma declaresAcross_mark {c : Char} (hc : isWordChar c = false) {cs : List Char} :
    DeclaresAcross w (c :: cs) rest ↔ DeclaresAcross w cs rest := by
  constructor
  · rintro ⟨front, back, heq, hstart, hend, hacross⟩
    obtain ⟨front, rfl, -, -, hstart, -⟩ := (isWordAt_mark hw hc).1 ⟨back, heq, hstart, hend⟩
    exact ⟨front, back, (List.cons.inj heq).2, hstart, hend, hacross⟩
  · rintro ⟨front, back, rfl, hstart, hend, hacross⟩
    have hmark : AtWordStart [c] := by simp [AtWordStart, hc]
    exact ⟨c :: front, back, rfl, hmark.append hstart, hend, hacross⟩

lemma declaresAcross_word {v cs : List Char} (hv : IsWord v) (hcs : AtWordEnd cs) :
    DeclaresAcross w (v ++ cs) rest ↔
      (w = v ∧ ¬ LeadsToVariable cs ∧ LeadsToVariable (cs ++ rest)) ∨ DeclaresAcross w cs rest := by
  constructor
  · rintro ⟨front, back, heq, hstart, hend, hacross⟩
    rcases (isWordAt_word hw hv hcs).1 ⟨back, heq, hstart, hend⟩ with
      ⟨rfl, rfl⟩ | ⟨front, rfl, -, -, hstart, -⟩
    · obtain rfl := List.append_cancel_left heq
      exact .inl ⟨rfl, hacross⟩
    · rw [List.append_assoc] at heq
      exact .inr ⟨front, back, List.append_cancel_left heq, hstart, hend, hacross⟩
  · rintro (⟨rfl, hacross⟩ | ⟨front, back, rfl, hstart, hend, hacross⟩)
    · exact ⟨[], cs, rfl, rfl, hcs, hacross⟩
    · have hne : front ≠ [] := by
        rintro rfl
        exact hw.not_atWordEnd hcs
      exact ⟨v ++ front, back, by rw [List.append_assoc], (atWordStart_append v hne).2 hstart, hend,
        hacross⟩

lemma declaresAcross_gap {g cs : List Char} (hg : IsGapText g) :
    DeclaresAcross w (g ++ cs) rest ↔ DeclaresAcross w cs rest := by
  induction g with
  | nil => rfl
  | cons c g ih =>
    rw [List.cons_append, declaresAcross_mark hw (isWordChar_of_isGap (hg c List.mem_cons_self)),
      ih fun d hd => hg d (List.mem_cons_of_mem c hd)]

/-- A text without the word is passed over. -/
lemma declaresAcross_pass {front cs : List Char} (hfront : AtWordStart front)
    (h : ∀ v behind, .word v behind ∈ pieces front → v ≠ w) :
    DeclaresAcross w (front ++ cs) rest ↔ DeclaresAcross w cs rest := by
  induction front using text_induction with
  | nil => rfl
  | mark c front hc ih =>
    rw [pieces_mark hc] at h
    rw [List.cons_append, declaresAcross_mark hw hc]
    exact ih (hfront.of_suffix (List.suffix_cons c front)) fun v behind hmem =>
      h v behind (by simp [hmem])
  | word v front hv hend ih =>
    rw [pieces_word hv hend] at h
    have hend' := (atWordEnd_append (hfront.ne_nil hv) cs).2 hend
    have hne : w ≠ v := fun heq => h v (follower front) (by simp) heq.symm
    rw [List.append_assoc, declaresAcross_word hw hv hend', or_iff_right fun hhere => hne hhere.1]
    exact ih (hfront.of_suffix (List.suffix_append v front)) fun v behind hmem =>
      h v behind (by simp [hmem])

end Across

/-! ### The qualifier of an input -/

/-- The qualifier of an input in the newer dialect. -/
abbrev inputQualifier : List Char := "in".toList

/-- Where no variable follows, the qualifier of an input neither changes nor comes up. -/
lemma nameTo100_eq_input_iff {behind : Follower} (hbehind : behind.spaced ≠ .variableAfter [' '])
    (w : List Char) : nameTo100 .fragment behind.spaced w = inputQualifier ↔ w = inputQualifier := by
  have htouched : ∀ behind ∈ [Follower.call, .other], ∀ w ∈ touchedNames .fragment,
      nameTo100 .fragment behind w = inputQualifier ↔ w = inputQualifier := by decide
  have hmem : behind.spaced ∈ [Follower.call, .other] := by
    simpa using (spaced_cases behind).resolve_left hbehind
  by_cases hw : w ∈ touchedNames .fragment
  · exact htouched _ hmem w hw
  · rw [((nameTo100_within .fragment).keeps hw).apply]

/-- A conversion of names moves no variable: the qualifier of an input comes to stand in front of one
across the cut in both texts or in neither. -/
lemma ConvertedNames.declaresAcross_iff {before before' rest rest' : List Char}
    (hbefore : ConvertedNames before before') (hrest : ConvertedNames rest rest')
    (hstart : AtWordStart before) :
    DeclaresAcross inputQualifier before rest ↔ DeclaresAcross inputQualifier before' rest' := by
  have hinput : IsWord inputQualifier := by decide
  obtain ⟨hrespelled, hwording⟩ := hbefore
  induction hrespelled with
  | nil => exact iff_of_false (not_declaresAcross_nil hinput) (not_declaresAcross_nil hinput)
  | @mark c cs ds hc hcs ih =>
    rw [wording_mark hc, wording_mark hc] at hwording
    rw [declaresAcross_mark hinput hc, declaresAcross_mark hinput hc]
    exact ih (hstart.of_suffix (List.suffix_cons c cs)) hwording
  | @gap g g' cs ds hne hne' hg hg' hcs ih =>
    rw [wording_marks fun c hc => isWordChar_of_isGap (hg c hc),
      wording_marks fun c hc => isWordChar_of_isGap (hg' c hc)] at hwording
    rw [declaresAcross_gap hinput hg, declaresAcross_gap hinput hg']
    exact ih (hstart.of_suffix (List.suffix_append g cs)) hwording
  | @word w v cs ds hw hv hend _ hcs ih =>
    have hend' := hcs.atWordEnd_iff.1 hend
    have hsuffix := hstart.of_suffix (List.suffix_append w cs)
    rw [wording_word hw hend, wording_word hv hend', List.map_cons] at hwording
    obtain ⟨hword, hwords⟩ := List.cons.inj hwording
    have hname : v = nameTo100 .fragment (follower cs).spaced w := congrArg Prod.snd hword
    have hrec : DeclaresAcross inputQualifier cs rest ↔ DeclaresAcross inputQualifier ds rest' :=
      ih hsuffix hwords
    have hbehind := hcs.follower_spaced
    have hacross := (hcs.append hsuffix hrest.respelled).follower_spaced
    rw [declaresAcross_word hinput hw hend, declaresAcross_word hinput hv hend', hrec,
      leadsToVariable_iff, leadsToVariable_iff, leadsToVariable_iff, leadsToVariable_iff, hbehind,
      hacross]
    refine or_congr (and_congr_left fun h => ?_) Iff.rfl
    rw [← hbehind] at h
    rw [eq_comm, ← nameTo100_eq_input_iff h.1 w, ← hname, eq_comm]

/-- The words of a version are not the qualifier of an input. -/
lemma declaresAcross_versionTo100 (before rest : List Char) :
    DeclaresAcross inputQualifier (versionTo100 before) rest ↔
      DeclaresAcross inputQualifier before rest := by
  have hpass : ∀ {front below}, VersionFront front below →
      (DeclaresAcross inputQualifier (front ++ below) rest ↔
        DeclaresAcross inputQualifier below rest) := by
    intro front below h
    have hinput : IsWord inputQualifier := by decide
    cases h with
    | nil => rfl
    | @line front word below hfront hword hother hbelow =>
      have hne : inputQualifier ≠ word := by
        rintro rfl
        exact hother (by decide)
      rw [List.append_assoc, declaresAcross_pass hinput hfront.start fun w behind hmem => ?_,
        declaresAcross_word hinput hword hbelow, or_iff_right fun hhere => hne hhere.1]
      rintro rfl
      exact absurd (hfront.words _ behind hmem) (by decide)
  obtain ⟨front, front', below, rfl, hconverted, hfront, hfront'⟩ := versionTo100_cut before
  rw [hconverted, hpass hfront, hpass hfront']

/-! ### Settled code -/

/-- Code keeps its names exactly if its words have the names of the older dialect. -/
lemma namesTo100_eq_self_iff {stage : Stage} {cs : List Char} :
    namesTo100 stage cs = cs ↔ ∀ p ∈ wording cs, nameTo100 stage p.1 p.2 = p.2 := by
  constructor
  · intro h p hp
    have hwording := wording_namesTo100 stage cs
    rw [h] at hwording
    have hsame := List.map_eq_map_iff.1 (hwording.symm.trans (List.map_id _).symm) p hp
    exact congrArg Prod.snd hsame
  · intro h
    refine namesTo100_eq_self fun f hf p hp => ?_
    have hsettled := settled_of_within (nameTo100_within stage) (renamingsTo100_within f hf)
      (settled_nameTo100 f hf) p.1 p.2
    rwa [spaced_of_mem_wording hp, h p hp] at hsettled

/-- Conversion of the version and of the names declares no output. -/
lemma undeclared_converted {cs : List Char} (h : splitOutput? cs = none) :
    splitOutput? (namesTo100 .fragment (versionTo100 cs)) = none := by
  have hsome := (respelled_namesTo100 .fragment (versionTo100 cs)).isSome_splitOutput? (by decide)
    (by decide)
  rw [isSome_splitOutput?_versionTo100] at hsome
  exact (Option.isSome_eq_isSome.1 hsome).1 h

lemma convert_undeclared {cs : List Char} (h : splitOutput? cs = none) :
    convert .es100 .fragment cs = namesTo100 .fragment (versionTo100 cs) := by
  rw [convert_es100_fragment, outputTo100, undeclared_converted h]

lemma names_namesTo100 (cs : List Char) :
    ∀ p ∈ wording (namesTo100 .fragment cs), nameTo100 .fragment p.1 p.2 = p.2 :=
  namesTo100_eq_self_iff.1 (namesTo100_namesTo100 cs)

/-- Code that declares no output is left as it is exactly if it has neither a version of the newer
dialect nor another of its names. -/
lemma convert_undeclared_eq_self_iff {cs : List Char} (h : splitOutput? cs = none) :
    convert .es100 .fragment cs = cs ↔
      afterVersion300? cs = none ∧ ∀ p ∈ wording cs, nameTo100 .fragment p.1 p.2 = p.2 := by
  rw [convert_undeclared h]
  constructor
  · intro heq
    have hversion : afterVersion300? cs = none := by
      rw [← heq]
      exact afterVersion300?_namesTo100 cs
    rw [versionTo100_eq_self hversion] at heq
    exact ⟨hversion, namesTo100_eq_self_iff.1 heq⟩
  · rintro ⟨hversion, hnames⟩
    rw [versionTo100_eq_self hversion]
    exact namesTo100_eq_self_iff.2 hnames

/-- In front of a variable, only the qualifier of an input changes. -/
lemma nameTo100_variable_iff (w : List Char) :
    nameTo100 .fragment (.variableAfter [' ']) w = w ↔ w ≠ inputQualifier := by
  have htouched : ∀ w ∈ touchedNames .fragment,
      nameTo100 .fragment (.variableAfter [' ']) w = w ↔ w ≠ inputQualifier := by decide
  by_cases hw : w ∈ touchedNames .fragment
  · exact htouched w hw
  · refine iff_of_true (((nameTo100_within .fragment).keeps hw).apply _) ?_
    rintro rfl
    exact hw (by decide)

/-- A word that has the name of the older dialect in front of a cut keeps it with what is behind the
cut, except for the qualifier of an input that comes to stand in front of a variable. -/
lemma nameTo100_across_iff {cs rest w : List Char} (hne : cs ≠ [])
    (h : nameTo100 .fragment (follower cs).spaced w = w) :
    nameTo100 .fragment (follower (cs ++ rest)).spaced w = w ↔
      ¬ (inputQualifier = w ∧ ¬ LeadsToVariable cs ∧ LeadsToVariable (cs ++ rest)) := by
  rw [leadsToVariable_iff, leadsToVariable_iff]
  rcases spaced_cases (follower (cs ++ rest)) with hbehind | hbehind | hbehind
  · rw [hbehind, nameTo100_variable_iff, ne_comm]
    refine not_congr (iff_self_and.2 ?_)
    rintro rfl
    refine ⟨fun hvariable => ?_, rfl⟩
    rw [hvariable, nameTo100_variable_iff] at h
    exact h rfl
  · -- a call in front of the cut is the same call
    have hsame : (follower cs).spaced = .call := by
      rw [spaced_eq_call_iff, follower_eq_call_iff, List.head?_append_of_ne_nil _ hne] at hbehind
      rwa [spaced_eq_call_iff, follower_eq_call_iff]
    rw [hbehind]
    rw [hsame] at h
    exact iff_of_true h (by simp)
  · rw [hbehind]
    exact iff_of_true rfl (by simp)

/-- Code whose two parts have the names of the older dialect has them too, apart from one name,
exactly if no qualifier of an input comes to stand in front of a variable. -/
lemma names_append_iff {name before rest : List Char} (hstart : AtWordStart before)
    (hbefore : ∀ p ∈ wording before, nameTo100 .fragment p.1 p.2 = p.2)
    (hrest : ∀ p ∈ wording rest, nameTo100 .fragment p.1 p.2 = p.2) :
    (∀ p ∈ wording (before ++ rest), p.2 = name ∨ nameTo100 .fragment p.1 p.2 = p.2) ↔
      name = inputQualifier ∨ ¬ DeclaresAcross inputQualifier before rest := by
  have hinput : IsWord inputQualifier := by decide
  induction before using text_induction with
  | nil => exact iff_of_true (fun p hp => .inr (hrest p hp)) (.inr (not_declaresAcross_nil hinput))
  | mark c cs hc ih =>
    rw [wording_mark hc] at hbefore
    rw [List.cons_append, wording_mark hc, declaresAcross_mark hinput hc]
    exact ih (hstart.of_suffix (List.suffix_cons c cs)) hbefore
  | word w cs hw hcs ih =>
    have hne := hstart.ne_nil hw
    rw [wording_word hw hcs, List.forall_mem_cons] at hbefore
    have hrec := ih (hstart.of_suffix (List.suffix_append w cs)) hbefore.2
    rw [List.append_assoc, wording_word hw ((atWordEnd_append hne rest).2 hcs),
      List.forall_mem_cons, declaresAcross_word hinput hw hcs, nameTo100_across_iff hne hbefore.1,
      not_or]
    refine (and_congr_right fun _ => hrec).trans ?_
    by_cases hname : name = inputQualifier
    · -- the only word that may change has another name then
      refine iff_of_true ⟨?_, .inl hname⟩ (.inl hname)
      by_cases hw : inputQualifier = w
      · exact .inl (hw.symm.trans hname.symm)
      · exact .inr fun h => hw h.1
    · rw [or_iff_right hname, or_iff_right hname]
      refine and_congr_left fun _ => or_iff_right_of_imp ?_
      rintro rfl h
      exact hname h.1.symm

/-! ### The built-in output in place of a declared one -/

section Output

variable {name : List Char} (hname : IsWord name)
include hname

/-- The old name is gone. -/
lemma ne_name_of_mem_wording (hother : name ≠ builtinOutput) (cs : List Char) :
    ∀ p ∈ wording (renameWord name builtinOutput cs), p.2 ≠ name := by
  rw [renameWord_eq_renameWords hname,
    wording_renameWords (wordRenaming_keepsWords (by decide)) fun _ _ => rfl, List.forall_mem_map]
  intro p _
  by_cases hp : p.2 = name
  · rw [Renaming.onWord, wordRenaming, if_pos hp]
    exact hother.symm
  · rwa [Renaming.onWord, wordRenaming, if_neg hp]

/-- Using the built-in output declares an output exactly where the code did, unless the old name is
a word of declarations. -/
lemma splitOutput?_renameWord_eq_none_iff (cs : List Char) :
    splitOutput? (renameWord name builtinOutput cs) = none ↔
      name ∈ ["out".toList, "vec4".toList] ∨ splitOutput? cs = none := by
  by_cases hmem : name ∈ ["out".toList, "vec4".toList]
  · refine iff_of_true ?_ (.inl hmem)
    have hother : name ≠ builtinOutput := fun heq =>
      absurd (heq ▸ hmem) (by decide : builtinOutput ∉ _)
    cases hd : splitOutput? (renameWord name builtinOutput cs) with
    | none => rfl
    | some d =>
      -- a declaration has both words, but the old name is gone
      have hgone := ne_name_of_mem_wording hname hother cs
      obtain ⟨behind, behind', hwording⟩ := (cuts_of_splitOutput? hd).exists_wording
      rw [hwording] at hgone
      have hout := hgone (behind, "out".toList) (by simp)
      have htype := hgone (behind', "vec4".toList) (by simp)
      simp only [List.mem_cons, List.not_mem_nil, or_false] at hmem
      exact absurd hmem (not_or.2 ⟨Ne.symm hout, Ne.symm htype⟩)
  · have hkeeps : ∀ w ∈ ["out".toList, "vec4".toList],
        (wordRenaming name builtinOutput).Keeps w := by
      intro w hw
      refine wordRenaming_keeps (fun heq => hmem (heq ▸ hw)) ?_
      rintro rfl
      exact absurd hw (by decide)
    rw [or_iff_right hmem, renameWord_eq_renameWords hname]
    exact Option.isSome_eq_isSome.1 (isSome_splitOutput?_renameWords
      (wordRenaming_keepsWords (by decide)) (hkeeps _ (by simp)) (hkeeps _ (by simp)) cs)

lemma names_renameWord_iff (cs : List Char) :
    (∀ p ∈ wording (renameWord name builtinOutput cs), nameTo100 .fragment p.1 p.2 = p.2) ↔
      ∀ p ∈ wording cs, p.2 = name ∨ nameTo100 .fragment p.1 p.2 = p.2 := by
  have hkeepsWords : (wordRenaming name builtinOutput).KeepsWords :=
    wordRenaming_keepsWords (by decide)
  rw [renameWord_eq_renameWords hname, wording_renameWords hkeepsWords fun _ _ => rfl,
    List.forall_mem_map]
  refine forall₂_congr fun p _ => ?_
  have hbuiltin : nameTo100 .fragment p.1 builtinOutput = builtinOutput :=
    ((nameTo100_within .fragment).keeps (by decide)).apply p.1
  by_cases hp : p.2 = name
  · exact iff_of_true (by simpa [Renaming.onWord, wordRenaming, hp] using hbuiltin) (.inl hp)
  · simp [Renaming.onWord, wordRenaming, hp]

end Output

/-! ### Code that is converted in one pass -/

/-- Taking out the declaration, and using the built-in output in place of the declared one, leaves
nothing to convert: no other declaration of an output, no qualifier of an input that has come to
stand in front of a variable, and no version of the newer dialect. An output that has the name of
one of these words takes it with it. -/
@[mk_iff]
structure OutputSplit.LeavesNothing (d : OutputSplit) : Prop where
  output : d.name ∈ ["out".toList, "vec4".toList] ∨ splitOutput? (d.before ++ d.rest) = none
  input : d.name = inputQualifier ∨ ¬ DeclaresAcross inputQualifier d.before d.rest
  version : afterVersion300? (renameWord d.name builtinOutput (versionTo100 d.before ++ d.rest)) =
    none

instance (d : OutputSplit) : Decidable d.LeavesNothing :=
  decidable_of_iff' _ d.leavesNothing_iff

/-- In code that has the version and the names of the older dialect, taking out the declaration
leaves nothing to convert exactly if the result declares no output and is its own conversion. -/
lemma outputTo100_complete_iff {cs : List Char} {d : OutputSplit} (hd : splitOutput? cs = some d)
    (hversion : afterVersion300? cs = none)
    (hnames : ∀ p ∈ wording cs, nameTo100 .fragment p.1 p.2 = p.2) :
    splitOutput? (outputTo100 cs) = none ∧
      convert .es100 .fragment (outputTo100 cs) = outputTo100 cs ↔ d.LeavesNothing := by
  have hcuts := cuts_of_splitOutput? hd
  obtain ⟨behind, behind', hwording⟩ := hcuts.exists_wording
  rw [hwording] at hnames
  simp only [List.forall_mem_append, List.forall_mem_cons] at hnames
  obtain ⟨hbefore, -, -, -, hrest⟩ := hnames
  have hresult : outputTo100 cs = renameWord d.name builtinOutput (d.before ++ d.rest) := by
    rw [outputTo100, hd]
  rw [hresult, OutputSplit.leavesNothing_iff, versionTo100_before hd hversion,
    ← splitOutput?_renameWord_eq_none_iff hcuts.name]
  refine and_congr_right fun hnone => ?_
  rw [convert_undeclared_eq_self_iff hnone, names_renameWord_iff hcuts.name,
    names_append_iff hcuts.start hbefore hrest, and_comm]

/-- What the source leaves is what its code with the version and the names of the older dialect
leaves. -/
lemma exists_converted_output {cs : List Char} {d : OutputSplit} (hd : splitOutput? cs = some d) :
    ∃ d', splitOutput? (namesTo100 .fragment (versionTo100 cs)) = some d' ∧
      (d'.LeavesNothing ↔ d.LeavesNothing) := by
  obtain ⟨d', hd', hname, hbefore, hrest⟩ := splitOutput?_namesTo100 (splitOutput?_versionTo100 hd)
  have hcuts := cuts_of_splitOutput? hd
  have hstart := atWordStart_versionTo100 hcuts.start
  have hrespelled := hbefore.respelled.append hstart hrest.respelled
  have hrenamed := @Respelled.renameWord _ _ _ d.name builtinOutput hrespelled hcuts.name (by decide)
  have houtput : splitOutput? (d'.before ++ d'.rest) = none ↔
      splitOutput? (d.before ++ d.rest) = none := by
    rw [← Option.isSome_eq_isSome, ← isSome_splitOutput?_versionTo100_append hcuts.start]
    exact (hrespelled.isSome_splitOutput? (by decide) (by decide)).symm
  have hinput : DeclaresAcross inputQualifier d'.before d'.rest ↔
      DeclaresAcross inputQualifier d.before d.rest := by
    rw [← declaresAcross_versionTo100 d.before]
    exact (hbefore.declaresAcross_iff hrest hstart).symm
  have hversion : afterVersion300? (renameWord d'.name builtinOutput
        (versionTo100 d'.before ++ d'.rest)) = none ↔
      afterVersion300? (renameWord d.name builtinOutput (versionTo100 d.before ++ d.rest)) =
        none := by
    rw [versionTo100_before hd' (afterVersion300?_namesTo100 cs), hname, ← Option.isSome_eq_isSome]
    exact (hrenamed.isSome_afterVersion300? (by decide) (by decide) fun x hx =>
      ⟨untouched_of_es hx, fun heq => absurd (heq ▸ hx) (by decide)⟩).symm
  refine ⟨d', hd', ?_⟩
  rw [OutputSplit.leavesNothing_iff, OutputSplit.leavesNothing_iff, houtput, hinput, hversion, hname]

/-- A fragment stage, whatever the source is, has no declaration of an output after its conversion
to the older dialect, and is its own conversion then, exactly if taking out the first declaration
leaves nothing to convert. -/
theorem transpile_fragment_complete_iff (s : String) :
    ∃ t, transpile (.text s) (.int 100) .fragment = .ok t ∧
      (splitOutput? t.toList = none ∧ transpile (.text t) (.int 100) .fragment = .ok t ↔
        ∀ d, splitOutput? s.toList = some d → d.LeavesNothing) := by
  refine ⟨_, transpile_number .es100 .fragment s, ?_⟩
  have hagain : ∀ cs, transpile (.text (String.ofList cs)) (.int 100) .fragment =
      .ok (String.ofList cs) ↔ convert .es100 .fragment cs = cs := by
    intro cs
    have htranspile := transpile_number .es100 .fragment (String.ofList cs)
    rw [String.toList_ofList] at htranspile
    refine ⟨fun h => ?_, fun h => htranspile.trans (by rw [h])⟩
    exact String.ofList_injective (Except.ok.inj (htranspile.symm.trans h))
  rw [String.toList_ofList, hagain, convert_es100_fragment]
  have hversion := @afterVersion300?_namesTo100 .fragment s.toList
  have hnames := names_namesTo100 (versionTo100 s.toList)
  cases hd : splitOutput? s.toList with
  | none =>
    have hnone := undeclared_converted hd
    have hsame : outputTo100 (namesTo100 .fragment (versionTo100 s.toList)) =
        namesTo100 .fragment (versionTo100 s.toList) := by rw [outputTo100, hnone]
    rw [hsame, convert_undeclared_eq_self_iff hnone]
    exact iff_of_true ⟨hnone, hversion, hnames⟩ (by simp)
  | some d =>
    obtain ⟨d', hd', hleaves⟩ := exists_converted_output hd
    rw [outputTo100_complete_iff hd' hversion hnames, hleaves]
    simp

example : ∀ d ∈ splitOutput? ("#version 300 es\nin vec2 p;\nout vec4 color;\n" ++
    "void main() \x7b color = vec4(p, 0.0, 1.0); \x7d\n").toList, d.LeavesNothing := by
  decide +kernel

/-- A fragment stage with two outputs. -/
def twoOutputs : String :=
  "#version 300 es\nout vec4 a;\nout vec4 b;\n" ++
    "void main() \x7b\n  a = vec4(1.0);\n  b = a;\n\x7d\n"

theorem twoOutputs_second_declaration_kept :
    ∃ t, transpile (.text twoOutputs) (.int 100) .fragment = .ok t ∧
      t = "#version 100\nout vec4 b;\n" ++
        "void main() \x7b\n  gl_FragColor = vec4(1.0);\n  b = gl_FragColor;\n\x7d\n" ∧
      splitOutput? t.toList ≠ none ∧ transpile (.text t) (.int 100) .fragment ≠ .ok t := by
  have hresult : String.ofList (convert .es100 .fragment twoOutputs.toList) =
      "#version 100\nout vec4 b;\n" ++
        "void main() \x7b\n  gl_FragColor = vec4(1.0);\n  b = gl_FragColor;\n\x7d\n" := by
    decide +kernel
  refine ⟨_, transpile_number .es100 .fragment twoOutputs, hresult, ?_⟩
  rw [hresult]
  refine ⟨by decide +kernel, fun hsame => ?_⟩
  have hagain := (transpile_number .es100 .fragment _).symm.trans hsame
  exact absurd (Except.ok.inj hagain) (by decide +kernel)

end ShaderLoom.Glsl
