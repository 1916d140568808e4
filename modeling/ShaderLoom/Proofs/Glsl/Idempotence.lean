import ShaderLoom.Proofs.Glsl.RoundTrip
import ShaderLoom.Proofs.Glsl.Wording

/-!
# Converting twice

Each step of a conversion leaves alone what all of its steps have made of a word, so that a second
conversion finds no name to change (`namesTo300_namesTo300`, `namesTo100_namesTo100`). No step makes
a word of a version line either: the version line of the result is that of the dialect, or the
conversion does not recognise one. So converting a vertex stage again changes nothing
(`transpile_vertex_idempotent`).
-/

namespace ShaderLoom.Glsl

open Text

/-! ### Names are settled -/

section Names

variable {touched : List (List Char)} {f F : Renaming}

/-- What can stand behind a word, with a single space for a gap. -/
def spacedFollowers : List Follower := [.variableAfter [' '], .call, .other]

lemma spaced_mem (behind : Follower) : behind.spaced ∈ spacedFollowers := by
  cases behind <;> simp [Follower.spaced, spacedFollowers]

/-- A renaming that leaves alone what becomes of the words of a list, beyond which neither changes
anything, leaves all results alone. -/
lemma settled_of_within (hF : F.Within touched) (hf : f.Within touched)
    (htouched : ∀ behind ∈ spacedFollowers, ∀ w ∈ touched, f behind (F behind w) = F behind w)
    (behind : Follower) (w : List Char) :
    f behind.spaced (F behind.spaced w) = F behind.spaced w := by
  by_cases hw : w ∈ touched
  · exact htouched _ (spaced_mem behind) w hw
  · rw [(hF.keeps hw).apply, (hf.keeps hw).apply]

/-- Words that all have their new names keep them. -/
lemma settled_wording (hsettled : ∀ behind w, f (Follower.spaced behind) (F behind.spaced w) =
    F behind.spaced w) {cs ds : List Char} (hds : wording ds = (wording cs).map F.onWord) :
    ∀ p ∈ wording ds, f p.1 p.2 = p.2 := by
  intro p hp
  rw [hds] at hp
  obtain ⟨q, hq, rfl⟩ := List.mem_map.1 hp
  have hname := hsettled q.1 q.2
  rwa [spaced_of_mem_wording hq] at hname

end Names

section Stage

variable {stage : Stage}

lemma renamingsTo300_within : ∀ f ∈ renamingsTo300 stage, f.Within (touchedNames stage) := by
  simp only [renamingsTo300, List.forall_mem_append, List.forall_mem_cons, List.forall_mem_map]
  have hqualifiers : ∀ change ∈ qualifiersTo300 stage,
      change.1 ∈ touchedNames stage ∧ change.2 ∈ touchedNames stage := by cases stage <;> decide
  refine ⟨⟨textureRenaming_within ?_ ?_, textureRenaming_within ?_ ?_, List.forall_mem_nil _⟩,
    fun change hc => qualifierRenaming_within (hqualifiers change hc).1 (hqualifiers change hc).2⟩
  all_goals cases stage <;> decide

lemma renamingsTo100_within : ∀ f ∈ renamingsTo100 stage, f.Within (touchedNames stage) := by
  simp only [renamingsTo100, List.forall_mem_append, List.forall_mem_cons, List.forall_mem_map]
  have hqualifiers : ∀ change ∈ qualifiersTo100 stage,
      change.1 ∈ touchedNames stage ∧ change.2 ∈ touchedNames stage := by cases stage <;> decide
  refine ⟨⟨textureRenaming_within ?_ ?_, textureRenaming_within ?_ ?_, textureRenaming_within ?_ ?_,
    List.forall_mem_nil _⟩,
    fun change hc => qualifierRenaming_within (hqualifiers change hc).1 (hqualifiers change hc).2⟩
  all_goals cases stage <;> decide

lemma settled_nameTo300 : ∀ f ∈ renamingsTo300 stage, ∀ behind ∈ spacedFollowers,
    ∀ w ∈ touchedNames stage, f behind (nameTo300 stage behind w) = nameTo300 stage behind w := by
  cases stage <;> decide +kernel

lemma settled_nameTo100 : ∀ f ∈ renamingsTo100 stage, ∀ behind ∈ spacedFollowers,
    ∀ w ∈ touchedNames stage, f behind (nameTo100 stage behind w) = nameTo100 stage behind w := by
  cases stage <;> decide +kernel

/-- Code whose names have been converted to the newer dialect keeps them. -/
theorem namesTo300_namesTo300 (cs : List Char) :
    namesTo300 stage (namesTo300 stage cs) = namesTo300 stage cs :=
  namesTo300_eq_self fun f hf => settled_wording (settled_of_within (nameTo300_within stage)
    (renamingsTo300_within f hf) (settled_nameTo300 f hf)) (wording_namesTo300 stage cs)

/-- Code whose names have been converted to the older dialect keeps them. -/
theorem namesTo100_namesTo100 (cs : List Char) :
    namesTo100 stage (namesTo100 stage cs) = namesTo100 stage cs :=
  namesTo100_eq_self fun f hf => settled_wording (settled_of_within (nameTo100_within stage)
    (renamingsTo100_within f hf) (settled_nameTo100 f hf)) (wording_namesTo100 stage cs)

end Stage

/-! ### Version lines are settled -/

lemma afterFront?_hash (front cs : List Char) :
    afterFront? ('#' :: front) cs = (afterChar? '#' cs).bind (afterFront? front) := by
  cases cs with
  | nil => rfl
  | cons c cs =>
    by_cases hc : c = '#'
    · rw [hc, (afterChar?_eq_some_iff.2 rfl : afterChar? '#' ('#' :: cs) = some cs)]
      simp [afterFront?]
    · simp [afterFront?, afterChar?, hc, Ne.symm hc]

lemma afterEmptyLine?_of_isWordChar {c : Char} (hc : isWordChar c = true) (cs : List Char) :
    afterEmptyLine? (c :: cs) = none := by
  rw [afterEmptyLine?, List.dropWhile_cons_of_neg (by simp [isGap_of_isWordChar hc]),
    afterChar?_of_isWordChar hc (by decide)]

/-- Recognising a first line: behind the directive and a gap stands one of the versions, and nothing
but a gap behind it, or the line is empty. -/
lemma afterVersionLine?_eq (cs : List Char) :
    afterVersionLine? cs =
      ((afterFront? directive cs).bind fun cs => (afterGap? cs).bind fun cs =>
        (afterFront? "100".toList cs).bind afterEmptyLine?).or
      (((afterFront? directive cs).bind fun cs => (afterGap? cs).bind fun cs =>
        (afterFront? "300".toList cs).bind fun cs => (afterGap? cs).bind fun cs =>
          (afterFront? "es".toList cs).bind afterEmptyLine?).or (afterEmptyLine? cs)) := by
  simp only [afterVersionLine?, afterVersion100?, afterVersion300?, Option.bind_eq_bind,
    Option.bind_assoc]
  rfl

namespace Respelled

variable {fixed : List Char → Prop} {cs ds : List Char}

section Read

variable {β γ : Type} {S : β → γ → Prop} {f : List Char → Option β} {g : List Char → Option γ}

/-- A fixed word in front of something that cannot start with a character of a word is read in both
texts or in neither. -/
lemma afterFront?_bind (h : Respelled fixed cs ds) {keyword : List Char} (hword : IsWord keyword)
    (hkeyword : fixed keyword) (hf : ∀ c cs, isWordChar c = true → f (c :: cs) = none)
    (hg : ∀ c cs, isWordChar c = true → g (c :: cs) = none)
    (hfg : ∀ {cs ds}, Respelled fixed cs ds → Option.Rel S (f cs) (g ds)) :
    Option.Rel S ((afterFront? keyword cs).bind f) ((afterFront? keyword ds).bind g) := by
  rw [afterFront?_bind_eq_splitWord? hword hf, afterFront?_bind_eq_splitWord? hword hg]
  exact h.splitWord?_bind hkeyword hfg

/-- What stands behind the directive and a gap is read alike. -/
lemma afterDirective_bind (h : Respelled fixed cs ds) (hdirective : fixed directiveWord)
    (hfg : ∀ {cs ds}, Respelled fixed cs ds → Option.Rel S (f cs) (g ds)) :
    Option.Rel S ((afterFront? directive cs).bind fun cs => (Glsl.afterGap? cs).bind f)
      ((afterFront? directive ds).bind fun ds => (Glsl.afterGap? ds).bind g) := by
  rw [directive_eq, afterFront?_hash, afterFront?_hash, Option.bind_assoc, Option.bind_assoc]
  refine rel_bind (h.afterChar? (by decide) (by decide)) fun cs ds h => ?_
  refine h.afterFront?_bind isWord_directiveWord hdirective ?_ ?_ fun h =>
    rel_bind h.afterGap? fun _ _ h => hfg h
  · intro c cs hc
    rw [afterGap?_of_isWordChar hc]
    rfl
  · intro c cs hc
    rw [afterGap?_of_isWordChar hc]
    rfl

end Read

lemma afterEmptyLine? (h : Respelled fixed cs ds) :
    Option.Rel (Respelled fixed) (Glsl.afterEmptyLine? cs) (Glsl.afterEmptyLine? ds) :=
  h.dropWhile_isGap.afterChar? (by decide) (by decide)

/-- Where no word that starts like a text changes, both texts start with it or neither does. -/
lemma isSome_afterFront? (h : Respelled fixed cs ds) {front : List Char} (hfront : IsWord front)
    (hfixed : ∀ x, front <+: x → fixed x) :
    (afterFront? front cs).isSome = (afterFront? front ds).isSome := by
  have hgap : ∀ {g rest : List Char}, g ≠ [] → IsGapText g →
      afterFront? front (g ++ rest) = none := by
    intro g rest hne hg
    obtain ⟨c, g, rfl⟩ := List.exists_cons_of_ne_nil hne
    exact afterFront?_mark hfront (isWordChar_of_isGap (hg c List.mem_cons_self)) _
  cases h with
  | nil => rfl
  | mark hc => rw [afterFront?_mark hfront hc, afterFront?_mark hfront hc]
  | gap hne hne' hg hg' => rw [hgap hne hg, hgap hne' hg']
  | @word w v cs ds hw hv hcs hname hrest =>
    rw [afterFront?_append_of_atWordEnd hfront.all hcs,
      afterFront?_append_of_atWordEnd hfront.all (hrest.atWordEnd_iff.1 hcs), Option.isSome_map,
      Option.isSome_map, Bool.eq_iff_iff, isSome_afterFront?_iff, isSome_afterFront?_iff]
    constructor
    · intro hprefix
      rwa [(hname w (hfixed w hprefix)).1 rfl]
    · intro hprefix
      rwa [(hname v (hfixed v hprefix)).2 rfl]

/-- The version of the newer dialect is read in both texts or in neither. -/
lemma isSome_afterVersion300? (h : Respelled fixed cs ds) (hdirective : fixed directiveWord)
    (hnumber : fixed "300".toList) (hes : ∀ x, "es".toList <+: x → fixed x) :
    (afterVersion300? cs).isSome = (afterVersion300? ds).isSome := by
  have hword : ∀ c cs, isWordChar c = true →
      ((Glsl.afterGap? (c :: cs)).bind (afterFront? "es".toList)) = none := by
    intro c cs hc
    rw [afterGap?_of_isWordChar hc]
    rfl
  refine isSome_of_rel (R := fun _ _ => True) ?_
  refine h.afterDirective_bind hdirective fun h => h.afterFront?_bind (by decide) hnumber
    hword hword fun h => rel_bind h.afterGap? fun cs ds h => ?_
  have hsome := h.isSome_afterFront? (by decide) hes
  revert hsome
  cases afterFront? "es".toList cs <;> cases afterFront? "es".toList ds <;> simp

/-- A first line that is passed over stands in both texts or in neither. -/
lemma isSome_afterVersionLine? (h : Respelled fixed cs ds)
    (hfixed : ∀ w ∈ versionWords, fixed w) :
    (afterVersionLine? cs).isSome = (afterVersionLine? ds).isSome := by
  have hline : ∀ c cs, isWordChar c = true → Glsl.afterEmptyLine? (c :: cs) = none :=
    fun _ cs hc => afterEmptyLine?_of_isWordChar hc cs
  have hgap : ∀ c cs, isWordChar c = true → ((Glsl.afterGap? (c :: cs)).bind fun cs =>
      (afterFront? "es".toList cs).bind Glsl.afterEmptyLine?) = none := by
    intro c cs hc
    rw [afterGap?_of_isWordChar hc]
    rfl
  have hold := h.afterDirective_bind (hfixed directiveWord (by decide)) fun h =>
    h.afterFront?_bind (by decide) (hfixed "100".toList (by decide)) hline hline
      fun h => h.afterEmptyLine?
  have hnew := h.afterDirective_bind (hfixed directiveWord (by decide)) fun h =>
    h.afterFront?_bind (by decide) (hfixed "300".toList (by decide)) hgap hgap fun h =>
      rel_bind h.afterGap? fun _ _ h =>
        h.afterFront?_bind (by decide) (hfixed "es".toList (by decide)) hline hline
          fun h => h.afterEmptyLine?
  rw [afterVersionLine?_eq, afterVersionLine?_eq]
  simp only [Option.isSome_or]
  rw [isSome_of_rel hold, isSome_of_rel hnew, isSome_of_rel h.afterEmptyLine?]

end Respelled

section Version

variable {stage : Stage}

lemma fixed_of_versionWord : ∀ w ∈ versionWords, w ∉ touchedNames stage := by
  cases stage <;> decide

lemma untouched_of_es {w : List Char} (h : "es".toList <+: w) : w ∉ touchedNames stage := by
  have hnone : ∀ v ∈ touchedNames stage, ¬ "es".toList <+: v := by cases stage <;> decide
  exact fun hmem => hnone w hmem h

/-- The version of the newer dialect is gone once it has been converted. -/
lemma afterVersion300?_versionTo100 (cs : List Char) : afterVersion300? (versionTo100 cs) = none := by
  cases h : afterVersion300? cs with
  | none => rw [versionTo100, h, h]
  | some rest =>
    rw [versionTo100, h]
    rfl

/-- Conversion of names makes no version of the newer dialect. -/
lemma afterVersion300?_namesTo100 (cs : List Char) :
    afterVersion300? (namesTo100 stage (versionTo100 cs)) = none := by
  have hsome := (respelled_namesTo100 stage (versionTo100 cs)).isSome_afterVersion300?
    (fixed_of_versionWord _ (by decide)) (fixed_of_versionWord _ (by decide))
    fun _ h => untouched_of_es h
  exact (Option.isSome_eq_isSome.1 hsome).1 (afterVersion300?_versionTo100 cs)

lemma versionTo100_namesTo100 (cs : List Char) :
    versionTo100 (namesTo100 stage (versionTo100 cs)) = namesTo100 stage (versionTo100 cs) :=
  versionTo100_eq_self (afterVersion300?_namesTo100 cs)

/-- The rule for a qualifier passes over the version line. -/
lemma substitute_versionLine300 {old new : List Char} (hold : IsWord old)
    (hother : old ∉ versionWords) (below : List Char) :
    ∃ below', substitute (qualifierRule old new) (versionLine300 ++ below) =
      versionLine300 ++ below' := by
  have hrule : (qualifierRule old new).AtWords := qualifierRule_atWords hold
  have hword : ∀ w ∈ versionWords, ∀ previous c rest, startsWord previous = true →
      isWordChar c = false → substituteFrom (qualifierRule old new) 0 previous (w ++ c :: rest) =
        w ++ c :: substituteFrom (qualifierRule old new) 0 (some c) rest := by
    intro w hw previous c rest hstart hc
    have hversion : IsWord w := (by decide : ∀ w ∈ versionWords, IsWord w) w hw
    have hnone : qualifierRule old new previous (w ++ c :: rest) = none := by
      rw [qualifierRule_word hold hstart hversion (atWordEnd_cons.2 hc), if_neg]
      rintro rfl
      exact hother hw
    rw [substituteFrom_word hrule hversion hnone, substituteFrom, hrule.mark _ c rest hc]
  refine ⟨substituteFrom (qualifierRule old new) 0 (some '\n') below, ?_⟩
  show substituteFrom _ 0 none ('#' :: ("version".toList ++ ' ' :: ("300".toList ++ ' ' ::
    ("es".toList ++ '\n' :: below)))) = _
  rw [substituteFrom, hrule.mark _ _ _ (by decide)]
  simp only
  rw [hword _ (by decide) _ _ _ (by decide) (by decide),
    hword _ (by decide) _ _ _ (by decide) (by decide),
    hword _ (by decide) _ _ _ (by decide) (by decide)]
  rfl

lemma changeQualifiers_versionLine300 {changes : List (List Char × List Char)}
    (hwords : ∀ change ∈ changes, IsWord change.1 ∧ change.1 ∉ versionWords)
    (below : List Char) :
    ∃ below', changeQualifiers changes (versionLine300 ++ below) = versionLine300 ++ below' := by
  induction changes generalizing below with
  | nil => exact ⟨below, rfl⟩
  | cons change changes ih =>
    have hchange := hwords change List.mem_cons_self
    obtain ⟨below', hbelow⟩ := @substitute_versionLine300 change.1 change.2 hchange.1 hchange.2 below
    have hrest := ih (fun c hc => hwords c (List.mem_cons_of_mem _ hc)) below'
    rw [← hbelow] at hrest
    exact hrest

/-- Conversion of names keeps the version line of the newer dialect. -/
lemma namesTo300_versionLine300 (below : List Char) :
    ∃ below', namesTo300 stage (versionLine300 ++ below) = versionLine300 ++ below' := by
  rw [namesTo300, substitute_texturesTo300, renameWords_versionLine300 fun w hw =>
    (textureTo300_within stage).keeps (fixed_of_versionWord w hw)]
  exact changeQualifiers_versionLine300 (by cases stage <;> decide) _

/-- The version line of the newer dialect stays, or none is made. -/
lemma versionTo300_namesTo300 (cs : List Char) :
    versionTo300 (namesTo300 stage (versionTo300 cs)) = namesTo300 stage (versionTo300 cs) := by
  cases h : afterVersionLine? cs with
  | none =>
    have hnone := (Option.isSome_eq_isSome.1
      ((respelled_namesTo300 stage cs).isSome_afterVersionLine? fixed_of_versionWord)).1 h
    have hsame : versionTo300 cs = cs := by rw [versionTo300, h]
    rw [hsame, versionTo300, hnone]
  | some below =>
    have hline : versionTo300 cs = versionLine300 ++ below := by
      rw [versionTo300, h]
      rfl
    obtain ⟨below', hbelow⟩ := @namesTo300_versionLine300 stage below
    rw [hline, hbelow]
    rfl

end Version

/-! ### Vertex stages -/

/-- Converting a vertex stage twice is converting it once. -/
lemma convert_vertex_convert_vertex (d : Dialect) (cs : List Char) :
    convert d .vertex (convert d .vertex cs) = convert d .vertex cs := by
  cases d with
  | es100 =>
    rw [convert_es100_vertex, convert_es100_vertex, versionTo100_namesTo100, namesTo100_namesTo100]
  | es300 =>
    rw [convert_es300_vertex, convert_es300_vertex, versionTo300_namesTo300, namesTo300_namesTo300]

/-- A converted vertex stage, whatever the source was, is what its conversion to the same version
gives. -/
theorem transpile_vertex_idempotent (d : Dialect) (s : String) :
    ∃ t, transpile (.text s) (.int d.number) .vertex = .ok t ∧
      transpile (.text t) (.int d.number) .vertex = .ok t := by
  refine ⟨_, transpile_number d .vertex s, ?_⟩
  rw [transpile_number, String.toList_ofList, convert_vertex_convert_vertex]

end ShaderLoom.Glsl
