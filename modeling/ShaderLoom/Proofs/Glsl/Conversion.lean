import ShaderLoom.Proofs.Glsl.Renaming

/-!
# Conversion as renaming

Apart from the version line and from the output of the fragment stage, a conversion renames words:
texture functions where they are called, and qualifiers where a variable follows
(`namesTo300_eq`, `namesTo100_eq`). Each change of a qualifier makes its gap a single space, so that
this is shown for code in which it is one already.
-/

namespace ShaderLoom.Glsl

open Text

/-! ### New names -/

section Texture

variable {kinds endings : List (List Char)} {new : List Char → List Char}

lemma textureName?_eq_some {w name : List Char}
    (h : textureName? kinds endings new w = some name) :
    ∃ kind ∈ kinds, ∃ ending ∈ endings, w = "texture".toList ++ kind ++ ending ∧
      name = new kind := by
  obtain ⟨u, hu, h⟩ := Option.bind_eq_some_iff.1 h
  obtain ⟨kind, hkind, h⟩ := List.exists_of_findSome?_eq_some h
  obtain ⟨v, hv, h⟩ := Option.bind_eq_some_iff.1 h
  obtain ⟨ending, hending, h⟩ := List.exists_of_findSome?_eq_some h
  split at h
  · next hrest =>
    refine ⟨kind, hkind, ending, hending, ?_, (Option.some.inj h).symm⟩
    rw [eq_append_of_afterFront? hu, eq_append_of_afterFront? hv, hrest, List.append_assoc]
  · cases h

lemma textureRenaming_keepsWords (hnew : ∀ kind ∈ kinds, IsWord (new kind)) :
    (textureRenaming kinds endings new).KeepsWords := by
  intro behind w hw
  cases behind with
  | call =>
    cases hname : textureName? kinds endings new w with
    | none => simpa [textureRenaming, hname] using hw
    | some name =>
      obtain ⟨kind, hkind, -, -, -, rfl⟩ := textureName?_eq_some hname
      simpa [textureRenaming, hname] using hnew kind hkind
  | variableAfter gap => exact hw
  | other => exact hw

end Texture

lemma ite_isWord {w old new : List Char} (hnew : IsWord new) (hw : IsWord w) :
    IsWord (if w = old then new else w) := by
  split
  · exact hnew
  · exact hw

lemma qualifierRenaming_keepsWords (old : List Char) {new : List Char} (hnew : IsWord new) :
    (qualifierRenaming old new).KeepsWords := by
  intro behind w hw
  cases behind with
  | variableAfter gap => exact ite_isWord hnew hw
  | call => exact hw
  | other => exact hw

lemma wordRenaming_keepsWords {old new : List Char} (hnew : IsWord new) :
    (wordRenaming old new).KeepsWords :=
  fun _ _ hw => ite_isWord hnew hw

/-! ### Qualifiers -/

/-- Rename qualifiers one after the other. -/
def changesRenaming : List (List Char × List Char) → Renaming
  | [] => fun _ w => w
  | change :: changes =>
    (qualifierRenaming change.1 change.2).followedBy (changesRenaming changes)

lemma changesRenaming_keepsWords {changes : List (List Char × List Char)}
    (h : ∀ change ∈ changes, IsWord change.2) : (changesRenaming changes).KeepsWords := by
  induction changes with
  | nil => exact fun _ _ hw => hw
  | cons change changes ih =>
    exact (qualifierRenaming_keepsWords _ (h change (by simp))).followedBy
      (ih fun c hc => h c (by simp [hc]))

/-- A renaming that makes no qualifiers leaves the gaps behind them as they are. -/
lemma spaced_renameWords {names : List (List Char)} {cs : List Char} {f : Renaming}
    (h : Spaced names cs) (hf : f.KeepsWords)
    (hnames : ∀ gap w, f (.variableAfter gap) w ∈ names → w ∈ names) :
    Spaced names (renameWords f cs) := by
  intro w hw gap hmem
  obtain ⟨v, hv, rfl⟩ := (mem_pieces_renameWords hf).1 hmem
  exact h v (hnames gap v hw) gap hv

/-- Changing qualifiers renames them, if they have single spaces behind them. -/
lemma changeQualifiers_eq {names : List (List Char)} {changes : List (List Char × List Char)}
    (hwords : ∀ change ∈ changes, IsWord change.1 ∧ IsWord change.2)
    (hnames : ∀ change ∈ changes, change.1 ∈ names) {cs : List Char} (hcs : Spaced names cs) :
    changeQualifiers changes cs = renameWords (changesRenaming changes) cs := by
  induction changes generalizing cs with
  | nil => exact (renameWords_eq_self fun _ _ _ => rfl).symm
  | cons change changes ih =>
    have hkeeps := qualifierRenaming_keepsWords change.1 (hwords change (by simp)).2
    have hstep : Spaced names (renameWords (qualifierRenaming change.1 change.2) cs) := by
      refine spaced_renameWords hcs hkeeps fun gap w hw => ?_
      by_cases hold : w = change.1
      · exact hold ▸ hnames change (by simp)
      · simpa [qualifierRenaming, hold] using hw
    show changeQualifiers changes (substitute (qualifierRule change.1 change.2) cs) = _
    rw [substitute_qualifierRule (hwords change (by simp)).1 (hnames change (by simp)) hcs,
      ih (fun c hc => hwords c (by simp [hc])) (fun c hc => hnames c (by simp [hc])) hstep]
    exact renameWords_renameWords hkeeps _ cs

/-- The qualifiers of a stage, in both dialects. -/
def qualifierNames (stage : Stage) : List (List Char) :=
  (qualifiersTo300 stage).flatMap fun change => [change.1, change.2]

/-! ### All names -/

/-- Convert the names of texture functions and the qualifiers to the newer dialect. -/
def namesTo300 (stage : Stage) (cs : List Char) : List Char :=
  changeQualifiers (qualifiersTo300 stage) (substitute sampleTo300 (substitute lodTo300 cs))

/-- Convert the names of texture functions and the qualifiers to the older dialect. -/
def namesTo100 (stage : Stage) (cs : List Char) : List Char :=
  changeQualifiers (qualifiersTo100 stage)
    (substitute lodTo100 (substitute sampleTo100 (substitute kindLodTo100 cs)))

lemma convert_es300_vertex (cs : List Char) :
    convert .es300 .vertex cs = namesTo300 .vertex (versionTo300 cs) := rfl

lemma convert_es300_fragment (cs : List Char) :
    convert .es300 .fragment cs = outputTo300 (namesTo300 .fragment (versionTo300 cs)) := rfl

lemma convert_es100_vertex (cs : List Char) :
    convert .es100 .vertex cs = namesTo100 .vertex (versionTo100 cs) := rfl

lemma convert_es100_fragment (cs : List Char) :
    convert .es100 .fragment cs = outputTo100 (namesTo100 .fragment (versionTo100 cs)) := rfl

/-- The names of texture functions in the newer dialect. -/
def textureTo300 : Renaming :=
  (textureRenaming samplerKinds ["LodEXT".toList, "Lod".toList] fun _ => "textureLod".toList)
    |>.followedBy (textureRenaming samplerKinds ["EXT".toList, []] fun _ => "texture".toList)

/-- The names of texture functions in the older dialect. -/
def textureTo100 : Renaming :=
  (textureRenaming samplerKinds ["Lod".toList] fun kind =>
      "texture".toList ++ kind ++ "LodEXT".toList)
    |>.followedBy (textureRenaming [[]] [[]] fun _ => "texture2D".toList)
    |>.followedBy (textureRenaming [[]] ["Lod".toList] fun _ => "texture2DLodEXT".toList)

/-- The names of a stage in the newer dialect. -/
def nameTo300 (stage : Stage) : Renaming :=
  textureTo300.followedBy (changesRenaming (qualifiersTo300 stage))

/-- The names of a stage in the older dialect. -/
def nameTo100 (stage : Stage) : Renaming :=
  textureTo100.followedBy (changesRenaming (qualifiersTo100 stage))

lemma isWord_qualifiersTo300 {stage : Stage} :
    ∀ change ∈ qualifiersTo300 stage, IsWord change.1 ∧ IsWord change.2 := by
  cases stage <;> decide

lemma isWord_qualifiersTo100 {stage : Stage} :
    ∀ change ∈ qualifiersTo100 stage, IsWord change.1 ∧ IsWord change.2 := by
  cases stage <;> decide

lemma textureTo300_keepsWords : textureTo300.KeepsWords :=
  (textureRenaming_keepsWords (by decide)).followedBy (textureRenaming_keepsWords (by decide))

lemma textureTo100_keepsWords : textureTo100.KeepsWords :=
  ((textureRenaming_keepsWords (by decide)).followedBy
    (textureRenaming_keepsWords (by decide))).followedBy (textureRenaming_keepsWords (by decide))

lemma nameTo300_keepsWords (stage : Stage) : (nameTo300 stage).KeepsWords :=
  textureTo300_keepsWords.followedBy
    (changesRenaming_keepsWords fun change hc => (isWord_qualifiersTo300 change hc).2)

lemma nameTo100_keepsWords (stage : Stage) : (nameTo100 stage).KeepsWords :=
  textureTo100_keepsWords.followedBy
    (changesRenaming_keepsWords fun change hc => (isWord_qualifiersTo100 change hc).2)

/-! ### Words that stay -/

/-- Only words of the list change, and only into words of the list. -/
def Renaming.Within (f : Renaming) (touched : List (List Char)) : Prop :=
  ∀ behind w, f behind w = w ∨ w ∈ touched ∧ f behind w ∈ touched

section Within

variable {touched : List (List Char)}

lemma Renaming.Within.keeps {f : Renaming} (hf : f.Within touched) {v : List Char}
    (hv : v ∉ touched) : f.Keeps v := by
  intro behind w
  rcases hf behind w with hsame | ⟨hold, hnew⟩
  · rw [hsame]
  · refine iff_of_false ?_ ?_
    · rintro rfl
      exact hv hnew
    · rintro rfl
      exact hv hold

lemma Renaming.Within.followedBy {f g : Renaming} (hf : f.Within touched)
    (hg : g.Within touched) : (f.followedBy g).Within touched := by
  intro behind w
  rcases hf behind w with hsame | ⟨hold, hnew⟩
  · simpa only [Renaming.followedBy, hsame] using hg behind w
  · rcases hg behind (f behind w) with hsame | ⟨-, hnewer⟩
    · exact .inr ⟨hold, by rwa [Renaming.followedBy, hsame]⟩
    · exact .inr ⟨hold, hnewer⟩

lemma textureRenaming_within {kinds endings : List (List Char)} {new : List Char → List Char}
    (hold : ∀ kind ∈ kinds, ∀ ending ∈ endings, "texture".toList ++ kind ++ ending ∈ touched)
    (hnew : ∀ kind ∈ kinds, new kind ∈ touched) :
    (textureRenaming kinds endings new).Within touched := by
  intro behind w
  cases behind with
  | call =>
    cases hname : textureName? kinds endings new w with
    | none => exact .inl (by simp [textureRenaming, hname])
    | some name =>
      obtain ⟨kind, hkind, ending, hending, rfl, rfl⟩ := textureName?_eq_some hname
      refine .inr ⟨hold kind hkind ending hending, ?_⟩
      rw [textureRenaming, hname]
      exact hnew kind hkind
  | variableAfter gap => exact .inl rfl
  | other => exact .inl rfl

lemma qualifierRenaming_within {old new : List Char} (hold : old ∈ touched)
    (hnew : new ∈ touched) : (qualifierRenaming old new).Within touched := by
  intro behind w
  cases behind with
  | variableAfter gap =>
    by_cases hw : w = old
    · exact .inr (by simpa [qualifierRenaming, hw] using ⟨hold, hnew⟩)
    · exact .inl (by simp [qualifierRenaming, hw])
  | call => exact .inl rfl
  | other => exact .inl rfl

lemma changesRenaming_within {changes : List (List Char × List Char)}
    (h : ∀ change ∈ changes, change.1 ∈ touched ∧ change.2 ∈ touched) :
    (changesRenaming changes).Within touched := by
  induction changes with
  | nil => exact fun _ _ => .inl rfl
  | cons change changes ih =>
    have hchange := h change List.mem_cons_self
    exact (qualifierRenaming_within hchange.1 hchange.2).followedBy
      (ih fun c hc => h c (List.mem_cons_of_mem _ hc))

end Within

/-- The names of texture functions in both dialects. -/
def textureNames : List (List Char) :=
  ["texture".toList, "textureLod".toList] ++ samplerKinds.flatMap fun kind =>
    [[], "Lod".toList, "EXT".toList, "LodEXT".toList].map ("texture".toList ++ kind ++ ·)

/-- The words that change between the dialects. -/
def touchedNames (stage : Stage) : List (List Char) := textureNames ++ qualifierNames stage

/-- The first word of the header of a main function does not change, and neither does a longer word
that ends with it. -/
lemma untouched_of_void (stage : Stage) {w : List Char} (h : "void".toList <:+ w) :
    w ∉ touchedNames stage := by
  have hnone : ∀ v ∈ touchedNames stage, ¬ "void".toList <:+ v := by cases stage <;> decide
  exact fun hmem => hnone w hmem h

lemma textureTo300_within (stage : Stage) : textureTo300.Within (touchedNames stage) :=
  (textureRenaming_within (by cases stage <;> decide) (by cases stage <;> decide)).followedBy
    (textureRenaming_within (by cases stage <;> decide) (by cases stage <;> decide))

lemma nameTo300_within (stage : Stage) : (nameTo300 stage).Within (touchedNames stage) :=
  (textureTo300_within stage).followedBy (changesRenaming_within (by cases stage <;> decide))

lemma textureTo100_within (stage : Stage) : textureTo100.Within (touchedNames stage) :=
  ((textureRenaming_within (by cases stage <;> decide) (by cases stage <;> decide)).followedBy
    (textureRenaming_within (by cases stage <;> decide) (by cases stage <;> decide))).followedBy
    (textureRenaming_within (by cases stage <;> decide) (by cases stage <;> decide))

lemma nameTo100_within (stage : Stage) : (nameTo100 stage).Within (touchedNames stage) :=
  (textureTo100_within stage).followedBy (changesRenaming_within (by cases stage <;> decide))

/-! ### Conversion of names -/

/-- Converting texture functions to the newer dialect renames words, in all code. -/
lemma substitute_texturesTo300 (cs : List Char) :
    substitute sampleTo300 (substitute lodTo300 cs) = renameWords textureTo300 cs := by
  rw [lodTo300, substitute_textureRule (by decide) (by decide), sampleTo300,
    substitute_textureRule (by decide) (by decide),
    renameWords_renameWords (textureRenaming_keepsWords (by decide))]
  rfl

/-- Converting names to the newer dialect renames words. -/
theorem namesTo300_eq {stage : Stage} {cs : List Char} (h : Spaced (qualifierNames stage) cs) :
    namesTo300 stage cs = renameWords (nameTo300 stage) cs := by
  have hspaced : Spaced (qualifierNames stage) (renameWords textureTo300 cs) :=
    spaced_renameWords h textureTo300_keepsWords fun _ _ hw => hw
  rw [namesTo300, substitute_texturesTo300, changeQualifiers_eq isWord_qualifiersTo300
    (by cases stage <;> decide) hspaced]
  exact renameWords_renameWords textureTo300_keepsWords _ cs

/-- Converting texture functions to the older dialect renames words, in all code. -/
lemma substitute_texturesTo100 (cs : List Char) :
    substitute lodTo100 (substitute sampleTo100 (substitute kindLodTo100 cs)) =
      renameWords textureTo100 cs := by
  rw [kindLodTo100, substitute_textureRule (by decide) (by decide), sampleTo100,
    substitute_textureRule (by decide) (by decide), lodTo100,
    substitute_textureRule (by decide) (by decide),
    renameWords_renameWords (textureRenaming_keepsWords (by decide)),
    renameWords_renameWords (textureRenaming_keepsWords (by decide))]
  rfl

/-- Converting names to the older dialect renames words. -/
theorem namesTo100_eq {stage : Stage} {cs : List Char} (h : Spaced (qualifierNames stage) cs) :
    namesTo100 stage cs = renameWords (nameTo100 stage) cs := by
  have hspaced : Spaced (qualifierNames stage) (renameWords textureTo100 cs) :=
    spaced_renameWords h textureTo100_keepsWords fun _ _ hw => hw
  rw [namesTo100, substitute_texturesTo100, changeQualifiers_eq isWord_qualifiersTo100
    (by cases stage <;> decide) hspaced]
  exact renameWords_renameWords textureTo100_keepsWords _ cs

/-! ### Version lines -/

/-- The version line of the older dialect. -/
def versionLine100 : List Char := "#version 100\n".toList

/-- The version line of the newer dialect. -/
def versionLine300 : List Char := "#version 300 es\n".toList

lemma versionTo300_versionLine100 (rest : List Char) :
    versionTo300 (versionLine100 ++ rest) = versionLine300 ++ rest := rfl

lemma versionTo100_versionLine300 (rest : List Char) :
    versionTo100 (versionLine300 ++ rest) = versionLine100 ++ rest := rfl

lemma pieces_versionLine100 (rest : List Char) :
    pieces (versionLine100 ++ rest) =
      [.mark '#', .word "version".toList .other, .mark ' ', .word "100".toList .other,
        .mark '\n'] ++ pieces rest := rfl

lemma pieces_versionLine300 (rest : List Char) :
    pieces (versionLine300 ++ rest) =
      [.mark '#', .word "version".toList .other, .mark ' ', .word "300".toList .other,
        .mark ' ', .word "es".toList .other, .mark '\n'] ++ pieces rest := rfl

/-- The words of version lines. -/
def versionWords : List (List Char) := ["version".toList, "100".toList, "300".toList, "es".toList]

section Version

variable {f : Renaming}

lemma renameWords_versionLine100 (hf : ∀ w ∈ versionWords, f.Keeps w) (rest : List Char) :
    renameWords f (versionLine100 ++ rest) = versionLine100 ++ renameWords f rest := by
  have hversion := (hf "version".toList (by decide)).apply .other
  have hnumber := (hf "100".toList (by decide)).apply .other
  rw [renameWords, pieces_versionLine100, List.flatMap_append, ← renameWords]
  simp only [List.flatMap_cons, List.flatMap_nil, Piece.rename, Piece.text, hversion, hnumber]
  rfl

lemma renameWords_versionLine300 (hf : ∀ w ∈ versionWords, f.Keeps w) (rest : List Char) :
    renameWords f (versionLine300 ++ rest) = versionLine300 ++ renameWords f rest := by
  have hversion := (hf "version".toList (by decide)).apply .other
  have hnumber := (hf "300".toList (by decide)).apply .other
  have hes := (hf "es".toList (by decide)).apply .other
  rw [renameWords, pieces_versionLine300, List.flatMap_append, ← renameWords]
  simp only [List.flatMap_cons, List.flatMap_nil, Piece.rename, Piece.text, hversion, hnumber, hes]
  rfl

end Version

end ShaderLoom.Glsl
