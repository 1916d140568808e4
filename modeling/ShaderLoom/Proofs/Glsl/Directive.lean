import ShaderLoom.Proofs.Glsl.Output
import ShaderLoom.Proofs.Glsl.VersionLine

/-!
# The version directive through a conversion

Code below a version line has one directive after a conversion (`versioned_convert`). The names that
a conversion writes are its own and spare directives, apart from the name of a declared output: it
can be the word of the directive, or start like it, and where its declaration is deleted a hash can
come to stand in front of the word (`SparesOutput`).
-/

namespace ShaderLoom.Glsl

open Text

/-! ### Names -/

section Names

variable {cs : List Char}

lemma Versioned.changeQualifiers {changes : List (List Char × List Char)} (h : Versioned cs)
    (hchanges : ∀ change ∈ changes, IsWord change.1 ∧ IsWord change.2)
    (hspares : ∀ change ∈ changes, ¬ directiveWord <+: change.2 ∧ directiveWord ≠ change.1) :
    Versioned (changeQualifiers changes cs) := by
  induction changes generalizing cs with
  | nil => exact h
  | cons change changes ih =>
    obtain ⟨hold, hnew⟩ := hchanges change List.mem_cons_self
    obtain ⟨hdirective, hother⟩ := hspares change List.mem_cons_self
    refine ih (h.substitute (sparesDirective_qualifierRule hold hnew hdirective hother)) ?_ ?_
    · exact fun c hc => hchanges c (List.mem_cons_of_mem _ hc)
    · exact fun c hc => hspares c (List.mem_cons_of_mem _ hc)

lemma Versioned.namesTo300 (stage : Stage) (h : Versioned cs) :
    Versioned (namesTo300 stage cs) := by
  have hlod : lodTo300.SparesDirective :=
    sparesDirective_textureRule (by decide) (by decide) (by decide)
  have hsample : sampleTo300.SparesDirective :=
    sparesDirective_textureRule (by decide) (by decide) (by decide)
  exact ((h.substitute hlod).substitute hsample).changeQualifiers isWord_qualifiersTo300
    (by cases stage <;> decide)

lemma Versioned.namesTo100 (stage : Stage) (h : Versioned cs) :
    Versioned (namesTo100 stage cs) := by
  have hkindLod : kindLodTo100.SparesDirective :=
    sparesDirective_textureRule (by decide) (by decide) (by decide)
  have hsample : sampleTo100.SparesDirective :=
    sparesDirective_textureRule (by decide) (by decide) (by decide)
  have hlod : lodTo100.SparesDirective :=
    sparesDirective_textureRule (by decide) (by decide) (by decide)
  exact (((h.substitute hkindLod).substitute hsample).substitute hlod).changeQualifiers
    isWord_qualifiersTo100 (by cases stage <;> decide)

/-- The version and the names of code in a dialect, apart from the output of the fragment stage. -/
def namesTo : Dialect → Stage → List Char → List Char
  | .es300, stage, cs => namesTo300 stage (versionTo300 cs)
  | .es100, stage, cs => namesTo100 stage (versionTo100 cs)

/-- Converting the names of code below a version line gives code with one directive. -/
theorem versioned_namesTo {line below : List Char} (hline : IsVersionLine line)
    (hbelow : ¬ directive <:+: below) (d : Dialect) (stage : Stage) :
    Versioned (namesTo d stage (line ++ '\n' :: below)) := by
  cases d with
  | es300 => exact (versioned_versionTo300 hline hbelow).namesTo300 stage
  | es100 => exact (versioned_versionTo100 hline hbelow).namesTo100 stage

end Names

/-! ### The output of the fragment stage -/

/-- Converting the output makes no directive and loses none. The name of a declared output takes the
place of the built-in one, or the other way round, and in the older dialect the declaration is
deleted. -/
def SparesOutput (d : Dialect) (cs : List Char) : Prop :=
  ∀ s, splitOutput? cs = some s →
    match d with
    | .es300 => directiveWord <+: s.name → ¬ '#' :: builtinOutput <:+: cs
    | .es100 => s.name ≠ directiveWord ∧ ¬ (['#'] <:+ s.before ∧ directiveWord <+: s.rest)

instance (d : Dialect) (cs : List Char) : Decidable (SparesOutput d cs) :=
  match d with
  | .es300 => inferInstanceAs (Decidable (∀ s ∈ splitOutput? cs,
      directiveWord <+: s.name → ¬ '#' :: builtinOutput <:+: cs))
  | .es100 => inferInstanceAs (Decidable (∀ s ∈ splitOutput? cs,
      s.name ≠ directiveWord ∧ ¬ (['#'] <:+ s.before ∧ directiveWord <+: s.rest)))

section Output

variable {cs : List Char}

/-- A directive that lies across a place where a word starts is cut behind its hash. -/
lemma directive_across {x y : List Char} (h : directive = x ++ y) (hne : x ≠ [])
    (hstart : AtWordStart x) : x = ['#'] ∧ y = directiveWord := by
  obtain ⟨c, x, rfl⟩ := List.exists_cons_of_ne_nil hne
  obtain ⟨rfl, hword⟩ := List.cons.inj h
  by_cases hx : x = []
  · subst hx
    exact ⟨rfl, hword.symm⟩
  · -- the place would be inside of the word
    have hin : IsWord x := ⟨hx, fun d hd => isWord_directiveWord.all d (by
      rw [show directiveWord = x ++ y from hword]
      exact List.mem_append_left y hd)⟩
    have hend : AtWordStart (x ++ []) := by
      rw [List.append_nil]
      exact hstart.of_suffix (List.suffix_cons '#' x)
    exact absurd rfl (hend.ne_nil hin)

lemma lastOf_none (cs : List Char) : lastOf none cs = cs.getLast? := by
  rcases List.eq_nil_or_concat' cs with rfl | ⟨front, c, rfl⟩
  · rfl
  · rw [lastOf_append, List.getLast?_concat]
    rfl

/-- The built-in output gets a name. -/
lemma Versioned.renameBuiltin {name : List Char} (h : Versioned cs) (hname : IsWord name)
    (hspares : directiveWord <+: name → ¬ '#' :: builtinOutput <:+: cs) :
    Versioned (renameWord builtinOutput name cs) where
  leads := by
    refine leads_substitute (renameRule_atWords (by decide)) (fun rest hrest => ?_) h.leads
    rw [renameRule_word (by decide) (by decide) isWord_directiveWord hrest, if_neg (by decide)]
  once := by
    have hreworded : Reworded false cs (renameWord builtinOutput name cs) := by
      refine reworded_substitute (renameRule_atWords (by decide)) ?_
      intro front w rest hcs hw hrest hstart
      refine rewordsAt_renameRule (by decide) hname hstart hw hrest fun hhash hword hprefix => ?_
      -- a built-in output behind a hash would be in the code
      rw [lastOf_none] at hhash
      obtain ⟨before, rfl⟩ : ∃ before, front = before ++ ['#'] := List.getLast?_eq_some_iff.1 hhash
      refine absurd ⟨before, rest, ?_⟩ (hspares hprefix)
      rw [hcs, hword]
      simp
    exact hreworded.occurrences_le.trans h.once

lemma lead_append (c : Char) (rest : List Char) :
    directive ++ c :: rest = directive ++ [c] ++ rest := by
  rw [List.append_assoc]
  rfl

/-- The header of the main function stands below the directive. -/
lemma splitMain?_lead {c : Char} (hc : isWordChar c = false) (rest : List Char) :
    splitMain? (directive ++ c :: rest) =
      (splitMain? rest).map (MainSplit.prepend (directive ++ [c])) := by
  rw [lead_append]
  exact (ofVersionWords_lead hc).splitMain? rest

/-- The first declaration of an output stands below the directive. -/
lemma splitOutput?_lead {c : Char} (hc : isWordChar c = false) (rest : List Char) :
    splitOutput? (directive ++ c :: rest) =
      (splitOutput? rest).map (OutputSplit.prepend (directive ++ [c])) := by
  rw [lead_append]
  exact (ofVersionWords_lead hc).splitOutput? rest

/-- The line that declares the default output has no directive, and makes none with what stands
around it. -/
lemma occurrences_outputLine_append (before behind : List Char) :
    occurrences directive (before ++ (outputLine ++ behind)) =
      occurrences directive before + occurrences directive behind := by
  have hfree : occurrences directive (outputLine ++ behind) = occurrences directive behind :=
    occurrences_directive_append (by decide) behind
  rw [occurrences_append, hfree]
  intro x y hxy hx hy _ hprefix
  -- nothing that a directive ends with is at the front of the line
  have hnone : ∀ y ∈ directiveWord.tails, y ≠ [] → ¬ y <+: outputLine := by decide
  obtain ⟨c, x, rfl⟩ := List.exists_cons_of_ne_nil hx
  have hsuffix : y <:+ directiveWord := ⟨x, (List.cons.inj hxy).2.symm⟩
  have hlength : y.length ≤ outputLine.length := hsuffix.length_le.trans (by decide)
  exact hnone y ((List.mem_tails _ _).2 hsuffix) hy
    (List.prefix_of_prefix_length_le hprefix (List.prefix_append _ _) hlength)

/-- The default output is declared below the directive. -/
lemma Versioned.declareOutput (h : Versioned cs) : Versioned (declareOutput cs) := by
  obtain ⟨c, rest, rfl, hc⟩ := h.leads
  have hcut := splitMain?_lead hc rest
  cases hm : splitMain? rest with
  | none =>
    rw [hm, Option.map_none] at hcut
    rw [Glsl.declareOutput, hcut]
    exact h
  | some m =>
    rw [hm, Option.map_some] at hcut
    have hwhole := splitMain?_eq_some hcut
    rw [declareOutput_of_splitMain? hcut]
    refine ⟨⟨c, m.before ++ (outputLine ++ (m.header ++ m.body)), ?_, hc⟩, ?_⟩
    · simp [MainSplit.prepend]
    · have hle := occurrences_add_le directive (MainSplit.prepend (directive ++ [c]) m).before
        (m.header ++ m.body)
      have honce := h.once
      rw [hwhole, List.append_assoc] at honce
      rw [occurrences_outputLine_append]
      exact hle.trans honce

/-- The output of the newer dialect. -/
lemma Versioned.outputTo300 (h : Versioned cs) (hspares : SparesOutput .es300 cs) :
    Versioned (outputTo300 cs) := by
  cases hs : splitOutput? cs with
  | some s =>
    obtain ⟨-, -, hname, -⟩ := splitOutput?_eq_some hs
    rw [Glsl.outputTo300, hs]
    exact h.renameBuiltin hname (hspares s hs)
  | none =>
    have hdeclared :
        Versioned (if hasWord builtinOutput cs then Glsl.declareOutput cs else cs) := by
      split
      · exact h.declareOutput
      · exact h
    rw [Glsl.outputTo300, hs]
    exact hdeclared.renameBuiltin (by decide) fun hprefix => absurd hprefix (by decide)

/-- The output of the older dialect. -/
lemma Versioned.outputTo100 (h : Versioned cs) (hspares : SparesOutput .es100 cs) :
    Versioned (outputTo100 cs) := by
  cases hs : splitOutput? cs with
  | none =>
    rw [Glsl.outputTo100, hs]
    exact h
  | some s =>
    obtain ⟨hother, hjoint⟩ := hspares s hs
    obtain ⟨declaration, hcs, hname, hstart⟩ := splitOutput?_eq_some hs
    have hstart' : AtWordStart s.before := by
      rw [AtWordStart, ← lastOf_none]
      simpa [startsWord] using hstart
    have hremoved : Versioned (s.before ++ s.rest) := by
      obtain ⟨c, rest, rfl, hc⟩ := h.leads
      constructor
      · rw [splitOutput?_lead hc] at hs
        obtain ⟨t, -, rfl⟩ := Option.map_eq_some_iff.1 hs
        exact ⟨c, t.before ++ t.rest, by simp [OutputSplit.prepend], hc⟩
      · have hadd : occurrences directive (s.before ++ s.rest) =
            occurrences directive s.before + occurrences directive s.rest := by
          refine occurrences_append fun x y hxy hx _ hbefore hrest => ?_
          obtain ⟨rfl, rfl⟩ := directive_across hxy hx (hstart'.of_suffix hbefore)
          exact hjoint ⟨hbefore, hrest⟩
        have honce := h.once
        rw [hcs] at honce
        have hbefore := occurrences_add_le directive s.before (declaration ++ s.rest)
        have hrest := occurrences_add_le directive declaration s.rest
        omega
    rw [Glsl.outputTo100, hs]
    exact hremoved.substitute
      (sparesDirective_renameRule hname (by decide) (by decide) fun heq => hother heq.symm)

end Output

/-! ### Whole stages -/

/-- The conversion of a fragment stage changes its output last. -/
lemma convert_fragment (d : Dialect) (cs : List Char) :
    convert d .fragment cs =
      match d with
      | .es300 => outputTo300 (namesTo .es300 .fragment cs)
      | .es100 => outputTo100 (namesTo .es100 .fragment cs) := by
  cases d <;> rfl

/-- Code below a version line has one directive after a conversion, if that of the output spares
directives. -/
theorem versioned_convert {line below : List Char} (hline : IsVersionLine line)
    (hbelow : ¬ directive <:+: below) {d : Dialect} {stage : Stage}
    (houtput : stage = .fragment → SparesOutput d (namesTo d stage (line ++ '\n' :: below))) :
    Versioned (convert d stage (line ++ '\n' :: below)) := by
  have hnames := versioned_namesTo hline hbelow d stage
  cases stage with
  | vertex => cases d <;> exact hnames
  | fragment =>
    have hspares := houtput rfl
    rw [convert_fragment]
    cases d with
    | es300 => exact hnames.outputTo300 hspares
    | es100 => exact hnames.outputTo100 hspares

end ShaderLoom.Glsl
