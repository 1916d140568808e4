import ShaderLoom.Proofs.Glsl.Conversion
import ShaderLoom.Proofs.Text.Occurrence

/-!
# Texts that differ in words

Code has to contain its version directive once, at its start (`Versioned`). The directive is a hash
and a word behind it. A substitution by rules copies the hashes and replaces words by words
(`reworded_substitute`), so that it adds no directive unless a word that it writes behind a hash
starts like one, and keeps the first one unless it replaces its word. The rules for texture
functions and for qualifiers do neither (`Rule.SparesDirective`).
-/

namespace ShaderLoom.Glsl

open Text

/-! ### Counting directives -/

/-- The word of a version directive. -/
def directiveWord : List Char := "version".toList

/-- What a version directive starts with. -/
def directive : List Char := "#version".toList

lemma directive_eq : directive = '#' :: directiveWord := rfl

lemma isWord_directiveWord : IsWord directiveWord := by decide

lemma occurrences_directive_cons {c : Char} (hc : c ≠ '#') (cs : List Char) :
    occurrences directive (c :: cs) = occurrences directive cs :=
  occurrences_cons_of_neg fun h => hc (List.cons_prefix_cons.1 h).1.symm

/-- Nothing but a hash starts a directive. -/
lemma occurrences_directive_append {front : List Char} (hfront : '#' ∉ front) (cs : List Char) :
    occurrences directive (front ++ cs) = occurrences directive cs := by
  induction front with
  | nil => rfl
  | cons c front ih =>
    have hc : c ≠ '#' := fun h => hfront (by simp [h])
    rw [List.cons_append, occurrences_directive_cons hc,
      ih fun h => hfront (List.mem_cons_of_mem c h)]

lemma occurrences_directive_hash (cs : List Char) :
    occurrences directive ('#' :: cs) =
      (if directiveWord <+: cs then 1 else 0) + occurrences directive cs := by
  rw [occurrences, directive_eq]
  simp only [List.isPrefixOf_iff_prefix, List.cons_prefix_cons, true_and]

lemma hash_not_mem_word {w : List Char} (hw : IsWord w) : '#' ∉ w :=
  fun h => absurd (hw.all _ h) (by decide)

/-- Whether the word of a directive comes next is seen in the next word. -/
lemma directiveWord_prefix_append {w rest : List Char} (hrest : AtWordEnd rest) :
    directiveWord <+: w ++ rest ↔ directiveWord <+: w := by
  rw [← isSome_afterFront?_iff, ← isSome_afterFront?_iff,
    afterFront?_append_of_atWordEnd isWord_directiveWord.all hrest, Option.isSome_map]

/-! ### Texts that differ in words and gaps -/

/-- Marks that may stand for each other behind a word: none is a hash, and there are none of either
or some of both. -/
structure Exchangeable (g g' : List Char) : Prop where
  empty : g = [] ↔ g' = []
  mark : ∀ c ∈ g ++ g', isWordChar c = false ∧ c ≠ '#'

lemma Exchangeable.hash_not_mem {g g' : List Char} (h : Exchangeable g g') :
    '#' ∉ g ∧ '#' ∉ g' :=
  ⟨fun hmem => (h.mark _ (List.mem_append_left _ hmem)).2 rfl,
    fun hmem => (h.mark _ (List.mem_append_right _ hmem)).2 rfl⟩

/-- The second text is the first one with other words, and with other marks behind words. The flag
says whether a hash stands in front of both; a word behind a hash starts like a directive only if
the replaced one does. -/
inductive Reworded : Bool → List Char → List Char → Prop
  | nil (hash : Bool) : Reworded hash [] []
  | mark {hash : Bool} {c : Char} {cs ds : List Char} (hc : isWordChar c = false)
      (hrest : Reworded (c == '#') cs ds) : Reworded hash (c :: cs) (c :: ds)
  | word {hash : Bool} {w v cs ds : List Char} (hw : IsWord w) (hv : IsWord v) (hcs : AtWordEnd cs)
      (hname : hash = true → directiveWord <+: v → directiveWord <+: w)
      (hrest : Reworded false cs ds) : Reworded hash (w ++ cs) (v ++ ds)
  | marks {g g' cs ds : List Char} (hmarks : Exchangeable g g') (hrest : Reworded false cs ds) :
      Reworded false (g ++ cs) (g' ++ ds)

namespace Reworded

variable {hash : Bool} {cs ds : List Char}

lemma atWordEnd (h : Reworded hash cs ds) (hcs : AtWordEnd cs) : AtWordEnd ds := by
  induction h with
  | nil => exact atWordEnd_nil
  | mark hc => exact atWordEnd_cons.2 hc
  | word hw => exact absurd hcs hw.not_atWordEnd
  | @marks g g' cs ds hmarks _ ih =>
    by_cases hg : g = []
    · rw [hmarks.empty.1 hg]
      rw [hg] at hcs
      exact ih hcs
    · obtain ⟨c, g', rfl⟩ := List.exists_cons_of_ne_nil (mt hmarks.empty.2 hg)
      exact atWordEnd_cons.2 (hmarks.mark c (by simp)).1

/-- The text behind a hash, if there is one. -/
private def behind (hash : Bool) (cs : List Char) : List Char := if hash then '#' :: cs else cs

private lemma occurrences_behind_mark {c : Char} (hc : isWordChar c = false) (cs : List Char) :
    occurrences directive (behind hash (c :: cs)) =
      occurrences directive (behind (c == '#') cs) := by
  have hnot : ¬ directiveWord <+: c :: cs := by
    rw [← isSome_afterFront?_iff, afterFront?_mark isWord_directiveWord hc]
    simp
  have hhash : occurrences directive (behind hash (c :: cs)) =
      occurrences directive (c :: cs) := by
    cases hash with
    | false => rfl
    | true =>
      show occurrences directive ('#' :: c :: cs) = _
      rw [occurrences_directive_hash, if_neg hnot, Nat.zero_add]
  rw [hhash]
  by_cases hc' : c = '#'
  · simp [behind, hc']
  · simp [behind, hc', occurrences_directive_cons hc']

private lemma occurrences_behind_word {w : List Char} (hw : IsWord w) (hcs : AtWordEnd cs) :
    occurrences directive (behind hash (w ++ cs)) =
      (if hash = true ∧ directiveWord <+: w then 1 else 0) + occurrences directive cs := by
  cases hash with
  | false => simp [behind, occurrences_directive_append (hash_not_mem_word hw)]
  | true =>
    show occurrences directive ('#' :: (w ++ cs)) = _
    rw [occurrences_directive_hash, occurrences_directive_append (hash_not_mem_word hw)]
    simp [directiveWord_prefix_append hcs]

private lemma occurrences_behind_le (h : Reworded hash cs ds) :
    occurrences directive (behind hash ds) ≤ occurrences directive (behind hash cs) := by
  induction h with
  | nil => exact Nat.le_refl _
  | mark hc _ ih => rwa [occurrences_behind_mark hc, occurrences_behind_mark hc]
  | @word hash w v cs ds hw hv hcs hname hrest ih =>
    rw [occurrences_behind_word hw hcs, occurrences_behind_word hv (hrest.atWordEnd hcs)]
    refine Nat.add_le_add ?_ ih
    by_cases hv : hash = true ∧ directiveWord <+: v
    · rw [if_pos hv, if_pos ⟨hv.1, hname hv.1 hv.2⟩]
    · rw [if_neg hv]
      exact Nat.zero_le _
  | @marks g g' cs ds hmarks _ ih =>
    show occurrences directive (g' ++ ds) ≤ occurrences directive (g ++ cs)
    rw [occurrences_directive_append hmarks.hash_not_mem.1,
      occurrences_directive_append hmarks.hash_not_mem.2]
    exact ih

/-- A text with other words has no more directives. -/
theorem occurrences_le (h : Reworded false cs ds) :
    occurrences directive ds ≤ occurrences directive cs :=
  occurrences_behind_le h

end Reworded

/-! ### Rules that change words -/

/-- At the word, the rule does nothing, or it replaces the word and the marks behind it. -/
def Rule.RewordsAt (rule : Rule) (previous : Option Char) (w rest : List Char) : Prop :=
  rule previous (w ++ rest) = none ∨
    ∃ v marks marks' rest', IsWord v ∧
      (previous = some '#' → directiveWord <+: v → directiveWord <+: w) ∧
      Exchangeable marks marks' ∧ rest = marks ++ rest' ∧
      rule previous (w ++ rest) = some (replaceUntil (w ++ rest) rest' (v ++ marks'))

section Substitute

variable {rule : Rule}

lemma lastOf_beq_hash {front : List Char} (hne : front ≠ []) (hfront : '#' ∉ front)
    (previous : Option Char) : (lastOf previous front == some '#') = false := by
  have hlast : ∀ (front : List Char) (c : Char), c ≠ '#' → '#' ∉ front →
      lastOf (some c) front ≠ some '#' := by
    intro front
    induction front with
    | nil => simp [lastOf]
    | cons d front ih =>
      intro c _ hfront
      exact ih d (fun h => hfront (by simp [h])) fun h => hfront (List.mem_cons_of_mem d h)
  obtain ⟨c, front, rfl⟩ := List.exists_cons_of_ne_nil hne
  rw [lastOf, beq_eq_false_iff_ne]
  exact hlast front c (fun h => hfront (by simp [h])) fun h => hfront (List.mem_cons_of_mem c h)

/-- Where a word and the marks behind it are replaced, substitution goes on behind the marks. -/
lemma substituteFrom_replaced {previous : Option Char} {w marks rest new : List Char}
    (hw : IsWord w)
    (h : rule previous (w ++ (marks ++ rest)) =
      some (replaceUntil (w ++ (marks ++ rest)) rest new)) :
    substituteFrom rule 0 previous (w ++ (marks ++ rest)) =
      new ++ substituteFrom rule 0 (lastOf previous (w ++ marks)) rest := by
  obtain ⟨c, u, rfl, -⟩ := hw.exists_cons
  have hlength : (c :: u ++ (marks ++ rest)).length - rest.length - 1 = (u ++ marks).length := by
    simp only [List.length_append, List.length_cons]
    omega
  rw [replaceUntil, hlength, List.cons_append, ← List.append_assoc] at h
  rw [List.cons_append, ← List.append_assoc u, substituteFrom, h]
  simp only
  rw [substituteFrom_skip]
  rfl

/-- Behind marks a word can start, if there are any. -/
lemma Exchangeable.startsWord_or_atWordEnd {marks marks' w rest : List Char}
    (h : Exchangeable marks marks') (hrest : AtWordEnd (marks ++ rest)) (previous : Option Char) :
    startsWord (lastOf previous (w ++ marks)) = true ∨ AtWordEnd rest := by
  rcases List.eq_nil_or_concat' marks with rfl | ⟨init, c, rfl⟩
  · exact .inr hrest
  · left
    have hc := (h.mark c (by simp)).1
    rw [← List.append_assoc, lastOf_append]
    simp [lastOf, hc]

/-- At every word where one can start, the rule does nothing or replaces the word. -/
def Rule.RewordsIn (rule : Rule) (previous : Option Char) (cs : List Char) : Prop :=
  ∀ front w rest, cs = front ++ (w ++ rest) → IsWord w → AtWordEnd rest →
    startsWord (lastOf previous front) = true → rule.RewordsAt (lastOf previous front) w rest

lemma Rule.RewordsIn.behind {previous : Option Char} {front cs : List Char}
    (h : rule.RewordsIn previous (front ++ cs)) : rule.RewordsIn (lastOf previous front) cs := by
  intro before w rest hcs hw hrest hstart
  have hplace := h (front ++ before) w rest (by simp [hcs]) hw hrest
  rw [lastOf_append] at hplace
  exact hplace hstart

/-- Substitution goes on from a place where a word can start, or where a mark comes next, so that it
does not matter what stood before. -/
lemma reworded_substituteFrom (hrule : rule.AtWords) {previous : Option Char} {cs : List Char}
    (hprevious : startsWord previous = true ∨ AtWordEnd cs) (h : rule.RewordsIn previous cs) :
    Reworded (previous == some '#') cs (substituteFrom rule 0 previous cs) := by
  induction hn : cs.length using Nat.strong_induction_on generalizing previous cs with
  | _ n ih =>
    subst hn
    cases cs using text_induction with
    | nil => exact .nil _
    | mark c cs hc =>
      rw [substituteFrom, hrule.mark previous c cs hc]
      have hbehind : rule.RewordsIn (some c) cs := @Rule.RewordsIn.behind _ _ [c] _ h
      exact .mark hc (ih _ (by simp) (.inl (by simp [hc])) hbehind rfl)
    | word w rest hw hrest =>
      have hlength : 0 < w.length := List.length_pos_of_ne_nil hw.ne_nil
      have hstart := hprevious.resolve_right hw.not_atWordEnd
      have hhere : rule.RewordsAt previous w rest := h [] w rest rfl hw hrest hstart
      rcases hhere with hnone | ⟨v, marks, marks', rest', hv, hname, hmarks, rfl, hsome⟩
      · have hrec := ih _ (by simpa using hlength) (.inr hrest) h.behind rfl
        rw [lastOf_beq_hash hw.ne_nil (hash_not_mem_word hw)] at hrec
        rw [substituteFrom_word hrule hw hnone]
        exact .word hw hw hrest (fun _ hprefix => hprefix) hrec
      · -- the rest is reworded behind the marks, which may be none
        have hfree : '#' ∉ w ++ marks := by
          rw [List.mem_append, not_or]
          exact ⟨hash_not_mem_word hw, hmarks.hash_not_mem.1⟩
        rw [← List.append_assoc] at h
        have hrec := ih _ (by simp; omega) (hmarks.startsWord_or_atWordEnd hrest previous)
          h.behind rfl
        rw [lastOf_beq_hash (by simp [hw.ne_nil]) hfree] at hrec
        rw [substituteFrom_replaced hw hsome, List.append_assoc]
        exact .word hw hv hrest (fun hhash => hname (by simpa using hhash)) (.marks hmarks hrec)

/-- Substitution by a rule that changes words gives a text with other words. -/
theorem reworded_substitute (hrule : rule.AtWords) {cs : List Char}
    (h : rule.RewordsIn none cs) : Reworded false cs (substitute rule cs) :=
  reworded_substituteFrom hrule (.inl rfl) h

end Substitute

/-! ### Code with one directive -/

/-- Code that starts with a version directive, and has no other one. -/
structure Versioned (cs : List Char) : Prop where
  leads : ∃ c rest, cs = directive ++ c :: rest ∧ isWordChar c = false
  once : occurrences directive cs ≤ 1

namespace Versioned

variable {cs : List Char}

lemma prefix_directive (h : Versioned cs) : directive <+: cs := by
  obtain ⟨c, rest, rfl, -⟩ := h.leads
  exact List.prefix_append _ _

lemma occurrences_eq_one (h : Versioned cs) : occurrences directive cs = 1 := by
  refine Nat.le_antisymm h.once (Nat.pos_of_ne_zero fun hzero => ?_)
  rw [occurrences_eq_zero_iff (by decide)] at hzero
  exact hzero h.prefix_directive.isInfix

end Versioned

/-- The rule changes words only, writes none behind a hash that starts like a directive, and leaves
the word of a directive alone. -/
structure Rule.SparesDirective (rule : Rule) : Prop where
  atWords : rule.AtWords
  rewords : ∀ previous w rest, startsWord previous = true → IsWord w → AtWordEnd rest →
    rule.RewordsAt previous w rest
  spares : ∀ rest, AtWordEnd rest → rule (some '#') (directiveWord ++ rest) = none

section Rules

variable {rule : Rule} {cs : List Char}

/-- A directive at the start stays there, if the rule leaves its word alone. -/
lemma leads_substitute (hrule : rule.AtWords)
    (hspares : ∀ rest, AtWordEnd rest → rule (some '#') (directiveWord ++ rest) = none)
    (h : ∃ c rest, cs = directive ++ c :: rest ∧ isWordChar c = false) :
    ∃ c rest, substitute rule cs = directive ++ c :: rest ∧ isWordChar c = false := by
  obtain ⟨c, rest, rfl, hc⟩ := h
  refine ⟨c, substituteFrom rule 0 (some c) rest, ?_, hc⟩
  have hword := substituteFrom_word hrule isWord_directiveWord
    (hspares (c :: rest) (atWordEnd_cons.2 hc))
  have hhash := hrule.mark none '#' (directiveWord ++ c :: rest) (by decide)
  rw [substitute, directive_eq, List.cons_append, substituteFrom, hhash]
  simp only [hword]
  rw [substituteFrom, hrule.mark _ c rest hc]
  rfl

/-- Substitution by a rule that spares directives keeps the one directive. -/
theorem Versioned.substitute (h : Versioned cs) (hrule : rule.SparesDirective) :
    Versioned (substitute rule cs) where
  leads := leads_substitute hrule.atWords hrule.spares h.leads
  once := by
    have hreworded : Reworded false cs (Glsl.substitute rule cs) :=
      reworded_substitute hrule.atWords fun _ w rest _ hw hrest hstart =>
        hrule.rewords _ w rest hstart hw hrest
    exact hreworded.occurrences_le.trans h.once

lemma exchangeable_nil : Exchangeable [] [] := ⟨Iff.rfl, by simp⟩

/-- A text of spaces and tabulators. -/
def IsGapText (cs : List Char) : Prop := ∀ c ∈ cs, isGap c = true

lemma exists_gap_of_afterGap? {cs rest : List Char} (h : afterGap? cs = some rest) :
    ∃ gap, cs = gap ++ rest ∧ gap ≠ [] ∧ IsGapText gap := by
  obtain ⟨hhead, rfl⟩ := afterGap?_eq_some_iff.1 h
  refine ⟨cs.takeWhile isGap, List.takeWhile_append_dropWhile.symm, ?_,
    fun c hc => List.mem_takeWhile_imp hc⟩
  cases cs with
  | nil => simp at hhead
  | cons c cs =>
    have hc : isGap c = true := by simpa using hhead
    simp [hc]

lemma exchangeable_gap {gap : List Char} (hne : gap ≠ []) (hgap : IsGapText gap) :
    Exchangeable gap [' '] := by
  refine ⟨by simp [hne], fun c hc => ?_⟩
  have hc' : isGap c = true := by
    rcases List.mem_append.1 hc with hc | hc
    · exact hgap c hc
    · obtain rfl := List.mem_singleton.1 hc
      decide
  refine ⟨isWordChar_of_isGap hc', ?_⟩
  rintro rfl
  exact absurd hc' (by decide)

/-- At a word, the rule for a qualifier does nothing, or it replaces the qualifier and the gap behind
it. -/
lemma qualifierRule_cases {old new : List Char} (hold : IsWord old) {previous : Option Char}
    {w rest : List Char} (hstart : startsWord previous = true) (hw : IsWord w)
    (hrest : AtWordEnd rest) :
    qualifierRule old new previous (w ++ rest) = none ∨
      w = old ∧ ∃ gap variableText, rest = gap ++ variableText ∧ gap ≠ [] ∧ IsGapText gap ∧
        afterGap? rest = some variableText ∧
        qualifierRule old new previous (w ++ rest) =
          some (replaceUntil (w ++ rest) variableText (new ++ [' '])) := by
  rw [qualifierRule_word hold hstart hw hrest]
  by_cases hword : w = old
  · rw [if_pos hword]
    cases hgap : afterGap? rest with
    | none => exact .inl rfl
    | some variableText =>
      cases hvariable : afterVariable? variableText with
      | none => exact .inl (by simp [hvariable])
      | some after =>
        obtain ⟨gap, hrest, hne, hgapText⟩ := exists_gap_of_afterGap? hgap
        exact .inr ⟨hword, gap, variableText, hrest, hne, hgapText, rfl, by simp [hvariable]⟩
  · exact .inl (if_neg hword)

/-- The rules for texture functions spare directives. -/
lemma sparesDirective_textureRule {kinds endings : List (List Char)}
    {new : List Char → List Char} (hkinds : ∀ kind ∈ kinds, kind.all isWordChar = true)
    (hendings : ∀ ending ∈ endings, ending.all isWordChar = true)
    (hnew : ∀ kind ∈ kinds, IsWord (new kind) ∧ ¬ directiveWord <+: new kind) :
    (textureRule kinds endings new).SparesDirective where
  atWords := textureRule_atWords
  rewords := by
    intro previous w rest hstart hw hrest
    rw [Rule.RewordsAt, textureRule_word hkinds hendings hstart hw hrest]
    cases hcall : afterChar? '(' rest with
    | none => exact .inl rfl
    | some rest' =>
      obtain rfl := afterChar?_eq_some_iff.1 hcall
      cases hname : textureName? kinds endings new w with
      | none => exact .inl rfl
      | some name =>
        obtain ⟨kind, hkind, -, -, -, rfl⟩ := textureName?_eq_some hname
        refine .inr ⟨new kind, ['('], ['('], rest', (hnew kind hkind).1, ?_, ?_, rfl, rfl⟩
        · exact fun _ hprefix => absurd hprefix (hnew kind hkind).2
        · refine ⟨Iff.rfl, fun c hc => ?_⟩
          obtain rfl : c = '(' := by simpa using hc
          exact ⟨by decide, by decide⟩
  spares := by
    intro rest hrest
    rw [textureRule_word hkinds hendings (by decide) isWord_directiveWord hrest]
    have hname : textureName? kinds endings new directiveWord = none := rfl
    rw [hname]
    cases afterChar? '(' rest <;> rfl

/-- The rules for qualifiers spare directives. -/
lemma sparesDirective_qualifierRule {old new : List Char} (hold : IsWord old) (hnew : IsWord new)
    (hdirective : ¬ directiveWord <+: new) (hother : directiveWord ≠ old) :
    (qualifierRule old new).SparesDirective where
  atWords := qualifierRule_atWords hold
  rewords := by
    intro previous w rest hstart hw hrest
    rcases qualifierRule_cases hold hstart hw hrest with
      hnone | ⟨-, gap, variableText, rfl, hne, hgap, -, hsome⟩
    · exact .inl hnone
    · exact .inr ⟨new, gap, [' '], variableText, hnew, fun _ hprefix => absurd hprefix hdirective,
        exchangeable_gap hne hgap, rfl, hsome⟩
  spares := by
    intro rest hrest
    rw [qualifierRule_word hold (by decide) isWord_directiveWord hrest, if_neg hother]

/-- At the word that is renamed, the new name replaces it. -/
lemma rewordsAt_renameRule {old new : List Char} (hold : IsWord old) (hnew : IsWord new)
    {previous : Option Char} {w rest : List Char} (hstart : startsWord previous = true)
    (hw : IsWord w) (hrest : AtWordEnd rest)
    (hname : previous = some '#' → w = old → directiveWord <+: new → directiveWord <+: old) :
    (renameRule old new).RewordsAt previous w rest := by
  rw [Rule.RewordsAt, renameRule_word hold hstart hw hrest]
  by_cases hword : w = old
  · refine .inr ⟨new, [], [], rest, hnew, ?_, exchangeable_nil, rfl, by simp [hword]⟩
    rw [hword]
    exact fun hhash => hname hhash hword
  · exact .inl (if_neg hword)

/-- Renaming another word to one that does not start like a directive spares directives. -/
lemma sparesDirective_renameRule {old new : List Char} (hold : IsWord old) (hnew : IsWord new)
    (hdirective : ¬ directiveWord <+: new) (hother : directiveWord ≠ old) :
    (renameRule old new).SparesDirective where
  atWords := renameRule_atWords hold
  rewords := fun _ _ _ hstart hw hrest =>
    rewordsAt_renameRule hold hnew hstart hw hrest fun _ _ hprefix => absurd hprefix hdirective
  spares := by
    intro rest hrest
    rw [renameRule_word hold (by decide) isWord_directiveWord hrest, if_neg hother]

end Rules

end ShaderLoom.Glsl
