import ShaderLoom.Proofs.Glsl.Header
import ShaderLoom.Proofs.Glsl.Place
import ShaderLoom.Proofs.Glsl.Rewording

/-!
# Version lines

A version line names a dialect behind its directive, with gaps between the words and at the end.
These are the lines with a directive that the conversions recognise (`isVersionLine_iff`). A
conversion makes the version line of the other dialect of them, below which the code stays as it is.
The words of a version line are passed over when an output or a main function is looked for
(`OfVersionWords`), also where a conversion puts others for them (`versionTo300_cut`,
`versionTo100_cut`).
-/

namespace ShaderLoom.Glsl

open Text

/-! ### The form of a version line -/

/-- The version that a version line names. -/
inductive IsVersion : List Char → Prop
  | old : IsVersion "100".toList
  | new {gap : List Char} (hne : gap ≠ []) (hgap : IsGapText gap) :
      IsVersion ("300".toList ++ (gap ++ "es".toList))

/-- A version line: the directive, a gap, the version, and nothing but spaces and tabulators behind
it. -/
inductive IsVersionLine : List Char → Prop
  | mk {gap version back : List Char} (hne : gap ≠ []) (hgap : IsGapText gap)
      (hversion : IsVersion version) (hback : IsGapText back) :
      IsVersionLine (directive ++ (gap ++ (version ++ back)))

lemma IsGapText.hash_not_mem {cs : List Char} (h : IsGapText cs) : '#' ∉ cs :=
  fun hmem => absurd (h _ hmem) (by decide)

lemma IsGapText.atWordEnd {g : List Char} (hg : IsGapText g) (hne : g ≠ []) (cs : List Char) :
    AtWordEnd (g ++ cs) := by
  obtain ⟨c, g, rfl⟩ := List.exists_cons_of_ne_nil hne
  exact atWordEnd_cons.2 (isWordChar_of_isGap (hg c List.mem_cons_self))

lemma IsVersion.hash_not_mem {version : List Char} (h : IsVersion version) : '#' ∉ version := by
  cases h with
  | old => decide
  | new _ hgap =>
    simp only [List.mem_append, not_or]
    exact ⟨by decide, hgap.hash_not_mem, by decide⟩

lemma afterGap?_gap {gap v : List Char} (hne : gap ≠ []) (hgap : IsGapText gap) (hv : IsWord v)
    (rest : List Char) : afterGap? (gap ++ (v ++ rest)) = some (v ++ rest) := by
  obtain ⟨c, gap, rfl⟩ := List.exists_cons_of_ne_nil hne
  have hdrop : gap.dropWhile isGap = [] :=
    List.dropWhile_eq_nil_iff.2 fun d hd => hgap d (List.mem_cons_of_mem c hd)
  rw [afterGap?_append hv, afterGap?, if_pos (hgap c List.mem_cons_self), hdrop]
  rfl

lemma afterEmptyLine?_gap {back : List Char} (hback : IsGapText back) (below : List Char) :
    afterEmptyLine? (back ++ '\n' :: below) = some below := by
  rw [afterEmptyLine?, List.dropWhile_append_of_pos hback]
  rfl

lemma afterVersion100?_directive (cs : List Char) :
    afterVersion100? (directive ++ cs) = (afterGap? cs).bind (afterFront? "100".toList) := by
  show ((afterFront? directive (directive ++ cs)).bind fun cs =>
    (afterGap? cs).bind (afterFront? "100".toList)) = _
  rw [afterFront?_append, Option.bind_some]

lemma afterVersion300?_directive (cs : List Char) :
    afterVersion300? (directive ++ cs) =
      (afterGap? cs).bind fun cs => (afterFront? "300".toList cs).bind fun cs =>
        (afterGap? cs).bind (afterFront? "es".toList) := by
  show ((afterFront? directive (directive ++ cs)).bind fun cs => (afterGap? cs).bind fun cs =>
    (afterFront? "300".toList cs).bind fun cs => (afterGap? cs).bind (afterFront? "es".toList)) = _
  rw [afterFront?_append, Option.bind_some]

lemma afterVersion300?_line {gap inner : List Char} (hne : gap ≠ []) (hgap : IsGapText gap)
    (hinner : inner ≠ []) (hinnerGap : IsGapText inner) (rest : List Char) :
    afterVersion300? (directive ++ (gap ++ ("300".toList ++ (inner ++ ("es".toList ++ rest))))) =
      some rest := by
  rw [afterVersion300?_directive, afterGap?_gap hne hgap (by decide), Option.bind_some,
    afterFront?_append, Option.bind_some, afterGap?_gap hinner hinnerGap (by decide),
    Option.bind_some, afterFront?_append]

/-- Version lines are recognised. -/
lemma afterVersionLine?_line {line : List Char} (hline : IsVersionLine line) (below : List Char) :
    afterVersionLine? (line ++ '\n' :: below) = some below := by
  obtain ⟨hne, hgap, hversion, hback⟩ := hline
  cases hversion with
  | old =>
    simp only [List.append_assoc]
    rw [afterVersionLine?, afterVersion100?_directive, afterGap?_gap hne hgap (by decide),
      Option.bind_some, afterFront?_append, Option.bind_some, afterEmptyLine?_gap hback,
      Option.some_or]
  | new hinner hinnerGap =>
    have hother : ∀ rest, afterFront? "100".toList ("300".toList ++ rest) = none := fun _ => rfl
    simp only [List.append_assoc]
    rw [afterVersionLine?, afterVersion100?_directive, afterGap?_gap hne hgap (by decide),
      Option.bind_some, hother, Option.bind_none, Option.none_or,
      afterVersion300?_line hne hgap hinner hinnerGap, Option.bind_some,
      afterEmptyLine?_gap hback, Option.some_or]

lemma exists_gap_of_afterEmptyLine? {cs below : List Char} (h : afterEmptyLine? cs = some below) :
    ∃ back, cs = back ++ '\n' :: below ∧ IsGapText back := by
  refine ⟨cs.takeWhile isGap, ?_, fun c hc => List.mem_takeWhile_imp hc⟩
  rw [afterEmptyLine?, afterChar?_eq_some_iff] at h
  rw [← h, List.takeWhile_append_dropWhile]

lemma afterVersion100?_eq_some {cs rest : List Char} (h : afterVersion100? cs = some rest) :
    ∃ gap, cs = directive ++ (gap ++ ("100".toList ++ rest)) ∧ gap ≠ [] ∧ IsGapText gap := by
  obtain ⟨behind, hbehind, h⟩ := Option.bind_eq_some_iff.1 h
  obtain ⟨text, htext, hnumber⟩ := Option.bind_eq_some_iff.1 h
  obtain ⟨gap, rfl, hne, hgap⟩ := exists_gap_of_afterGap? htext
  rw [eq_append_of_afterFront? hnumber] at hbehind
  exact ⟨gap, eq_append_of_afterFront? hbehind, hne, hgap⟩

lemma afterVersion300?_eq_some {cs rest : List Char} (h : afterVersion300? cs = some rest) :
    ∃ gap inner, cs = directive ++ (gap ++ ("300".toList ++ (inner ++ ("es".toList ++ rest)))) ∧
      gap ≠ [] ∧ IsGapText gap ∧ inner ≠ [] ∧ IsGapText inner := by
  obtain ⟨behind, hbehind, h⟩ := Option.bind_eq_some_iff.1 h
  obtain ⟨text, htext, h⟩ := Option.bind_eq_some_iff.1 h
  obtain ⟨number, hnumber, h⟩ := Option.bind_eq_some_iff.1 h
  obtain ⟨word, hword, hes⟩ := Option.bind_eq_some_iff.1 h
  obtain ⟨gap, rfl, hne, hgap⟩ := exists_gap_of_afterGap? htext
  obtain ⟨inner, rfl, hinnerNe, hinner⟩ := exists_gap_of_afterGap? hword
  rw [eq_append_of_afterFront? hnumber, eq_append_of_afterFront? hes] at hbehind
  exact ⟨gap, inner, eq_append_of_afterFront? hbehind, hne, hgap, hinnerNe, hinner⟩

/-- A first line that is passed over is a version line, or has gaps only. -/
lemma afterVersionLine?_eq_some {cs below : List Char} (h : afterVersionLine? cs = some below) :
    ∃ line, cs = line ++ '\n' :: below ∧ (IsVersionLine line ∨ IsGapText line) := by
  rcases Option.or_eq_some_iff.1 h with h | ⟨-, h⟩
  · obtain ⟨rest, hversion, hempty⟩ := Option.bind_eq_some_iff.1 h
    obtain ⟨gap, rfl, hne, hgap⟩ := afterVersion100?_eq_some hversion
    obtain ⟨back, rfl, hback⟩ := exists_gap_of_afterEmptyLine? hempty
    refine ⟨_, ?_, .inl (.mk hne hgap .old hback)⟩
    simp only [List.append_assoc]
  · rcases Option.or_eq_some_iff.1 h with h | ⟨-, h⟩
    · obtain ⟨rest, hversion, hempty⟩ := Option.bind_eq_some_iff.1 h
      obtain ⟨gap, inner, rfl, hne, hgap, hinnerNe, hinner⟩ := afterVersion300?_eq_some hversion
      obtain ⟨back, rfl, hback⟩ := exists_gap_of_afterEmptyLine? hempty
      refine ⟨_, ?_, .inl (.mk hne hgap (.new hinnerNe hinner) hback)⟩
      simp only [List.append_assoc]
    · obtain ⟨back, rfl, hback⟩ := exists_gap_of_afterEmptyLine? h
      exact ⟨back, rfl, .inr hback⟩

/-- The version lines are the lines with a directive that the conversions recognise. -/
theorem isVersionLine_iff {line : List Char} :
    IsVersionLine line ↔
      directive <+: line ∧ afterVersionLine? (line ++ ['\n']) = some [] := by
  constructor
  · intro hline
    refine ⟨?_, afterVersionLine?_line hline []⟩
    obtain ⟨-, -, -, -⟩ := hline
    exact List.prefix_append _ _
  · rintro ⟨hdirective, h⟩
    obtain ⟨line', heq, hline⟩ := afterVersionLine?_eq_some h
    obtain rfl := List.append_cancel_right heq
    refine hline.resolve_right fun hgap => ?_
    exact hgap.hash_not_mem (hdirective.subset (by decide))

instance (line : List Char) : Decidable (IsVersionLine line) :=
  decidable_of_iff _ isVersionLine_iff.symm

lemma isVersionLine_oldest : IsVersionLine "#version 100".toList := by decide

lemma IsVersionLine.length_lt {line : List Char} (h : IsVersionLine line) :
    directive.length < line.length := by
  obtain ⟨hne, -, -, -⟩ := h
  have hgap := List.length_pos_of_ne_nil hne
  simp only [List.length_append]
  omega

/-- Code below a first line that starts with the directive. -/
lemma Versioned.of_line {front below : List Char} (hfront : '#' ∉ front)
    (hend : AtWordEnd (front ++ ['\n'])) (hbelow : ¬ directive <:+: below) :
    Versioned (directive ++ front ++ '\n' :: below) where
  leads := by
    cases front with
    | nil => exact ⟨'\n', below, rfl, by decide⟩
    | cons c front => exact ⟨c, front ++ '\n' :: below, by simp, atWordEnd_cons.1 hend⟩
  once := by
    have hfree : '#' ∉ directiveWord ++ front := by
      rw [List.mem_append, not_or]
      exact ⟨by decide, hfront⟩
    have hline : occurrences directive (directive ++ front) ≤ 1 := by
      have hnone := occurrences_directive_append hfree []
      rw [List.append_nil] at hnone
      have hhash := occurrences_directive_hash (directiveWord ++ front)
      rw [hnone] at hhash
      rw [directive_eq, List.cons_append, ← directive_eq, hhash]
      split <;> simp [occurrences]
    rw [occurrences_append_cons (by decide) (by decide),
      (occurrences_eq_zero_iff (by decide)).2 hbelow]
    exact hline

section Line

variable {line below : List Char}

lemma versionTo300_line (hline : IsVersionLine line) (below : List Char) :
    versionTo300 (line ++ '\n' :: below) = versionLine300 ++ below := by
  rw [versionTo300, afterVersionLine?_line hline]
  rfl

lemma versioned_versionTo300 (hline : IsVersionLine line) (hbelow : ¬ directive <:+: below) :
    Versioned (versionTo300 (line ++ '\n' :: below)) := by
  rw [versionTo300_line hline]
  exact @Versioned.of_line " 300 es".toList below (by decide) rfl hbelow

lemma versioned_versionTo100 (hline : IsVersionLine line) (hbelow : ¬ directive <:+: below) :
    Versioned (versionTo100 (line ++ '\n' :: below)) := by
  obtain @⟨gap, version, back, hne, hgap, hversion, hback⟩ := hline
  cases hversion with
  | old =>
    -- the line stays as it is
    have hnone : afterVersion300? (directive ++ (gap ++ ("100".toList ++ back)) ++ '\n' :: below) =
        none := by
      simp only [List.append_assoc]
      rw [afterVersion300?_directive, afterGap?_gap hne hgap (by decide)]
      rfl
    rw [versionTo100, hnone]
    refine Versioned.of_line ?_ (by rw [List.append_assoc]; exact hgap.atWordEnd hne _) hbelow
    simp only [List.mem_append, not_or]
    exact ⟨hgap.hash_not_mem, by decide, hback.hash_not_mem⟩
  | @new inner hinner hinnerGap =>
    have hrest : afterVersion300? (directive ++
        (gap ++ ("300".toList ++ (inner ++ "es".toList) ++ back)) ++ '\n' :: below) =
          some (back ++ '\n' :: below) := by
      simp only [List.append_assoc]
      exact afterVersion300?_line hne hgap hinner hinnerGap _
    rw [versionTo100, hrest]
    have hline := @Versioned.of_line (" 100".toList ++ back) below (by
      simp only [List.mem_append, not_or]
      exact ⟨by decide, hback.hash_not_mem⟩) rfl hbelow
    rw [List.append_assoc, List.append_assoc] at hline
    exact hline

end Line

/-! ### Words of version lines -/

/-- A text with no other words than those of version lines, and with none at its end. -/
structure OfVersionWords (cs : List Char) : Prop where
  start : AtWordStart cs
  words : ∀ w behind, .word w behind ∈ pieces cs → w ∈ versionWords

namespace OfVersionWords

variable {cs : List Char}

lemma nil : OfVersionWords [] := ⟨rfl, by simp⟩

lemma mark {c : Char} (hc : isWordChar c = false) (h : OfVersionWords cs) :
    OfVersionWords (c :: cs) where
  start := by
    have hmark : AtWordStart [c] := by simp [AtWordStart, hc]
    exact hmark.append h.start
  words := by
    rw [pieces_mark hc]
    intro w behind hmem
    exact h.words w behind (by simpa using hmem)

lemma marks {marks : List Char} (hmarks : ∀ c ∈ marks, isWordChar c = false)
    (h : OfVersionWords cs) : OfVersionWords (marks ++ cs) := by
  induction marks with
  | nil => exact h
  | cons c marks ih =>
    exact (ih fun d hd => hmarks d (List.mem_cons_of_mem c hd)).mark (hmarks c List.mem_cons_self)

lemma gap {gap : List Char} (hgap : IsGapText gap) (h : OfVersionWords cs) :
    OfVersionWords (gap ++ cs) :=
  h.marks fun c hc => isWordChar_of_isGap (hgap c hc)

lemma word {w : List Char} (hw : w ∈ versionWords) (hne : cs ≠ []) (hcs : AtWordEnd cs)
    (h : OfVersionWords cs) : OfVersionWords (w ++ cs) where
  start := (atWordStart_append w hne).2 h.start
  words := by
    have hword : ∀ w ∈ versionWords, IsWord w := by decide
    rw [pieces_word (hword w hw) hcs]
    intro v behind hmem
    rcases List.mem_cons.1 hmem with heq | hmem
    · obtain ⟨rfl, -⟩ : v = w ∧ behind = follower cs := by simpa using heq
      exact hw
    · exact h.words v behind hmem

/-- Behind a gap, the next word of a version line may follow. -/
lemma word_gap {w gap : List Char} (hw : w ∈ versionWords) (hne : gap ≠ [])
    (hgap : IsGapText gap) (h : OfVersionWords cs) : OfVersionWords (w ++ (gap ++ cs)) :=
  (h.gap hgap).word hw (by simp [hne]) (hgap.atWordEnd hne cs)

lemma text_ne (h : OfVersionWords cs) {p : Piece} (hp : p ∈ pieces cs) {v : List Char}
    (hlength : 2 ≤ v.length) (hv : ∀ w ∈ versionWords, ¬ v <:+ w) : ¬ v <:+ p.text := by
  intro hsuffix
  cases p with
  | mark c =>
    have hle : v.length ≤ 1 := hsuffix.length_le
    omega
  | word w behind => exact hv w (h.words w behind hp) hsuffix

/-- What stands behind is cut at the same declaration of an output. -/
lemma splitOutput? (h : OfVersionWords cs) (rest : List Char) :
    splitOutput? (cs ++ rest) = (splitOutput? rest).map (OutputSplit.prepend cs) :=
  splitOutput?_pass h.start (fun _ hp heq => h.text_ne hp (v := "out".toList) (by decide)
    (by decide) (heq ▸ List.suffix_refl _)) rest

/-- What stands behind is cut at the same header of a main function. -/
lemma splitMain? (h : OfVersionWords cs) (rest : List Char) :
    splitMain? (cs ++ rest) = (splitMain? rest).map (MainSplit.prepend cs) :=
  splitMain?_pass h.start (fun _ hp => h.text_ne hp (by decide) (by decide)) rest

lemma hasWord {w : List Char} (h : OfVersionWords cs) (hw : IsWord w) (hother : w ∉ versionWords)
    (rest : List Char) : hasWord w (cs ++ rest) = hasWord w rest := by
  rw [Bool.eq_iff_iff, hasWord_append hw h.start, hasWord_iff hw]
  exact or_iff_right fun ⟨behind, hmem⟩ => hother (h.words w behind hmem)

end OfVersionWords

/-- A version directive and the mark behind it. -/
lemma ofVersionWords_lead {c : Char} (hc : isWordChar c = false) :
    OfVersionWords (directive ++ [c]) :=
  ((OfVersionWords.nil.mark hc).word (w := directiveWord) (by decide) (by simp)
    (atWordEnd_cons.2 hc)).mark (by decide)

/-- A version line and its line break. -/
lemma ofVersionWords_line {line : List Char} (h : IsVersionLine line) :
    OfVersionWords (line ++ ['\n']) := by
  obtain @⟨gap, version, back, hne, hgap, hversion, hback⟩ := h
  have hbreak : OfVersionWords (back ++ ['\n']) := (OfVersionWords.nil.mark (by decide)).gap hback
  have hend : AtWordEnd (back ++ ['\n']) := by
    by_cases hnil : back = []
    · rw [hnil]
      rfl
    · exact hback.atWordEnd hnil _
  have hword : ∀ {w}, w ∈ versionWords → OfVersionWords (w ++ (back ++ ['\n'])) :=
    fun hw => hbreak.word hw (by simp) hend
  have hnumber : OfVersionWords (version ++ (back ++ ['\n'])) := by
    cases hversion with
    | old => exact hword (by decide)
    | new hinner hinnerGap =>
      simp only [List.append_assoc]
      exact (hword (by decide)).word_gap (by decide) hinner hinnerGap
  simp only [List.append_assoc]
  exact (hnumber.word_gap (w := directiveWord) (by decide) hne hgap).mark (by decide)

lemma ofVersionWords_versionLine100 : OfVersionWords versionLine100 :=
  ofVersionWords_line isVersionLine_oldest

lemma ofVersionWords_versionLine300 : OfVersionWords versionLine300 := by
  have hline : IsVersionLine "#version 300 es".toList := by decide
  exact ofVersionWords_line hline

/-- Conversion of the version line puts words of version lines for others of them. -/
lemma versionTo300_cut (cs : List Char) :
    ∃ line line' rest, cs = line ++ rest ∧ versionTo300 cs = line' ++ rest ∧
      OfVersionWords line ∧ OfVersionWords line' := by
  cases h : afterVersionLine? cs with
  | none => exact ⟨[], [], cs, rfl, by simp [versionTo300, h], .nil, .nil⟩
  | some below =>
    obtain ⟨line, rfl, hline⟩ := afterVersionLine?_eq_some h
    refine ⟨line ++ ['\n'], versionLine300, below, by simp, by rw [versionTo300, h]; rfl, ?_,
      ofVersionWords_versionLine300⟩
    rcases hline with hversion | hgap
    · exact ofVersionWords_line hversion
    · exact (OfVersionWords.nil.mark (by decide)).gap hgap

/-! ### The converted version -/

lemma versionTo100_eq_self {cs : List Char} (h : afterVersion300? cs = none) :
    versionTo100 cs = cs := by
  rw [versionTo100, h]

/-- The text in front of a rest that a conversion of the version looks at: words of version lines,
and perhaps a longer one at the end. -/
inductive VersionFront : List Char → List Char → Prop
  | nil {rest : List Char} : VersionFront [] rest
  | line {front word rest : List Char} (hfront : OfVersionWords front) (hword : IsWord word)
      (hother : word ∉ ["in".toList, "out".toList]) (hrest : AtWordEnd rest) :
      VersionFront (front ++ word) rest

namespace VersionFront

variable {front rest : List Char}

/-- What is put behind a rest that no word reaches over does not matter. -/
lemma append (h : VersionFront front rest) (hstart : AtWordStart (front ++ rest)) (cs : List Char) :
    VersionFront front (rest ++ cs) := by
  cases h with
  | nil => exact .nil
  | line hfront hword hother hrest =>
    rw [List.append_assoc] at hstart
    have hne := (hstart.of_suffix (List.suffix_append _ _)).ne_nil hword
    exact .line hfront hword hother ((atWordEnd_append hne cs).2 hrest)

/-- What stands behind is cut at the same declaration of an output. -/
lemma splitOutput? (h : VersionFront front rest) :
    splitOutput? (front ++ rest) = (splitOutput? rest).map (OutputSplit.prepend front) := by
  cases h with
  | nil => simp
  | @line front word rest hfront hword hother hrest =>
    have hout : word ≠ "out".toList := by
      rintro rfl
      exact hother (by simp)
    rw [List.append_assoc, hfront.splitOutput?, splitOutput?_word hword hrest,
      outputDeclaration?_word hword hrest, if_neg hout, Option.map_none, Option.none_or,
      Option.map_map, OutputSplit.prepend_comp]

end VersionFront

/-- The version of the newer dialect is read up to its last word, whatever follows. -/
lemma afterVersion300?_cut {cs behind : List Char} (h : afterVersion300? cs = some behind) :
    ∃ line, cs = line ++ ("es".toList ++ behind) ∧ OfVersionWords line ∧
      ∀ other, afterVersion300? (line ++ ("es".toList ++ other)) = some other := by
  obtain ⟨gap, inner, rfl, hne, hgap, hinnerNe, hinner⟩ := afterVersion300?_eq_some h
  refine ⟨directive ++ (gap ++ ("300".toList ++ (inner ++ []))), ?_, ?_, fun other => ?_⟩
  · simp only [List.append_assoc, List.nil_append]
  · have hnumber := OfVersionWords.nil.word_gap (w := "300".toList) (by decide) hinnerNe hinner
    exact (hnumber.word_gap (w := directiveWord) (by decide) hne hgap).mark (by decide)
  · simp only [List.append_assoc, List.nil_append]
    exact afterVersion300?_line hne hgap hinnerNe hinner other

/-- Conversion of the version puts a text in front of a rest for another one. -/
lemma versionTo100_cut (cs : List Char) :
    ∃ front front' rest, cs = front ++ rest ∧ versionTo100 cs = front' ++ rest ∧
      VersionFront front rest ∧ VersionFront front' rest := by
  cases h : afterVersion300? cs with
  | none => exact ⟨[], [], cs, rfl, by simp [versionTo100, h], .nil, .nil⟩
  | some behind =>
    obtain ⟨line, rfl, hline, -⟩ := afterVersion300?_cut h
    refine ⟨line ++ ("es".toList ++ behind.takeWhile isWordChar),
      "#version ".toList ++ ("100".toList ++ behind.takeWhile isWordChar),
      behind.dropWhile isWordChar, ?_, ?_,
      .line hline (isWord_append_takeWhile (by decide) behind) (by simp)
        (atWordEnd_dropWhile behind),
      .line (ofVersionWords_lead (by decide)) (isWord_append_takeWhile (by decide) behind) (by simp)
        (atWordEnd_dropWhile behind)⟩
    · simp only [List.append_assoc, List.takeWhile_append_dropWhile]
    · rw [versionTo100, h]
      simp only [List.append_assoc, List.takeWhile_append_dropWhile]
      rfl

lemma atWordStart_versionTo100 {cs : List Char} (h : AtWordStart cs) :
    AtWordStart (versionTo100 cs) := by
  cases hversion : afterVersion300? cs with
  | none => rwa [versionTo100, hversion]
  | some behind =>
    obtain ⟨line, rfl, -, -⟩ := afterVersion300?_cut hversion
    have hbehind := h.of_suffix (List.suffix_append _ _)
    have hne := hbehind.ne_nil (w := "es".toList) (by decide)
    rw [versionTo100, hversion]
    exact (atWordStart_append _ hne).2 (hbehind.of_suffix (List.suffix_append _ _))

/-- Conversion of the version neither declares an output nor loses a declaration. -/
lemma isSome_splitOutput?_versionTo100 (cs : List Char) :
    (splitOutput? (versionTo100 cs)).isSome = (splitOutput? cs).isSome := by
  obtain ⟨front, front', rest, rfl, hconverted, hfront, hfront'⟩ := versionTo100_cut cs
  rw [hconverted, hfront.splitOutput?, hfront'.splitOutput?, Option.isSome_map, Option.isSome_map]

lemma isSome_splitOutput?_versionTo100_append {front : List Char} (hfront : AtWordStart front)
    (cs : List Char) :
    (splitOutput? (versionTo100 front ++ cs)).isSome = (splitOutput? (front ++ cs)).isSome := by
  have hfront' := atWordStart_versionTo100 hfront
  obtain ⟨line, line', rest, rfl, hconverted, hline, hline'⟩ := versionTo100_cut front
  rw [hconverted] at hfront' ⊢
  rw [List.append_assoc, List.append_assoc, (hline.append hfront cs).splitOutput?,
    (hline'.append hfront' cs).splitOutput?, Option.isSome_map, Option.isSome_map]

end ShaderLoom.Glsl
