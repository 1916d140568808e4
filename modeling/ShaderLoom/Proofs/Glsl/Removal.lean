import ShaderLoom.Proofs.Glsl.Idempotence

/-!
# Taking out the declaration of an output

The first declaration of an output stands by itself: its words stand between those of the two parts
of the code, which are what they are without it (`OutputSplit.Cuts.exists_wording`). Conversions of
the version and of the names find it at the same place and with the same name
(`splitOutput?_versionTo100`, `splitOutput?_namesTo100`), and convert the two parts by themselves.
-/

namespace ShaderLoom.Glsl

open Text

/-! ### The declaration and its parts -/

lemma wording_append {front v rest : List Char} (hfront : AtWordStart front)
    (hback : Standalone v rest) :
    wording (front ++ (v ++ rest)) = wording front ++ wording (v ++ rest) := by
  rw [wording, pieces_append hfront hback, List.filterMap_append]
  rfl

lemma wording_dropLineBreak (cs : List Char) : wording (dropLineBreak cs) = wording cs := by
  cases cs with
  | nil => rfl
  | cons c cs =>
    by_cases hc : c = '\n'
    · rw [hc, wording_mark (by decide)]
      rfl
    · rw [dropLineBreak]
      exact fun _ heq => hc (List.cons.inj heq).1

/-- Behind the name of an output, a semicolon ends its declaration. -/
lemma exists_namedOutput {cs name rest : List Char} (h : namedOutput? cs = some (name, rest)) :
    ∃ space back, cs = space ++ (name ++ back) ∧ space ≠ [] ∧ IsGapText space ∧ IsWord name ∧
      AtWordEnd back ∧ follower back = .other ∧ wording back = wording rest := by
  obtain ⟨text, htext, h⟩ := Option.bind_eq_some_iff.1 h
  obtain ⟨⟨word, back⟩, hword, h⟩ := Option.bind_eq_some_iff.1 h
  obtain ⟨below, hbelow, h⟩ := Option.bind_eq_some_iff.1 h
  obtain ⟨rfl, rfl⟩ : word = name ∧ dropLineBreak below = rest := by simpa using h
  obtain ⟨space, rfl, hne, hspace⟩ := exists_gap_of_afterGap? htext
  obtain ⟨hname, hend, rfl⟩ := splitWord?_eq_some hword
  -- there is nothing but a gap in front of the semicolon
  rw [afterChar?_eq_some_iff] at hbelow
  have hback : back = back.takeWhile isGap ++ ';' :: below := by
    rw [← hbelow, List.takeWhile_append_dropWhile]
  have hgap : IsGapText (back.takeWhile isGap) := fun c hc => List.mem_takeWhile_imp hc
  have hother : (afterGap? back).bind afterVariable? = none := by
    refine Option.bind_eq_none_iff.2 fun cs hcs => ?_
    obtain ⟨-, rfl⟩ := afterGap?_eq_some_iff.1 hcs
    rw [hbelow]
    rfl
  refine ⟨space, back, rfl, hne, hspace, hname, hend, ?_, ?_⟩
  · have hcall : back.head? ≠ some '(' := by
      intro hhead
      obtain ⟨cs, rfl⟩ : ∃ cs, back = '(' :: cs := by
        cases back with
        | nil => cases hhead
        | cons c cs => exact ⟨cs, congrArg (· :: cs) (Option.some.inj hhead)⟩
      exact absurd (List.cons.inj hbelow).1 (by decide)
    rw [follower, if_neg hcall, hother]
    rfl
  · rw [wording_dropLineBreak, hback, wording_marks fun c hc => isWordChar_of_isGap (hgap c hc),
      wording_mark (by decide)]

/-- Behind its first word, a declaration of an output has its type and its name, and it stands by
itself. -/
lemma exists_typedOutput {cs name rest : List Char} (h : typedOutput? cs = some (name, rest)) :
    IsWord name ∧ Standalone "out".toList cs ∧
      ∃ behind, wording cs = (behind, "vec4".toList) :: (.other, name) :: wording rest := by
  obtain ⟨text, htext, h⟩ := Option.bind_eq_some_iff.1 h
  obtain ⟨⟨type, behind⟩, htype, h⟩ := Option.bind_eq_some_iff.1 h
  obtain ⟨rfl, hnamed⟩ : type = "vec4".toList ∧ namedOutput? behind = some (name, rest) := by
    simpa using h
  obtain ⟨gap, rfl, hne, hgap⟩ := exists_gap_of_afterGap? htext
  obtain ⟨-, -, rfl⟩ := splitWord?_eq_some htype
  obtain ⟨space, back, rfl, hspaceNe, hspace, hname, hback, hother, hwording⟩ :=
    exists_namedOutput hnamed
  have hend := hspace.atWordEnd hspaceNe (name ++ back)
  have hmark : ∀ d, isGap d = false → afterChar? d (space ++ (name ++ back)) = none := by
    intro d hd
    obtain ⟨c, space, rfl⟩ := List.exists_cons_of_ne_nil hspaceNe
    have hc : c ≠ d := by
      rintro rfl
      rw [hspace c List.mem_cons_self] at hd
      exact absurd hd (by simp)
    simp [afterChar?, hc]
  refine ⟨hname, ?_, (follower (space ++ (name ++ back))).spaced, ?_⟩
  · exact standalone_of_blanks (by decide) (by decide) hne
      (fun c hc => isBlank_of_isGap (hgap c hc)) (by decide) hend (hmark '[' (by decide))
      (hmark ';' (by decide))
  · rw [wording_marks fun c hc => isWordChar_of_isGap (hgap c hc), wording_word (by decide) hend,
      wording_marks fun c hc => isWordChar_of_isGap (hspace c hc), wording_word hname hback, hother,
      hwording]
    rfl

/-- A text cut at its first declaration of an output: the declaration stands by itself. -/
structure OutputSplit.Cuts (d : OutputSplit) (cs : List Char) : Prop where
  start : AtWordStart d.before
  name : IsWord d.name
  declaration : ∃ tail, cs = d.before ++ ("out".toList ++ tail) ∧ Standalone "out".toList tail ∧
    ∃ behind, wording tail = (behind, "vec4".toList) :: (.other, d.name) :: wording d.rest

lemma cuts_of_splitOutput? {cs : List Char} {d : OutputSplit} (h : splitOutput? cs = some d) :
    d.Cuts cs := by
  induction cs using text_induction generalizing d with
  | nil => cases h
  | mark c cs hc ih =>
    rw [splitOutput?_mark hc] at h
    obtain ⟨n, hn, rfl⟩ := Option.map_eq_some_iff.1 h
    obtain ⟨hstart, hname, tail, rfl, hdeclaration⟩ := ih hn
    have hmark : AtWordStart [c] := by simp [AtWordStart, hc]
    exact ⟨hmark.append hstart, hname, tail, rfl, hdeclaration⟩
  | word w rest hw hrest ih =>
    rw [splitOutput?_word hw hrest, outputDeclaration?_word hw hrest] at h
    rcases Option.or_eq_some_iff.1 h with h | ⟨-, h⟩
    · obtain ⟨s, hs, rfl⟩ := Option.map_eq_some_iff.1 h
      obtain ⟨rfl, htyped⟩ : w = "out".toList ∧ typedOutput? rest = some (s.1, s.2) := by
        simpa using hs
      obtain ⟨hname, hstandalone, hwording⟩ := exists_typedOutput htyped
      exact ⟨rfl, hname, rest, rfl, hstandalone, hwording⟩
    · obtain ⟨n, hn, rfl⟩ := Option.map_eq_some_iff.1 h
      obtain ⟨hstart, hname, tail, rfl, hdeclaration⟩ := ih hn
      have hne : n.before ≠ [] := by
        intro hnil
        rw [hnil, List.nil_append] at hrest
        exact IsWord.not_atWordEnd (by decide) hrest
      refine ⟨(atWordStart_append w hne).2 hstart, hname, tail, ?_, hdeclaration⟩
      simp only [OutputSplit.prepend, List.append_assoc]

/-- The wording of code that declares an output: the declaration stands between its parts. -/
lemma OutputSplit.Cuts.exists_wording {cs : List Char} {d : OutputSplit} (h : d.Cuts cs) :
    ∃ behind behind', wording cs = wording d.before ++
      (behind, "out".toList) :: (behind', "vec4".toList) :: (.other, d.name) :: wording d.rest := by
  obtain ⟨hstart, -, tail, rfl, hstandalone, behind, hbehind⟩ := h
  refine ⟨(follower tail).spaced, behind, ?_⟩
  rw [wording_append hstart hstandalone, wording_word hstandalone.word hstandalone.mark, hbehind]

/-! ### Converted names -/

/-- The second code is the first one with the names of the older dialect. -/
structure ConvertedNames (cs ds : List Char) : Prop where
  respelled : Respelled (· ∉ touchedNames .fragment) cs ds
  wording : wording ds = (wording cs).map (nameTo100 .fragment).onWord

/-- A conversion of names finds the declaration of an output at the same place, with the same
name. -/
theorem splitOutput?_namesTo100 {cs : List Char} {d : OutputSplit} (h : splitOutput? cs = some d) :
    ∃ d', splitOutput? (namesTo100 .fragment cs) = some d' ∧ d'.name = d.name ∧
      ConvertedNames d.before d'.before ∧ ConvertedNames d.rest d'.rest := by
  have hsplit := (respelled_namesTo100 .fragment cs).splitOutput? (by decide) (by decide)
  rw [h] at hsplit
  generalize hd' : splitOutput? (namesTo100 .fragment cs) = x at hsplit
  cases hsplit with
  | @some _ d' halike =>
    obtain ⟨out, type, hwording⟩ := (cuts_of_splitOutput? h).exists_wording
    obtain ⟨out', type', hwording'⟩ := (cuts_of_splitOutput? hd').exists_wording
    -- the parts in front have as many words, so that both texts have the same words behind them
    rw [wording_namesTo100, hwording, List.map_append, List.map_cons, List.map_cons, List.map_cons]
      at hwording'
    have hlength := halike.before.length_wording
    rw [← List.length_map (nameTo100 .fragment).onWord] at hlength
    obtain ⟨hbefore, hbehind⟩ := List.append_inj hwording' hlength
    obtain ⟨-, hbehind⟩ := List.cons.inj hbehind
    obtain ⟨-, hbehind⟩ := List.cons.inj hbehind
    obtain ⟨hname, hrest⟩ := List.cons.inj hbehind
    exact ⟨d', rfl, (congrArg Prod.snd hname).symm, ⟨halike.before, hbefore.symm⟩,
      ⟨halike.rest, hrest.symm⟩⟩

/-! ### The converted version -/

/-- A declaration of an output is no part of a version. -/
lemma afterVersion300?_append_eq_none {front tail : List Char} (hfront : AtWordStart front)
    (htail : AtWordEnd tail) (h : afterVersion300? front = none) :
    afterVersion300? (front ++ ("out".toList ++ tail)) = none := by
  have hisWord : IsWord "out".toList := by decide
  cases hwhole : afterVersion300? (front ++ ("out".toList ++ tail)) with
  | none => rfl
  | some behind =>
    obtain ⟨line, hcs, hline, hread⟩ := afterVersion300?_cut hwhole
    have hout : IsWordAt "out".toList front (line ++ ("es".toList ++ behind)) :=
      ⟨tail, hcs.symm, hfront, htail⟩
    rcases (isWordAt_append hisWord hline.start).1 hout with hhere | ⟨front, rfl, hthere⟩
    · -- in front of the last word of the version stand other words only
      obtain ⟨after, hmem⟩ :=
        (hasWord_iff hisWord).1 ((hasWord_iff_exists_isWordAt hisWord).2 ⟨front, hhere⟩)
      exact absurd (hline.words _ after hmem) (by decide)
    · -- behind its last word, the version has been read
      have hes := isWord_append_takeWhile (w := "es".toList) (by decide) behind
      rw [← @List.takeWhile_append_dropWhile _ isWordChar behind, ← List.append_assoc] at hthere
      rcases (isWordAt_word hisWord hes (atWordEnd_dropWhile behind)).1 hthere with
        ⟨-, heq⟩ | ⟨below, rfl, -⟩
      · simp at heq
      · rw [List.append_assoc, hread] at h
        cases h

lemma versionTo100_append {front tail : List Char} (hfront : AtWordStart front)
    (htail : AtWordEnd tail) :
    versionTo100 (front ++ ("out".toList ++ tail)) =
      versionTo100 front ++ ("out".toList ++ tail) := by
  cases h : afterVersion300? front with
  | none =>
    rw [versionTo100_eq_self h,
      versionTo100_eq_self (afterVersion300?_append_eq_none hfront htail h)]
  | some behind =>
    obtain ⟨line, rfl, -, hread⟩ := afterVersion300?_cut h
    rw [List.append_assoc, List.append_assoc, versionTo100, hread, versionTo100, hread]
    simp only [List.append_assoc]

/-- A declaration of an output is the first one before and after a conversion of the version. -/
lemma splitOutput?_versionTo100 {cs : List Char} {d : OutputSplit} (h : splitOutput? cs = some d) :
    splitOutput? (versionTo100 cs) = some ⟨versionTo100 d.before, d.name, d.rest⟩ := by
  obtain ⟨hstart, -, tail, rfl, hstandalone, -⟩ := cuts_of_splitOutput? h
  obtain ⟨before, name, rest⟩ := d
  rw [versionTo100_append hstart hstandalone.mark]
  obtain ⟨front, front', below, heq, hconverted, hfront, hfront'⟩ := versionTo100_cut before
  simp only at heq hconverted hstart h ⊢
  subst heq
  rw [List.append_assoc, (hfront.append hstart _).splitOutput?] at h
  obtain ⟨e, he, heq⟩ := Option.map_eq_some_iff.1 h
  obtain ⟨hbefore, rfl, rfl⟩ := OutputSplit.mk.inj heq
  have hstart' := atWordStart_versionTo100 hstart
  rw [hconverted] at hstart' ⊢
  rw [List.append_assoc, (hfront'.append hstart' _).splitOutput?, he,
    ← List.append_cancel_left hbefore]
  rfl

/-- In front of the declaration stands no version where the code has none. -/
lemma versionTo100_before {cs : List Char} {d : OutputSplit} (hd : splitOutput? cs = some d)
    (h : afterVersion300? cs = none) : versionTo100 d.before = d.before := by
  obtain ⟨-, -, tail, rfl, -⟩ := cuts_of_splitOutput? hd
  refine versionTo100_eq_self ?_
  cases hbefore : afterVersion300? d.before with
  | none => rfl
  | some behind =>
    obtain ⟨line, heq, -, hread⟩ := afterVersion300?_cut hbefore
    rw [heq, List.append_assoc, List.append_assoc, hread] at h
    cases h

end ShaderLoom.Glsl
