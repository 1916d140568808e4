import ShaderLoom.Proofs.Glsl.Respelling

/-!
# The output of the fragment stage

A declaration of an output and the header of the main function are found again in renamed code, if
the renaming keeps the words that they consist of. So the output is declared at the same place
before and after a renaming (`declareOutput_renameWords`). Back in the older dialect, that
declaration is the first one (`splitOutput?_declareOutput`).
-/

namespace ShaderLoom.Glsl

open Text

/-! ### Renamed code -/

section Rename

variable {f : Renaming} (hf : f.KeepsWords)
include hf

/-- Renamed code declares an output exactly if the code does. -/
lemma isSome_splitOutput?_renameWords (hout : f.Keeps "out".toList)
    (htype : f.Keeps "vec4".toList) (cs : List Char) :
    (splitOutput? (renameWords f cs)).isSome = (splitOutput? cs).isSome :=
  ((respelled_renameWords hf (fun _ hkept => hkept) cs).isSome_splitOutput? hout htype).symm

lemma isSome_afterVoid?_renameWords (hmain : f.Keeps "main".toList) (cs : List Char) :
    (afterVoid? (renameWords f cs)).isSome = (afterVoid? cs).isSome :=
  (isSome_of_rel ((respelled_renameWords hf (fun _ hkept => hkept) cs).afterVoid? hmain)).symm

/-- If the first header begins in the first word of the code, and at the start of a word, then it
begins the code and the renamed code. -/
lemma splitMain?_renameWords_here (hmain : f.Keeps "main".toList) (hvoid : f.Keeps "void".toList)
    {u rest : List Char} (hw : IsWord (u ++ "void".toList)) (hrest : AtWordEnd rest)
    (hheader : (afterVoid? rest).isSome) {m : MainSplit}
    (h : splitMain? (u ++ "void".toList ++ rest) = some m) (hstart : AtWordStart m.before) :
    ∃ m', splitMain? (renameWords f (u ++ "void".toList ++ rest)) = some m' ∧
      m'.before = renameWords f m.before ∧
      m'.header ++ m'.body = renameWords f (m.header ++ m.body) := by
  have hu : ∀ c ∈ u, isWordChar c = true := fun c hc => hw.all c (by simp [hc])
  obtain ⟨n, hn, hbefore, hbehind⟩ := splitMain?_void hu hrest hheader
  obtain rfl : n = m := by
    rw [List.append_assoc, hn] at h
    exact Option.some.inj h
  -- the word is `void`, since a longer one would reach the cut
  obtain rfl : u = [] := by
    by_contra hne
    rw [hbefore] at hstart
    have hreaches : AtWordStart (u ++ []) := by simpa using hstart
    exact hreaches.ne_nil ⟨hne, hu⟩ rfl
  have hafter := isSome_afterVoid?_renameWords hf hmain rest
  obtain ⟨n', hn', hbefore', hbehind'⟩ :=
    splitMain?_void (u := []) (by simp) ((atWordEnd_renameWords hf).2 hrest)
      (hafter.trans hheader)
  have hkept := renameWords_word (f := f) hw hrest
  rw [List.nil_append, hvoid.apply] at hkept
  refine ⟨n', ?_, by rw [hbefore, hbefore']; rfl, ?_⟩
  · rw [List.nil_append, hkept]
    exact hn'
  · rw [hbehind, hbehind', hkept]

/-- Where the first header of a main function starts with a word, the renamed code is cut there
too. -/
theorem splitMain?_renameWords (hmain : f.Keeps "main".toList)
    (hvoid : ∀ v, "void".toList <:+ v → f.Keeps v) {cs : List Char} {m : MainSplit}
    (h : splitMain? cs = some m) (hstart : AtWordStart m.before) :
    ∃ m', splitMain? (renameWords f cs) = some m' ∧ m'.before = renameWords f m.before ∧
      m'.header ++ m'.body = renameWords f (m.header ++ m.body) := by
  induction cs using text_induction generalizing m with
  | nil => cases h
  | mark c cs hc ih =>
    rw [splitMain?_mark hc] at h
    obtain ⟨n, hn, rfl⟩ := Option.map_eq_some_iff.1 h
    obtain ⟨n', hn', hbefore, hbehind⟩ :=
      ih hn (hstart.of_suffix (List.suffix_append [c] n.before))
    refine ⟨n'.prepend [c], ?_, ?_, hbehind⟩
    · rw [renameWords_mark hc, splitMain?_mark hc, hn']
      rfl
    · show [c] ++ n'.before = renameWords f (c :: n.before)
      rw [hbefore, renameWords_mark hc]
      rfl
  | word w rest hw hrest ih =>
    have hrest' := (atWordEnd_renameWords hf).2 hrest
    have hafter := isSome_afterVoid?_renameWords hf hmain rest
    by_cases hhere : ∃ u, w = u ++ "void".toList ∧ (afterVoid? rest).isSome
    · obtain ⟨u, rfl, hheader⟩ := hhere
      exact splitMain?_renameWords_here hf hmain (hvoid _ (List.suffix_refl _)) hw hrest hheader h
        hstart
    · have hpassed : ∀ u, w = u ++ "void".toList → afterVoid? rest = none := fun u hu => by
        by_contra hne
        exact hhere ⟨u, hu, Option.isSome_iff_ne_none.2 hne⟩
      have hpassed' : ∀ u, f (follower rest) w = u ++ "void".toList →
          afterVoid? (renameWords f rest) = none := by
        intro u hu
        have hsame : w = u ++ "void".toList := (hvoid _ (List.suffix_append _ _) _ _).1 hu
        rw [hpassed u hsame] at hafter
        simpa using hafter
      rw [splitMain?_word hw.all hrest hpassed] at h
      obtain ⟨n, hn, rfl⟩ := Option.map_eq_some_iff.1 h
      obtain ⟨n', hn', hbefore, hbehind⟩ :=
        ih hn (hstart.of_suffix (List.suffix_append w n.before))
      refine ⟨n'.prepend (f (follower rest) w), ?_, ?_, hbehind⟩
      · rw [renameWords_word hw hrest, splitMain?_word (hf _ _ hw).all hrest' hpassed', hn']
        rfl
      · have hbefore' := hstart.of_suffix (List.suffix_append w n.before)
        have hne : n.before ≠ [] := AtWordStart.ne_nil hw hstart
        obtain ⟨r, hheader, hvoid⟩ := splitMain?_header hn
        have hwhole := splitMain?_eq_some hn
        rw [List.append_assoc, hheader] at hwhole
        subst hwhole
        show f _ w ++ n'.before = renameWords f (w ++ n.before)
        rw [hbefore, follower_append hbefore' (standalone_void hvoid) hne,
          renameWords_word hw ((atWordEnd_append hne _).1 hrest)]

end Rename

/-! ### Cut code -/

section Cut

variable {front v rest : List Char} (hback : Standalone v rest)
include hback

lemma isSome_namedOutput?_append (hfront : AtWordStart front) :
    (namedOutput? (front ++ (v ++ rest))).isSome = (namedOutput? front).isSome := by
  rw [namedOutput?, namedOutput?, afterGap?_append hback.word]
  cases hcs : afterGap? front with
  | none => rfl
  | some cs =>
    simp only [Option.map_some, Option.bind_some]
    rw [splitWord?_append_bind (hfront.of_suffix (suffix_of_afterGap? hcs)) hback.word hback.mark
      (by simp [hback.notOutput])]
    cases splitWord? cs with
    | none => rfl
    | some s =>
      simp only [Option.bind_some]
      rw [(dropWhile_isGap_append hback.word).1, afterChar?_append hback.word (by decide)]
      cases afterChar? ';' (s.2.dropWhile isGap) <;> rfl

lemma isSome_typedOutput?_append (hfront : AtWordStart front) :
    (typedOutput? (front ++ (v ++ rest))).isSome = (typedOutput? front).isSome := by
  rw [typedOutput?, typedOutput?, afterGap?_append hback.word]
  cases hcs : afterGap? front with
  | none => rfl
  | some cs =>
    have hcs' := hfront.of_suffix (suffix_of_afterGap? hcs)
    simp only [Option.map_some, Option.bind_some]
    rw [splitWord?_append_bind hcs' hback.word hback.mark (if_neg hback.notType)]
    cases hs : splitWord? cs with
    | none => rfl
    | some s =>
      simp only [Option.bind_some]
      split
      · exact isSome_namedOutput?_append hback (hcs'.of_suffix (suffix_of_splitWord? hs))
      · rfl

lemma isSome_outputDeclaration?_append (hfront : AtWordStart front) (hne : front ≠ []) :
    (outputDeclaration? (front ++ (v ++ rest))).isSome = (outputDeclaration? front).isSome := by
  cases front using text_induction with
  | nil => exact absurd rfl hne
  | mark c cs hc => rw [List.cons_append, outputDeclaration?_mark hc, outputDeclaration?_mark hc]
  | word w cs hw hcs =>
    have hend := (atWordEnd_append (hfront.ne_nil hw) (v ++ rest)).2 hcs
    have hcs' := hfront.of_suffix (List.suffix_append w cs)
    rw [List.append_assoc, outputDeclaration?_word hw hend, outputDeclaration?_word hw hcs]
    split
    · exact isSome_typedOutput?_append hback hcs'
    · rfl

/-- No declaration of an output reaches over the joint. -/
lemma isSome_splitOutput?_append (hfront : AtWordStart front) :
    (splitOutput? (front ++ (v ++ rest))).isSome =
      ((splitOutput? front).isSome || (splitOutput? (v ++ rest)).isSome) := by
  induction front using text_induction with
  | nil => rfl
  | mark c cs hc ih =>
    rw [List.cons_append, splitOutput?_mark hc, splitOutput?_mark hc, Option.isSome_map,
      Option.isSome_map, ih (hfront.of_suffix (List.suffix_cons c cs))]
  | word w cs hw hcs ih =>
    have hend := (atWordEnd_append (hfront.ne_nil hw) (v ++ rest)).2 hcs
    have hcs' := hfront.of_suffix (List.suffix_append w cs)
    have hdeclares := isSome_outputDeclaration?_append hback hfront (by simp [hw.ne_nil])
    rw [List.append_assoc] at hdeclares ⊢
    rw [splitOutput?_word hw hend, splitOutput?_word hw hcs]
    simp only [Option.isSome_or, Option.isSome_map, ih hcs', hdeclares, Bool.or_assoc]

/-- Where nothing in front of the joint declares an output, the first declaration stands behind
it. -/
lemma splitOutput?_append (hfront : AtWordStart front) (h : splitOutput? front = none) :
    splitOutput? (front ++ (v ++ rest)) =
      (splitOutput? (v ++ rest)).map (OutputSplit.prepend front) := by
  induction front using text_induction with
  | nil => simp
  | mark c cs hc ih =>
    rw [splitOutput?_mark hc, Option.map_eq_none_iff] at h
    rw [List.cons_append, splitOutput?_mark hc, ih (hfront.of_suffix (List.suffix_cons c cs)) h,
      Option.map_map, OutputSplit.prepend_comp]
    rfl
  | word w cs hw hcs ih =>
    have hend := (atWordEnd_append (hfront.ne_nil hw) (v ++ rest)).2 hcs
    have hcs' := hfront.of_suffix (List.suffix_append w cs)
    have hdeclares := isSome_outputDeclaration?_append hback hfront (by simp [hw.ne_nil])
    rw [splitOutput?_word hw hcs, Option.or_eq_none_iff, Option.map_eq_none_iff,
      Option.map_eq_none_iff] at h
    rw [h.1, List.append_assoc, Option.isSome_none, Option.isSome_eq_false_iff,
      Option.isNone_iff_eq_none] at hdeclares
    rw [List.append_assoc, splitOutput?_word hw hend, hdeclares, ih hcs' h.2, Option.map_map,
      OutputSplit.prepend_comp]
    rfl

end Cut

/-! ### The declared output -/

/-- The line that declares the default output. -/
def outputLine : List Char := "out vec4 ".toList ++ defaultOutput ++ ";\n".toList

/-- The words of the line that declares the default output. -/
def outputWords : List (List Char) := ["out".toList, "vec4".toList, defaultOutput]

lemma outputLine_append (rest : List Char) :
    outputLine ++ rest =
      "out".toList ++ (" ".toList ++ ("vec4".toList ++ (" fragmentColor;\n".toList ++ rest))) := rfl

lemma pieces_outputLine (rest : List Char) :
    pieces (outputLine ++ rest) =
      [.word "out".toList (.variableAfter [' ']), .mark ' ', .word "vec4".toList .other, .mark ' ',
        .word defaultOutput .other, .mark ';', .mark '\n'] ++ pieces rest := rfl

lemma standalone_outputLine (rest : List Char) :
    Standalone "out".toList
      (" ".toList ++ ("vec4".toList ++ (" fragmentColor;\n".toList ++ rest))) :=
  standalone_of_blanks (by decide) (by decide) (by decide)
    (List.forall_mem_singleton.2 (by decide)) (by decide) rfl rfl rfl

lemma splitOutput?_outputLine (rest : List Char) :
    splitOutput? (outputLine ++ rest) = some ⟨[], defaultOutput, rest⟩ := by
  have hdeclares : outputDeclaration? (outputLine ++ rest) = some (defaultOutput, rest) := rfl
  rw [outputLine_append] at hdeclares ⊢
  rw [splitOutput?_word (by decide) (standalone_outputLine rest).mark, hdeclares]
  rfl

section Declare

variable {f : Renaming} {cs : List Char} {m : MainSplit}

lemma renameWords_outputLine (hline : ∀ w ∈ outputWords, ∀ behind, f behind w = w)
    (rest : List Char) : renameWords f (outputLine ++ rest) = outputLine ++ renameWords f rest := by
  have hout := hline "out".toList (by decide) (.variableAfter [' '])
  have htype := hline "vec4".toList (by decide) .other
  have hname := hline defaultOutput (by decide) .other
  rw [renameWords, pieces_outputLine, List.flatMap_append, ← renameWords]
  simp only [List.flatMap_cons, List.flatMap_nil, Piece.rename, Piece.text, hout, htype, hname]
  rfl

lemma declareOutput_of_splitMain? (h : splitMain? cs = some m) :
    declareOutput cs = m.before ++ (outputLine ++ (m.header ++ m.body)) := by
  have hassoc : ∀ a b c d e f : List Char,
      a ++ b ++ c ++ d ++ e ++ f = a ++ (b ++ c ++ d ++ (e ++ f)) := by simp
  rw [declareOutput, h]
  exact hassoc ..

/-- Behind a version line, the output is declared where it was. -/
lemma declareOutput_pass {front : List Char} (hfront : OfVersionWords front)
    (h : splitMain? cs = some m) : declareOutput (front ++ cs) = front ++ declareOutput cs := by
  have hpass := hfront.splitMain? cs
  rw [h] at hpass
  rw [declareOutput_of_splitMain? hpass, declareOutput_of_splitMain? h]
  exact List.append_assoc ..

variable (h : splitMain? cs = some m) (hstart : AtWordStart m.before)
include h hstart

/-- The declaration has its own pieces, and leaves the others as they are. -/
lemma mem_pieces_declareOutput {w : List Char} {behind : Follower}
    (hw : .word w behind ∈ pieces (declareOutput cs)) :
    .word w behind ∈ pieces cs ∨ w ∈ outputWords := by
  obtain ⟨rest, hheader, hvoid⟩ := splitMain?_header h
  have hwhole := splitMain?_eq_some h
  rw [List.append_assoc, hheader] at hwhole
  rw [declareOutput_of_splitMain? h, outputLine_append,
    pieces_append hstart (standalone_outputLine _), ← outputLine_append, pieces_outputLine,
    hheader] at hw
  rw [hwhole, pieces_append hstart (standalone_void hvoid)]
  simp only [List.mem_append, List.mem_cons, Piece.word.injEq, reduceCtorEq, List.not_mem_nil,
    or_false, false_or] at hw ⊢
  rcases hw with hw | (⟨rfl, -⟩ | ⟨rfl, -⟩ | ⟨rfl, -⟩) | hw
  · exact .inl (.inl hw)
  · exact .inr (by decide)
  · exact .inr (by decide)
  · exact .inr (by decide)
  · exact .inl (.inr hw)

/-- The output is declared at the same place in renamed code. -/
theorem declareOutput_renameWords (hf : f.KeepsWords) (hmain : f.Keeps "main".toList)
    (hvoid : ∀ v, "void".toList <:+ v → f.Keeps v)
    (hline : ∀ w ∈ outputWords, ∀ behind, f behind w = w) :
    declareOutput (renameWords f cs) = renameWords f (declareOutput cs) := by
  obtain ⟨m', hm', hbefore, hbehind⟩ := splitMain?_renameWords hf hmain hvoid h hstart
  rw [declareOutput_of_splitMain? hm', hbefore, hbehind, declareOutput_of_splitMain? h,
    outputLine_append, outputLine_append, renameWords_append hstart (standalone_outputLine _),
    ← outputLine_append, ← outputLine_append, renameWords_outputLine hline]

/-- Where no output was declared, the declaration is the first one, and without it the code is the
renamed one. -/
theorem splitOutput?_declareOutput (hf : f.KeepsWords) (hout : f.Keeps "out".toList)
    (htype : f.Keeps "vec4".toList) (hline : ∀ w ∈ outputWords, ∀ behind, f behind w = w)
    (hnone : splitOutput? cs = none) :
    ∃ s, splitOutput? (renameWords f (declareOutput cs)) = some s ∧ s.name = defaultOutput ∧
      s.before ++ s.rest = renameWords f cs := by
  obtain ⟨rest, hheader, hvoid⟩ := splitMain?_header h
  have hwhole := splitMain?_eq_some h
  rw [List.append_assoc, hheader] at hwhole
  have hbefore : splitOutput? (renameWords f m.before) = none := by
    have hsome := isSome_splitOutput?_append (standalone_void hvoid) hstart
    rw [← hwhole, hnone, Option.isSome_none, eq_comm, Bool.or_eq_false_iff] at hsome
    have hrenamed := isSome_splitOutput?_renameWords hf hout htype m.before
    rw [hsome.1] at hrenamed
    simpa using hrenamed
  refine ⟨⟨renameWords f m.before, defaultOutput, renameWords f (m.header ++ m.body)⟩, ?_, rfl, ?_⟩
  · rw [declareOutput_of_splitMain? h, outputLine_append,
      renameWords_append hstart (standalone_outputLine _), ← outputLine_append,
      renameWords_outputLine hline, outputLine_append,
      splitOutput?_append (standalone_outputLine _) (atWordStart_renameWords hf hstart) hbefore,
      ← outputLine_append, splitOutput?_outputLine]
    simp [OutputSplit.prepend]
  · show renameWords f m.before ++ renameWords f (m.header ++ m.body) = _
    rw [hheader, ← renameWords_append hstart (standalone_void hvoid), ← hwhole]

end Declare

end ShaderLoom.Glsl
