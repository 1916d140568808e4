import ShaderLoom.Proofs.Glsl.Respelling
import ShaderLoom.Proofs.Glsl.RoundTrip

/-!
# The declaration of the default output

A fragment stage of the older dialect that uses the built-in output gets a declaration of the
default one in front of the header of its main function. The version line and the names are
converted before that, which moves the header but leaves the words in front of it
(`exists_header_converted`). The declaration comes before all uses exactly if the source uses the
built-in output nowhere in front of the header (`transpile_declares_output`): a function in front of
the main function that uses it uses the default output undeclared.
-/

namespace ShaderLoom.Glsl

open Text

/-! ### The header of a converted source -/

/-- A cut in a word stays one without a text in front of it that ends between words. -/
lemma CutInWord.of_append {back cs front inner : List Char} (hback : AtWordStart back)
    (h : CutInWord (back ++ cs) front inner) :
    ∃ front', front = back ++ front' ∧ CutInWord cs front' inner := by
  rcases List.append_eq_append_iff.1 h.eq with ⟨front', rfl, heq⟩ | ⟨rest, rfl, heq⟩
  · exact ⟨front', rfl, heq, h.start.of_suffix (List.suffix_append _ _), h.inner⟩
  · -- what is left of the text in front belongs to a word, so that nothing is
    have hrest : rest = [] := by
      by_contra hne
      have hword : IsWord rest := ⟨hne, fun c hc => h.inner c (heq ▸ List.mem_append_left _ hc)⟩
      have hend := hback.of_suffix (List.suffix_append front rest)
      rw [← List.append_nil rest] at hend
      exact hend.ne_nil hword rfl
    subst hrest
    exact ⟨[], by simp, by simpa using heq.symm, rfl, h.inner⟩

variable {cs : List Char} {m : MainSplit}

/-- A source that declares no output declares none behind its version line, in respelled names. -/
lemma splitOutput?_converted (h : splitOutput? cs = none) :
    splitOutput? (namesTo300 .fragment (versionTo300 cs)) = none := by
  obtain ⟨line, line', rest, rfl, hconverted, hline, hline'⟩ := versionTo300_cut cs
  rw [hline.splitOutput?, Option.map_eq_none_iff] at h
  have hsome := (respelled_namesTo300 .fragment (line' ++ rest)).isSome_splitOutput? (by decide)
    (by decide)
  rw [hline'.splitOutput?, h] at hsome
  rw [hconverted]
  simpa using hsome.symm

lemma hasWord_converted {w : List Char} (hw : IsWord w) (hversion : w ∉ versionWords)
    (htouched : w ∉ touchedNames .fragment) (cs : List Char) :
    hasWord w (namesTo300 .fragment (versionTo300 cs)) = true ↔ hasWord w cs = true := by
  obtain ⟨line, line', rest, rfl, hconverted, hline, hline'⟩ := versionTo300_cut cs
  rw [hconverted, ← (respelled_namesTo300 .fragment _).hasWord_iff hw htouched,
    hline.hasWord hw hversion, hline'.hasWord hw hversion]

/-- The header of the main function begins inside of the same word before and after the conversion
of the version line and the names, and behind the same words, apart from those that change. -/
theorem exists_header_converted (h : splitMain? cs = some m) :
    ∃ m' front front' inner, splitMain? (namesTo300 .fragment (versionTo300 cs)) = some m' ∧
      CutInWord m.before front inner ∧ CutInWord m'.before front' inner ∧
      ∀ w, IsWord w → w ∉ versionWords → w ∉ touchedNames .fragment →
        (hasWord w front' = true ↔ hasWord w front = true) := by
  obtain ⟨line, line', rest, rfl, hconverted, hline, hline'⟩ := versionTo300_cut cs
  rw [hline.splitMain?] at h
  obtain ⟨n, hn, rfl⟩ := Option.map_eq_some_iff.1 h
  have hmoved : splitMain? (line' ++ rest) = some (n.prepend line') := by
    rw [hline'.splitMain?, hn]
    rfl
  obtain ⟨m', front, front', inner, hm', hcut, hcut', hrespelled⟩ :=
    (respelled_namesTo300 .fragment _).splitMain? (by decide)
      (fun _ => untouched_of_void _) hmoved
  obtain ⟨front, rfl, hrest⟩ := CutInWord.of_append hline'.start hcut
  refine ⟨m', line ++ front, front', inner, hconverted ▸ hm',
    hrest.prepend (hline.start.append hrest.start), hcut', fun w hw hversion htouched => ?_⟩
  rw [← hrespelled.hasWord_iff hw htouched, hline.hasWord hw hversion, hline'.hasWord hw hversion]

/-! ### Uses of the output -/

/-- Behind the text in front of the header of the main function, the built-in output stands exactly
if it does not stand in front of the word that the header begins in. -/
lemma uses_behind_header_iff {front inner : List Char} (h : splitMain? cs = some m)
    (hcut : CutInWord m.before front inner) :
    (∀ before, IsWordAt builtinOutput before cs → m.before <+: before) ↔
      hasWord builtinOutput front = false := by
  obtain ⟨rest, hheader, hvoid⟩ := splitMain?_header h
  have hword : IsWord (inner ++ "void".toList) := isWord_append hcut.inner (by decide)
  have hwhole : cs = front ++ (inner ++ "void".toList ++ rest) := by
    rw [splitMain?_eq_some h, List.append_assoc, hheader, hcut.eq, List.append_assoc,
      List.append_assoc]
  rw [hwhole]
  refine forall_isWordAt_append_iff (by decide) hcut.start (fun before hbefore => ?_)
    fun before hprefix => ?_
  · rcases (isWordAt_word (by decide) hword (standalone_void hvoid).mark).1 hbefore with
      ⟨-, heq⟩ | ⟨before, rfl, -⟩
    · exact absurd ⟨inner, heq.symm⟩ (by decide : ¬ "void".toList <:+ builtinOutput)
    · exact ⟨"void".toList ++ before, by simp [hcut.eq]⟩
  · rw [hcut.eq] at hprefix
    exact ((List.prefix_append front inner).trans hprefix).length_le

/-- All uses of the default output stand behind its declaration, whose place is behind the text
`front`. -/
def DeclaredFirst (front cs : List Char) : Prop :=
  ∀ before, IsWordAt defaultOutput before cs →
    before = front ++ "out vec4 ".toList ∨ front ++ "out vec4 fragmentColor;".toList <+: before

/-- In the line that declares the default output it stands once, also if a part of a word stands
directly in front of the line. -/
lemma isWordAt_outputLine {inner before behind : List Char}
    (hinner : ∀ c ∈ inner, isWordChar c = true)
    (h : IsWordAt defaultOutput before (inner ++ (outputLine ++ behind))) :
    before = inner ++ "out vec4 ".toList ∨
      inner ++ "out vec4 fragmentColor;".toList <+: before := by
  have hdefault : IsWord defaultOutput := by decide
  have hout : IsWord (inner ++ "out".toList) := isWord_append hinner (by decide)
  rw [outputLine_append, ← List.append_assoc inner] at h
  rcases (isWordAt_word hdefault hout (standalone_outputLine behind).mark).1 h with
    ⟨-, heq⟩ | ⟨before, rfl, hgap⟩
  · exact absurd ⟨inner, heq.symm⟩ (by decide : ¬ "out".toList <:+ defaultOutput)
  obtain ⟨before, rfl, htype⟩ := (isWordAt_mark (c := ' ') hdefault (by decide)).1 hgap
  rcases (isWordAt_word (v := "vec4".toList) hdefault (by decide) (by rfl)).1 htype with
    ⟨-, heq⟩ | ⟨before, rfl, hgap'⟩
  · exact absurd heq (by decide)
  obtain ⟨before, rfl, hname⟩ := (isWordAt_mark (c := ' ') hdefault (by decide)).1 hgap'
  rcases (isWordAt_word (v := defaultOutput) hdefault hdefault (by rfl)).1 hname with
    ⟨rfl, -⟩ | ⟨before, rfl, hend⟩
  · exact .inl (List.append_assoc ..)
  obtain ⟨before, rfl, -⟩ := (isWordAt_mark (c := ';') hdefault (by decide)).1 hend
  refine .inr ⟨before, ?_⟩
  rw [List.append_assoc, List.append_assoc]
  rfl

/-- The default output is declared first exactly if it does not stand in front of the word that the
declaration begins in. -/
lemma declaredFirst_iff {front inner behind : List Char} (hfront : AtWordStart front)
    (hinner : ∀ c ∈ inner, isWordChar c = true) :
    DeclaredFirst (front ++ inner) (front ++ (inner ++ (outputLine ++ behind))) ↔
      hasWord defaultOutput front = false := by
  refine forall_isWordAt_append_iff (by decide) hfront (fun before h => ?_) fun before h => ?_
  · rw [List.append_assoc, List.append_assoc]
    refine (isWordAt_outputLine hinner h).imp (fun heq => by rw [heq]) fun hprefix => ?_
    exact (List.prefix_append_right_inj front).2 hprefix
  · have hprefix : front <+: before := by
      rcases h with rfl | hbehind
      · exact ⟨_, (List.append_assoc ..).symm⟩
      · rw [List.append_assoc] at hbehind
        exact (List.prefix_append _ _).trans hbehind
    exact hprefix.length_le

/-! ### The declared output comes first -/

/-- Renaming a word wherever it stands treats both sides of a cut between words alike. -/
lemma renameWords_wordRenaming_append (old new : List Char) {front : List Char}
    (hfront : AtWordStart front) (cs : List Char) :
    renameWords (wordRenaming old new) (front ++ cs) =
      renameWords (wordRenaming old new) front ++ renameWords (wordRenaming old new) cs := by
  induction front using text_induction with
  | nil => rfl
  | mark c front hc ih =>
    rw [List.cons_append, renameWords_mark hc, renameWords_mark hc,
      ih (hfront.of_suffix (List.suffix_cons c front)), List.cons_append]
  | word w front hw hend ih =>
    have hend' := (atWordEnd_append (hfront.ne_nil hw) cs).2 hend
    rw [List.append_assoc, renameWords_word hw hend', renameWords_word hw hend,
      ih (hfront.of_suffix (List.suffix_append w front)), List.append_assoc]
    rfl

/-- The new name stands where it or the old one stood. -/
lemma hasWord_wordRenaming {old new : List Char} (hnew : IsWord new) (hold : IsWord old)
    (cs : List Char) :
    hasWord new (renameWords (wordRenaming old new) cs) = true ↔
      hasWord old cs = true ∨ hasWord new cs = true := by
  induction cs using text_induction with
  | nil => simp [not_hasWord_nil hnew, not_hasWord_nil hold]
  | mark c cs hc ih =>
    rw [renameWords_mark hc, hasWord_mark hnew hc, hasWord_mark hnew hc, hasWord_mark hold hc, ih]
  | word w rest hw hrest ih =>
    have hkeeps : (wordRenaming old new).KeepsWords := wordRenaming_keepsWords hnew
    have hhere : new = wordRenaming old new (follower rest) w ↔ old = w ∨ new = w := by
      rw [wordRenaming]
      split
      · next hword => exact iff_of_true rfl (.inl hword.symm)
      · next hword => exact (or_iff_right fun heq => hword heq.symm).symm
    rw [renameWords_word hw hrest,
      hasWord_word hnew (hkeeps _ _ hw) ((atWordEnd_renameWords hkeeps).2 hrest),
      hasWord_word hnew hw hrest, hasWord_word hold hw hrest, hhere, ih]
    exact or_or_or_comm

/-- The renaming of the built-in output to the default one. -/
abbrev outputRenaming : Renaming := wordRenaming builtinOutput defaultOutput

lemma outputRenaming_keepsWords : outputRenaming.KeepsWords := wordRenaming_keepsWords (by decide)

/-- Renaming the built-in output leaves a declaration of the default one, and a part of a word in
front of it, as they are. -/
lemma renameWords_declaration {inner : List Char} (hinner : ∀ c ∈ inner, isWordChar c = true)
    (behind : List Char) :
    renameWords outputRenaming (inner ++ (outputLine ++ behind)) =
      inner ++ (outputLine ++ renameWords outputRenaming behind) := by
  have hother : ∀ w ∈ outputWords, w ≠ builtinOutput := by decide
  have hline := renameWords_outputLine (f := outputRenaming) (fun w hw _ => if_neg (hother w hw))
    behind
  have hmark := (standalone_outputLine behind).mark
  have hname : ∀ behind, outputRenaming behind (inner ++ "out".toList) = inner ++ "out".toList :=
    fun _ => if_neg fun heq =>
      absurd ⟨inner, heq⟩ (by decide : ¬ "out".toList <:+ builtinOutput)
  rw [outputLine_append, outputLine_append, renameWords_word (by decide) hmark] at hline
  have hbehind := List.append_cancel_left hline
  rw [outputLine_append, ← List.append_assoc,
    renameWords_word (isWord_append hinner (by decide)) hmark, hbehind, hname, outputLine_append,
    List.append_assoc]

/-- The header of the main function is one after renaming, too. -/
lemma isSome_afterMainHeader?_renamed (h : splitMain? cs = some m) :
    (afterMainHeader? (renameWords outputRenaming (m.header ++ m.body))).isSome := by
  obtain ⟨rest, hheader, hvoid⟩ := splitMain?_header h
  have hmark := (standalone_void hvoid).mark
  have hmark' := (atWordEnd_renameWords outputRenaming_keepsWords).2 hmark
  have hrenamed := isSome_afterVoid?_renameWords outputRenaming_keepsWords
    (wordRenaming_keeps (by decide) (by decide)) rest
  have hname : outputRenaming (follower rest) "void".toList = "void".toList :=
    if_neg (by decide)
  rw [hheader, renameWords_word (by decide) hmark, hname,
    afterMainHeader?_word (IsWord.all (by decide)) hmark', if_pos rfl, hrenamed, hvoid]

/-- The declaration stands in the converted code, in which the built-in output is then renamed. -/
lemma convert_declared {front inner : List Char} (hused : hasWord builtinOutput cs = true)
    (hundeclared : splitOutput? cs = none)
    (hmain : splitMain? (namesTo300 .fragment (versionTo300 cs)) = some m)
    (hcut : CutInWord m.before front inner) :
    convert .es300 .fragment cs =
      renameWords outputRenaming front ++ (inner ++ (outputLine ++
        renameWords outputRenaming (m.header ++ m.body))) := by
  rw [convert_es300_fragment, outputTo300_of_used (splitOutput?_converted hundeclared)
    ((hasWord_converted (by decide) (by decide) (by decide) _).2 hused),
    declareOutput_of_splitMain? hmain, hcut.eq, List.append_assoc,
    renameWords_wordRenaming_append _ _ hcut.start, renameWords_declaration hcut.inner]

/-- Where a fragment stage uses the built-in output, the newer dialect declares the default one
directly in front of the header of the main function. The declaration comes before all uses exactly
if the source uses the built-in output nowhere in front of that header. -/
theorem transpile_declares_output {s : String} {m : MainSplit}
    (hused : hasWord builtinOutput s.toList = true) (hundeclared : splitOutput? s.toList = none)
    (hfree : hasWord defaultOutput s.toList = false) (hmain : splitMain? s.toList = some m) :
    ∃ front behind,
      transpile (.text s) (.int 300) .fragment =
        .ok (String.ofList (front ++ (outputLine ++ behind))) ∧
      (afterMainHeader? behind).isSome ∧
      (DeclaredFirst front (front ++ (outputLine ++ behind)) ↔
        ∀ before, IsWordAt builtinOutput before s.toList → m.before <+: before) := by
  obtain ⟨m', front, front', inner, hm', hcut, hcut', hwords⟩ := exists_header_converted hmain
  have hresult := convert_declared hused hundeclared hm' hcut'
  -- the default output is new
  have hunused : ¬ hasWord defaultOutput front = true := by
    intro hmem
    rw [splitMain?_eq_some hmain, hcut.eq, List.append_assoc, List.append_assoc,
      Bool.eq_false_iff, ne_eq, hasWord_append (by decide) hcut.start] at hfree
    exact hfree (.inl hmem)
  have hnames : hasWord defaultOutput
        (renameWords outputRenaming front') = true ↔
      hasWord builtinOutput front = true := by
    rw [hasWord_wordRenaming (by decide) (by decide),
      hwords _ (by decide) (by decide) (by decide), hwords _ (by decide) (by decide) (by decide)]
    exact or_iff_left hunused
  refine ⟨renameWords outputRenaming front' ++ inner,
    renameWords outputRenaming (m'.header ++ m'.body), ?_, isSome_afterMainHeader?_renamed hm', ?_⟩
  · rw [List.append_assoc, ← hresult]
    exact transpile_number .es300 .fragment s
  · have hstart := atWordStart_renameWords outputRenaming_keepsWords hcut'.start
    rw [List.append_assoc, declaredFirst_iff hstart hcut'.inner, uses_behind_header_iff hmain hcut,
      Bool.eq_false_iff, Bool.eq_false_iff]
    exact not_congr hnames

/-- A fragment stage that uses the built-in output in its main function only. -/
def plainGlow : String :=
  "#version 100\nvarying vec2 p;\nvoid main() \x7b gl_FragColor = vec4(p, 0.0, 1.0); \x7d\n"

theorem plainGlow_declared_first :
    (hasWord builtinOutput plainGlow.toList = true ∧ splitOutput? plainGlow.toList = none ∧
      hasWord defaultOutput plainGlow.toList = false) ∧
    ∃ front behind,
      transpile (.text plainGlow) (.int 300) .fragment =
        .ok (String.ofList (front ++ (outputLine ++ behind))) ∧
      DeclaredFirst front (front ++ (outputLine ++ behind)) := by
  have hused : hasWord builtinOutput plainGlow.toList = true := by decide +kernel
  have hundeclared : splitOutput? plainGlow.toList = none := by decide +kernel
  have hfree : hasWord defaultOutput plainGlow.toList = false := by decide +kernel
  have hmain : splitMain? plainGlow.toList = some ⟨"#version 100\nvarying vec2 p;\n".toList,
      "void main() \x7b".toList, " gl_FragColor = vec4(p, 0.0, 1.0); \x7d\n".toList⟩ := by
    decide +kernel
  obtain ⟨front, behind, hresult, -, hfirst⟩ :=
    transpile_declares_output hused hundeclared hfree hmain
  have hcut : CutInWord "#version 100\nvarying vec2 p;\n".toList
      "#version 100\nvarying vec2 p;\n".toList [] :=
    ⟨(List.append_nil _).symm, by decide +kernel, List.forall_mem_nil _⟩
  refine ⟨⟨hused, hundeclared, hfree⟩, front, behind, hresult, hfirst.2 ?_⟩
  exact (uses_behind_header_iff hmain hcut).2 (by decide +kernel)

/-- A fragment stage that uses the built-in output in a function in front of its main function. -/
def shadedGlow : String :=
  "#version 100\nvoid shade() \x7b\n  gl_FragColor = vec4(1.0);\n\x7d\n" ++
    "void main() \x7b\n  shade();\n\x7d\n"

theorem shadedGlow_used_before_declaration :
    (hasWord builtinOutput shadedGlow.toList = true ∧ splitOutput? shadedGlow.toList = none ∧
      hasWord defaultOutput shadedGlow.toList = false ∧ (splitMain? shadedGlow.toList).isSome) ∧
    ∃ r, transpile (.text shadedGlow) (.int 300) .fragment = .ok (String.ofList r) ∧
      ∀ front behind, r = front ++ ("out vec4 fragmentColor;".toList ++ behind) →
        ¬ DeclaredFirst front r := by
  -- the use in the function stands behind a text that holds no declaration
  have hresult : convert .es300 .fragment shadedGlow.toList =
      "#version 300 es\nvoid shade() \x7b\n  ".toList ++ (defaultOutput ++
        (" = vec4(1.0);\n\x7d\nout vec4 fragmentColor;\nvoid main() \x7b\n" ++
          "  shade();\n\x7d\n").toList) := by
    decide +kernel
  refine ⟨by decide +kernel, _, transpile_number .es300 .fragment shadedGlow, ?_⟩
  intro front behind _ hfirst
  rw [hresult] at hfirst
  rcases hfirst _ ⟨_, rfl, by decide +kernel, rfl⟩ with heq | hprefix
  · have hsuffix := List.suffix_append front "out vec4 ".toList
    rw [← heq] at hsuffix
    exact absurd hsuffix (by decide +kernel)
  · have hinfix := (List.suffix_append front "out vec4 fragmentColor;".toList).isInfix.trans
      hprefix.isInfix
    exact absurd hinfix (by decide +kernel)

end ShaderLoom.Glsl
