import Mathlib.Data.Set.Card
import ShaderLoom.Proofs.Glsl.Declaration
import ShaderLoom.Proofs.Glsl.Wording

/-!
# How often a word stands in code

The number of places of a word (`encard_isWordAt`) is counted piece by piece, so that a conversion
that leaves the word alone leaves its number alone. A fragment stage that gets a declaration of the
default output has the name of that output once for the declaration, once for each use of the
built-in output, and as often as before (`transpile_output_count`): the name is fixed, and where the
source has it already, it means the output from then on.
-/

namespace ShaderLoom.Glsl

open Text

/-- How often a word stands in code as a whole. -/
def wordCount (w cs : List Char) : ℕ := (wording cs).countP (·.2 = w)

/-! ### Counting piece by piece -/

section Count

variable {w : List Char}

@[simp] lemma wordCount_nil : wordCount w [] = 0 := rfl

lemma wordCount_mark {c : Char} (hc : isWordChar c = false) (cs : List Char) :
    wordCount w (c :: cs) = wordCount w cs := by
  rw [wordCount, wording_mark hc]
  rfl

lemma wordCount_marks {marks : List Char} (hmarks : ∀ c ∈ marks, isWordChar c = false)
    (cs : List Char) : wordCount w (marks ++ cs) = wordCount w cs := by
  rw [wordCount, wording_marks hmarks]
  rfl

lemma wordCount_word {v rest : List Char} (hv : IsWord v) (hrest : AtWordEnd rest) :
    wordCount w (v ++ rest) = wordCount w rest + if v = w then 1 else 0 := by
  simp [wordCount, wording_word hv hrest, List.countP_cons]

lemma wordCount_word_of_ne {v rest : List Char} (hv : IsWord v) (hrest : AtWordEnd rest)
    (hne : v ≠ w) : wordCount w (v ++ rest) = wordCount w rest := by
  rw [wordCount_word hv hrest, if_neg hne, Nat.add_zero]

/-- Cutting between words, no word is lost or gained. -/
lemma wordCount_append {front : List Char} (hfront : AtWordStart front) (cs : List Char) :
    wordCount w (front ++ cs) = wordCount w front + wordCount w cs := by
  induction front using text_induction with
  | nil => simp
  | mark c front hc ih =>
    rw [List.cons_append, wordCount_mark hc, wordCount_mark hc,
      ih (hfront.of_suffix (List.suffix_cons c front))]
  | word v front hv hend ih =>
    have hend' := (atWordEnd_append (hfront.ne_nil hv) cs).2 hend
    rw [List.append_assoc, wordCount_word hv hend', wordCount_word hv hend,
      ih (hfront.of_suffix (List.suffix_append v front)), Nat.add_right_comm]

variable (hw : IsWord w)
include hw

/-- The count is the number of places where the word stands. -/
theorem encard_isWordAt (cs : List Char) :
    {before | IsWordAt w before cs}.encard = wordCount w cs := by
  induction cs using text_induction with
  | nil => simp [not_isWordAt_nil hw]
  | mark c cs hc ih =>
    have hplaces : {before | IsWordAt w before (c :: cs)} =
        List.cons c '' {before | IsWordAt w before cs} := by
      ext before
      rw [Set.mem_ofPred_eq, isWordAt_mark hw hc]
      exact exists_congr fun _ => and_comm.trans (and_congr_right fun _ => eq_comm)
    rw [hplaces, (List.cons_injective).encard_image, ih, wordCount_mark hc]
  | word v rest hv hrest ih =>
    have hbehind : ((v ++ ·) '' {before | IsWordAt w before rest}).encard =
        wordCount w rest := by
      rw [(List.append_right_injective v).encard_image, ih]
    rw [wordCount_word hv hrest]
    by_cases hname : v = w
    · have hplaces : {before | IsWordAt w before (v ++ rest)} =
          insert [] ((v ++ ·) '' {before | IsWordAt w before rest}) := by
        ext before
        rw [Set.mem_ofPred_eq, isWordAt_word hw hv hrest, and_iff_left hname.symm]
        exact or_congr Iff.rfl (exists_congr fun _ =>
          and_comm.trans (and_congr_right fun _ => eq_comm))
      have hfirst : [] ∉ (v ++ ·) '' {before | IsWordAt w before rest} := by
        rintro ⟨before, -, heq⟩
        exact hv.ne_nil (List.append_eq_nil_iff.1 heq).1
      rw [hplaces, Set.encard_insert_of_notMem hfirst, hbehind, if_pos hname, Nat.cast_add,
        Nat.cast_one]
    · have hplaces : {before | IsWordAt w before (v ++ rest)} =
          (v ++ ·) '' {before | IsWordAt w before rest} := by
        ext before
        rw [Set.mem_ofPred_eq, isWordAt_word hw hv hrest,
          or_iff_right fun h => hname h.2.symm]
        exact exists_congr fun _ => and_comm.trans (and_congr_right fun _ => eq_comm)
      rw [hplaces, hbehind, if_neg hname, Nat.add_zero]

lemma wordCount_eq_zero_iff {cs : List Char} : wordCount w cs = 0 ↔ hasWord w cs = false := by
  rw [← Bool.not_eq_true, hasWord_iff_exists_isWordAt hw, ← Nat.cast_eq_zero (R := ℕ∞),
    ← encard_isWordAt hw, Set.encard_eq_zero, Set.eq_empty_iff_forall_notMem, not_exists]
  rfl

end Count

/-! ### Counts in converted code -/

/-- A fixed word stands as often in both texts. -/
lemma Respelled.wordCount {fixed : List Char → Prop} {cs ds w : List Char}
    (h : Respelled fixed cs ds) (hfixed : fixed w) :
    Glsl.wordCount w cs = Glsl.wordCount w ds := by
  induction h with
  | nil => rfl
  | mark hc hrest ih => rw [wordCount_mark hc, wordCount_mark hc, ih]
  | gap hne hne' hg hg' hrest ih =>
    rw [wordCount_marks fun c hc => isWordChar_of_isGap (hg c hc),
      wordCount_marks fun c hc => isWordChar_of_isGap (hg' c hc), ih]
  | word hu hv hcs hname hrest ih =>
    rw [wordCount_word hu hcs, wordCount_word hv (hrest.atWordEnd_iff.1 hcs), ih]
    simp only [hname w hfixed]

lemma OfVersionWords.wordCount {w line : List Char} (h : OfVersionWords line) (hw : IsWord w)
    (hother : w ∉ versionWords) (rest : List Char) :
    Glsl.wordCount w (line ++ rest) = Glsl.wordCount w rest := by
  have hline : Glsl.wordCount w line = 0 := by
    rw [wordCount_eq_zero_iff hw, Bool.eq_false_iff, ne_eq, hasWord_iff hw]
    exact fun ⟨behind, hmem⟩ => hother (h.words w behind hmem)
  rw [wordCount_append h.start, hline, Nat.zero_add]

lemma wordCount_converted {w : List Char} (hw : IsWord w) (hversion : w ∉ versionWords)
    (htouched : w ∉ touchedNames .fragment) (cs : List Char) :
    wordCount w (namesTo300 .fragment (versionTo300 cs)) = wordCount w cs := by
  obtain ⟨line, line', rest, rfl, hconverted, hline, hline'⟩ := versionTo300_cut cs
  rw [hconverted, ← (respelled_namesTo300 .fragment _).wordCount htouched,
    hline.wordCount hw hversion, hline'.wordCount hw hversion]

/-- The new name stands where it or the old one stood. -/
lemma wordCount_wordRenaming {old new : List Char} (hnew : IsWord new) (hne : old ≠ new)
    (cs : List Char) :
    wordCount new (renameWords (wordRenaming old new) cs) =
      wordCount old cs + wordCount new cs := by
  have hkeeps : (wordRenaming old new).KeepsWords := wordRenaming_keepsWords hnew
  induction cs using text_induction with
  | nil => rfl
  | mark c cs hc ih =>
    rw [renameWords_mark hc, wordCount_mark hc, wordCount_mark hc, wordCount_mark hc, ih]
  | word w rest hw hrest ih =>
    rw [renameWords_word hw hrest,
      wordCount_word (hkeeps _ _ hw) ((atWordEnd_renameWords hkeeps).2 hrest),
      wordCount_word hw hrest, wordCount_word hw hrest, ih, wordRenaming]
    by_cases hold : w = old
    · rw [if_pos hold, if_pos rfl, if_pos hold, if_neg (hold ▸ hne)]
      omega
    · rw [if_neg hold, if_neg hold]
      omega

/-! ### The name of the default output -/

/-- A part of a word in front of a header belongs to a word that ends in `void`. -/
lemma wordCount_header {cs inner w : List Char} {m : MainSplit} (h : splitMain? cs = some m)
    (hinner : ∀ c ∈ inner, isWordChar c = true) (hw : ¬ "void".toList <:+ w) :
    wordCount w (inner ++ (m.header ++ m.body)) = wordCount w (m.header ++ m.body) := by
  obtain ⟨rest, hheader, hvoid⟩ := splitMain?_header h
  have hmark := (standalone_void hvoid).mark
  have hne : ∀ inner, inner ++ "void".toList ≠ w := fun inner heq => hw ⟨inner, heq⟩
  rw [hheader, ← List.append_assoc,
    wordCount_word_of_ne (isWord_append hinner (by decide)) hmark (hne inner),
    wordCount_word_of_ne (v := "void".toList) (by decide) hmark (hne [])]

/-- The line that declares the default output has its name once, also if a part of a word stands
directly in front of the line. -/
lemma wordCount_outputLine {inner : List Char} (hinner : ∀ c ∈ inner, isWordChar c = true)
    (behind : List Char) :
    wordCount defaultOutput (inner ++ (outputLine ++ behind)) =
      wordCount defaultOutput behind + 1 := by
  have hout : inner ++ "out".toList ≠ defaultOutput := fun heq =>
    absurd ⟨inner, heq⟩ (by decide : ¬ "out".toList <:+ defaultOutput)
  rw [outputLine_append, ← List.append_assoc inner,
    wordCount_word_of_ne (isWord_append hinner (by decide)) (standalone_outputLine behind).mark
      hout]
  show wordCount defaultOutput
    (' ' :: ("vec4".toList ++ (' ' :: (defaultOutput ++ (';' :: '\n' :: behind))))) = _
  rw [wordCount_mark (by decide), wordCount_word_of_ne (by decide) (by rfl) (by decide),
    wordCount_mark (by decide), wordCount_word (by decide) (by rfl), if_pos rfl,
    wordCount_mark (by decide), wordCount_mark (by decide)]

/-- Where a fragment stage gets a declaration of the default output, directly in front of the header
of the main function, the name of that output stands once for the declaration and once for each use
of the built-in one, and as often as the source has it already. So it is new exactly if the source
does not have it. -/
theorem transpile_output_count {s : String} {m : MainSplit}
    (hused : hasWord builtinOutput s.toList = true) (hundeclared : splitOutput? s.toList = none)
    (hmain : splitMain? s.toList = some m) :
    ∃ r front behind,
      transpile (.text s) (.int 300) .fragment = .ok (String.ofList r) ∧
      r = front ++ (outputLine ++ behind) ∧ (afterMainHeader? behind).isSome ∧
      wordCount defaultOutput r =
        wordCount builtinOutput s.toList + wordCount defaultOutput s.toList + 1 ∧
      (wordCount defaultOutput r = wordCount builtinOutput s.toList + 1 ↔
        hasWord defaultOutput s.toList = false) := by
  obtain ⟨m', -, front, inner, hm', -, hcut, -⟩ := exists_header_converted hmain
  have hresult := convert_declared hused hundeclared hm' hcut
  -- the words in front of the declaration and behind it are those of the converted code
  have hparts : ∀ w, ¬ "void".toList <:+ w →
      wordCount w (namesTo300 .fragment (versionTo300 s.toList)) =
        wordCount w front + wordCount w (m'.header ++ m'.body) := by
    intro w hw
    rw [splitMain?_eq_some hm', hcut.eq, List.append_assoc, List.append_assoc,
      wordCount_append hcut.start, wordCount_header hm' hcut.inner hw]
  have hcount : wordCount defaultOutput (convert .es300 .fragment s.toList) =
      wordCount builtinOutput s.toList + wordCount defaultOutput s.toList + 1 := by
    have hbuiltin := hparts builtinOutput (by decide)
    have hdefault := hparts defaultOutput (by decide)
    rw [wordCount_converted (by decide) (by decide) (by decide)] at hbuiltin hdefault
    rw [hresult, wordCount_append (atWordStart_renameWords outputRenaming_keepsWords hcut.start),
      wordCount_outputLine hcut.inner, wordCount_wordRenaming (by decide) (by decide),
      wordCount_wordRenaming (by decide) (by decide), hbuiltin, hdefault]
    omega
  refine ⟨_, renameWords outputRenaming front ++ inner,
    renameWords outputRenaming (m'.header ++ m'.body), transpile_number .es300 .fragment s, ?_,
    isSome_afterMainHeader?_renamed hm', hcount, ?_⟩
  · rw [hresult, List.append_assoc]
  · rw [hcount, ← wordCount_eq_zero_iff (by decide)]
    omega

/-- A fragment stage that uses the built-in output in two functions. -/
def mixedGlow : String :=
  "#version 100\nvoid shade() \x7b gl_FragColor.a = 0.5; \x7d\n" ++
    "void main() \x7b gl_FragColor = vec4(1.0); shade(); \x7d\n"

theorem mixedGlow_output_count :
    (hasWord builtinOutput mixedGlow.toList = true ∧ splitOutput? mixedGlow.toList = none ∧
      hasWord defaultOutput mixedGlow.toList = false) ∧
    ∃ r, transpile (.text mixedGlow) (.int 300) .fragment = .ok (String.ofList r) ∧
      wordCount defaultOutput r = 3 := by
  have hused : hasWord builtinOutput mixedGlow.toList = true := by decide +kernel
  have hundeclared : splitOutput? mixedGlow.toList = none := by decide +kernel
  have hfree : hasWord defaultOutput mixedGlow.toList = false := by decide +kernel
  have hmain : splitMain? mixedGlow.toList =
      some ⟨"#version 100\nvoid shade() \x7b gl_FragColor.a = 0.5; \x7d\n".toList,
        "void main() \x7b".toList, " gl_FragColor = vec4(1.0); shade(); \x7d\n".toList⟩ := by
    decide +kernel
  have huses : wordCount builtinOutput mixedGlow.toList = 2 := by decide +kernel
  obtain ⟨r, -, -, hresult, -, -, -, hnew⟩ := transpile_output_count hused hundeclared hmain
  rw [huses] at hnew
  exact ⟨⟨hused, hundeclared, hfree⟩, r, hresult, hnew.2 hfree⟩

/-- A fragment stage with a variable that has the name of the default output. -/
def localGlow : String :=
  "#version 100\nvoid main() \x7b\n  vec4 fragmentColor = vec4(1.0);\n" ++
    "  gl_FragColor = fragmentColor;\n\x7d\n"

theorem localGlow_name_captured :
    (hasWord builtinOutput localGlow.toList = true ∧ splitOutput? localGlow.toList = none ∧
      (splitMain? localGlow.toList).isSome) ∧
    ∃ r, transpile (.text localGlow) (.int 300) .fragment = .ok (String.ofList r) ∧
      String.ofList r = "#version 300 es\nout vec4 fragmentColor;\nvoid main() \x7b\n" ++
        "  vec4 fragmentColor = vec4(1.0);\n  fragmentColor = fragmentColor;\n\x7d\n" ∧
      (splitOutput? r).map OutputSplit.name = some defaultOutput ∧
      hasWord defaultOutput localGlow.toList = true ∧
      wordCount defaultOutput r ≠ wordCount builtinOutput localGlow.toList + 1 := by
  have hresult : convert .es300 .fragment localGlow.toList =
      ("#version 300 es\nout vec4 fragmentColor;\nvoid main() \x7b\n" ++
        "  vec4 fragmentColor = vec4(1.0);\n  fragmentColor = fragmentColor;\n\x7d\n").toList := by
    decide +kernel
  refine ⟨by decide +kernel, _, transpile_number .es300 .fragment localGlow, ?_⟩
  rw [hresult, String.ofList_toList]
  exact ⟨rfl, by decide +kernel, by decide +kernel, by decide +kernel⟩

end ShaderLoom.Glsl
