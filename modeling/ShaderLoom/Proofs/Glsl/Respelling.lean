import ShaderLoom.Proofs.Glsl.Header
import ShaderLoom.Proofs.Glsl.Place
import ShaderLoom.Proofs.Glsl.VersionLine

/-!
# Texts that are spelled in another way

Converting names changes some words, and gaps into other gaps (`Respelled`); the words that the
parts of a conversion look for are fixed. What these parts read at the front of two such texts is
related in the same way, so that both declare an output or neither does, and that the header of the
main function is found at the same place (`Respelled.splitMain?`). Gaps need not be single spaces
here, and the header may begin inside of a word.
-/

namespace ShaderLoom.Glsl

open Text

/-! ### Optional results -/

section Rel

variable {α β γ δ : Type} {R : α → β → Prop} {S : γ → δ → Prop}

lemma rel_bind {x : Option α} {y : Option β} {f : α → Option γ} {g : β → Option δ}
    (h : Option.Rel R x y) (hfg : ∀ a b, R a b → Option.Rel S (f a) (g b)) :
    Option.Rel S (x.bind f) (y.bind g) := by
  cases h with
  | none => exact .none
  | some hab => exact hfg _ _ hab

lemma rel_map {x : Option α} {y : Option β} {f : α → γ} {g : β → δ} (h : Option.Rel R x y)
    (hfg : ∀ a b, x = some a → R a b → S (f a) (g b)) : Option.Rel S (x.map f) (y.map g) := by
  cases h with
  | none => exact .none
  | some hab => exact .some (hfg _ _ rfl hab)

lemma rel_or {x x' : Option α} {y y' : Option β} (h : Option.Rel R x y)
    (h' : Option.Rel R x' y') : Option.Rel R (x.or x') (y.or y') := by
  cases h with
  | none => exact h'
  | some hab => exact .some hab

lemma exists_of_rel {x : Option α} {b : β} (h : Option.Rel R x (some b)) :
    ∃ a, x = some a ∧ R a b := by
  cases h with
  | some hab => exact ⟨_, rfl, hab⟩

lemma isSome_of_rel {x : Option α} {y : Option β} (h : Option.Rel R x y) :
    x.isSome = y.isSome := by
  cases h <;> rfl

end Rel

/-! ### Other words and other gaps -/

/-- The words are the same, or neither has to stay as it is. -/
def SameName (fixed : List Char → Prop) (w v : List Char) : Prop :=
  ∀ x, fixed x → (w = x ↔ v = x)

/-- The second text is the first one with other words and other gaps: all words but the fixed ones
may become others that are not fixed, and a gap may become any other one. -/
inductive Respelled (fixed : List Char → Prop) : List Char → List Char → Prop
  | nil : Respelled fixed [] []
  | mark {c : Char} {cs ds : List Char} (hc : isWordChar c = false)
      (hrest : Respelled fixed cs ds) : Respelled fixed (c :: cs) (c :: ds)
  | gap {g g' cs ds : List Char} (hne : g ≠ []) (hne' : g' ≠ []) (hg : IsGapText g)
      (hg' : IsGapText g') (hrest : Respelled fixed cs ds) :
      Respelled fixed (g ++ cs) (g' ++ ds)
  | word {w v cs ds : List Char} (hw : IsWord w) (hv : IsWord v) (hcs : AtWordEnd cs)
      (hname : SameName fixed w v) (hrest : Respelled fixed cs ds) :
      Respelled fixed (w ++ cs) (v ++ ds)

/-- Cuts of two texts at a declaration of an output: their parts are alike, and so are the names. -/
structure SplitAlike (fixed : List Char → Prop) (d d' : OutputSplit) : Prop where
  before : Respelled fixed d.before d'.before
  name : SameName fixed d.name d'.name
  rest : Respelled fixed d.rest d'.rest

/-- Gaps declare nothing. -/
lemma splitOutput?_gap {g : List Char} (hg : IsGapText g) (cs : List Char) :
    splitOutput? (g ++ cs) = (splitOutput? cs).map (OutputSplit.prepend g) := by
  induction g with
  | nil => simp
  | cons c g ih =>
    rw [List.cons_append, splitOutput?_mark (isWordChar_of_isGap (hg c List.mem_cons_self)),
      ih fun d hd => hg d (List.mem_cons_of_mem c hd), Option.map_map, OutputSplit.prepend_comp]
    rfl

lemma isBlank_of_isGap {c : Char} (h : isGap c = true) : isBlank c = true := by
  have hc : c = ' ' ∨ c = '\t' := by simpa [isGap] using h
  rcases hc with rfl | rfl <;> decide

namespace Respelled

variable {fixed : List Char → Prop} {cs ds : List Char}

lemma atWordEnd_iff (h : Respelled fixed cs ds) : AtWordEnd cs ↔ AtWordEnd ds := by
  cases h with
  | nil => rfl
  | mark hc => rw [atWordEnd_cons, atWordEnd_cons]
  | gap hne hne' hg hg' => exact iff_of_true (hg.atWordEnd hne _) (hg'.atWordEnd hne' _)
  | word hw hv => exact iff_of_false hw.not_atWordEnd hv.not_atWordEnd

/-- Texts that are cut between words are alike if both of their parts are. -/
lemma append {front front' : List Char} (hfront : Respelled fixed front front')
    (hstart : AtWordStart front) (h : Respelled fixed cs ds) :
    Respelled fixed (front ++ cs) (front' ++ ds) := by
  induction hfront with
  | nil => exact h
  | @mark c front front' hc hrest ih =>
    exact .mark hc (ih (hstart.of_suffix (List.suffix_cons c front)))
  | @gap g g' front front' hne hne' hg hg' hrest ih =>
    rw [List.append_assoc, List.append_assoc]
    exact .gap hne hne' hg hg' (ih (hstart.of_suffix (List.suffix_append g front)))
  | @word w v front front' hw hv hend hname hrest ih =>
    have hend' := (atWordEnd_append (hstart.ne_nil hw) cs).2 hend
    rw [List.append_assoc, List.append_assoc]
    exact .word hw hv hend' hname (ih (hstart.of_suffix (List.suffix_append w front)))

/-! ### What is read at the front -/

/-- Passing over characters of a class that holds all gaps, and all or none of what stands in
words. -/
lemma dropWhile {p : Char → Bool} (h : Respelled fixed cs ds)
    (hgap : ∀ c, isGap c = true → p c = true)
    (hword : (∀ c, isWordChar c = true → p c = true) ∨ ∀ c, isWordChar c = true → p c = false) :
    Respelled fixed (cs.dropWhile p) (ds.dropWhile p) := by
  induction h with
  | nil => exact .nil
  | @mark c cs ds hc hrest ih =>
    rw [List.dropWhile_cons, List.dropWhile_cons]
    split
    · exact ih
    · exact .mark hc hrest
  | gap hne hne' hg hg' hrest ih =>
    rw [List.dropWhile_append_of_pos fun c hc => hgap c (hg c hc),
      List.dropWhile_append_of_pos fun c hc => hgap c (hg' c hc)]
    exact ih
  | word hw hv hcs hname hrest ih =>
    rcases hword with hall | hnone
    · rw [List.dropWhile_append_of_pos fun c hc => hall c (hw.all c hc),
        List.dropWhile_append_of_pos fun c hc => hall c (hv.all c hc)]
      exact ih
    · have hstop : ∀ {w : List Char} (rest : List Char), IsWord w →
          (w ++ rest).dropWhile p = w ++ rest := by
        intro w rest hw
        obtain ⟨c, w, rfl, hc⟩ := hw.exists_cons
        simp [hnone c hc]
      rw [hstop _ hw, hstop _ hv]
      exact .word hw hv hcs hname hrest

lemma dropWhile_isGap (h : Respelled fixed cs ds) :
    Respelled fixed (cs.dropWhile isGap) (ds.dropWhile isGap) :=
  h.dropWhile (fun _ hc => hc) (.inr fun _ hc => isGap_of_isWordChar hc)

lemma trimLeft (h : Respelled fixed cs ds) :
    Respelled fixed (Text.trimLeft cs) (Text.trimLeft ds) :=
  h.dropWhile (fun _ hc => isBlank_of_isGap hc) (.inr fun _ hc => isBlank_of_isWordChar hc)

/-- Parameters are passed over, whatever they are. -/
lemma dropWhile_parameters (h : Respelled fixed cs ds) :
    Respelled fixed (cs.dropWhile (· ≠ ')')) (ds.dropWhile (· ≠ ')')) := by
  have hother : ∀ c, c = ')' → isGap c = false ∧ isWordChar c = false := by
    rintro c rfl
    decide
  refine h.dropWhile (fun c hc => ?_) (.inl fun c hc => ?_)
  · by_contra hne
    rw [(hother c (by simpa using hne)).1] at hc
    exact absurd hc (by simp)
  · by_contra hne
    rw [(hother c (by simpa using hne)).2] at hc
    exact absurd hc (by simp)

lemma afterGap? (h : Respelled fixed cs ds) :
    Option.Rel (Respelled fixed) (Glsl.afterGap? cs) (Glsl.afterGap? ds) := by
  have hdrop := h.dropWhile_isGap
  cases h with
  | nil => exact .none
  | @mark c cs ds hc hrest =>
    rw [Glsl.afterGap?, Glsl.afterGap?]
    split
    · exact .some hrest.dropWhile_isGap
    · exact .none
  | @gap g g' cs ds hne hne' hg hg' =>
    have hsome : ∀ {g rest : List Char}, g ≠ [] → IsGapText g →
        Glsl.afterGap? (g ++ rest) = some ((g ++ rest).dropWhile isGap) := by
      intro g rest hne hg
      obtain ⟨c, g, rfl⟩ := List.exists_cons_of_ne_nil hne
      exact afterGap?_eq_some_iff.2 ⟨by simp [hg c List.mem_cons_self], rfl⟩
    rw [hsome hne hg, hsome hne' hg']
    exact .some hdrop
  | word hw hv =>
    rw [hw.afterGap?, hv.afterGap?]
    exact .none

lemma afterBlanks? (h : Respelled fixed cs ds) :
    Option.Rel (Respelled fixed) (Glsl.afterBlanks? cs) (Glsl.afterBlanks? ds) := by
  have hdrop := h.trimLeft
  have hsome : ∀ {g rest : List Char}, g ≠ [] → IsGapText g →
      Glsl.afterBlanks? (g ++ rest) = some (Text.trimLeft (g ++ rest)) := by
    intro g rest hne hg
    obtain ⟨c, g, rfl⟩ := List.exists_cons_of_ne_nil hne
    have hc := isBlank_of_isGap (hg c List.mem_cons_self)
    simp [Glsl.afterBlanks?, Text.trimLeft, hc]
  have hnone : ∀ {w rest : List Char}, IsWord w → Glsl.afterBlanks? (w ++ rest) = none := by
    intro w rest hw
    obtain ⟨c, w, rfl, hc⟩ := hw.exists_cons
    simp [Glsl.afterBlanks?, isBlank_of_isWordChar hc]
  cases h with
  | nil => exact .none
  | @mark c cs ds hc hrest =>
    rw [Glsl.afterBlanks?, Glsl.afterBlanks?]
    split
    · exact .some hrest.trimLeft
    · exact .none
  | gap hne hne' hg hg' =>
    rw [hsome hne hg, hsome hne' hg']
    exact .some hdrop
  | word hw hv =>
    rw [hnone hw, hnone hv]
    exact .none

/-- A mark that is no gap is read in both texts. -/
lemma afterChar? {d : Char} (h : Respelled fixed cs ds) (hd : isWordChar d = false)
    (hgap : isGap d = false) :
    Option.Rel (Respelled fixed) (Glsl.afterChar? d cs) (Glsl.afterChar? d ds) := by
  have hnone : ∀ {g rest : List Char}, g ≠ [] → IsGapText g →
      Glsl.afterChar? d (g ++ rest) = none := by
    intro g rest hne hg
    obtain ⟨c, g, rfl⟩ := List.exists_cons_of_ne_nil hne
    have hcd : c ≠ d := by
      rintro rfl
      rw [hg c List.mem_cons_self] at hgap
      exact absurd hgap (by simp)
    simp [Glsl.afterChar?, hcd]
  cases h with
  | nil => exact .none
  | @mark c cs ds hc hrest =>
    rw [Glsl.afterChar?, Glsl.afterChar?]
    split
    · exact .some hrest
    · exact .none
  | gap hne hne' hg hg' =>
    rw [hnone hne hg, hnone hne' hg']
    exact .none
  | word hw hv =>
    rw [hw.afterChar? hd, hv.afterChar? hd]
    exact .none

/-- Cuts of two texts: the names in front, and what follows them. -/
def CutAlike (fixed : List Char → Prop) (s t : List Char × List Char) : Prop :=
  SameName fixed s.1 t.1 ∧ Respelled fixed s.2 t.2

lemma splitWord? (h : Respelled fixed cs ds) :
    Option.Rel (CutAlike fixed) (Glsl.splitWord? cs) (Glsl.splitWord? ds) := by
  cases h with
  | nil => exact .none
  | mark hc =>
    rw [splitWord?_of_atWordEnd (atWordEnd_cons.2 hc), splitWord?_of_atWordEnd (atWordEnd_cons.2 hc)]
    exact .none
  | gap hne hne' hg hg' =>
    rw [splitWord?_of_atWordEnd (hg.atWordEnd hne _), splitWord?_of_atWordEnd (hg'.atWordEnd hne' _)]
    exact .none
  | word hw hv hcs hname hrest =>
    rw [splitWord?_word hw hcs, splitWord?_word hv (hrest.atWordEnd_iff.1 hcs)]
    exact .some ⟨hname, hrest⟩

/-- A fixed word is read in both texts or in neither, and what follows it is read alike. -/
lemma splitWord?_bind {β γ : Type} {S : β → γ → Prop} (h : Respelled fixed cs ds)
    {keyword : List Char} (hkeyword : fixed keyword) {f : List Char → Option β}
    {g : List Char → Option γ}
    (hfg : ∀ {cs ds}, Respelled fixed cs ds → Option.Rel S (f cs) (g ds)) :
    Option.Rel S ((Glsl.splitWord? cs).bind fun s => if s.1 = keyword then f s.2 else none)
      ((Glsl.splitWord? ds).bind fun s => if s.1 = keyword then g s.2 else none) := by
  refine rel_bind h.splitWord? fun s t hst => ?_
  by_cases hs : s.1 = keyword
  · rw [if_pos hs, if_pos ((hst.1 _ hkeyword).1 hs)]
    exact hfg hst.2
  · rw [if_neg hs, if_neg fun ht => hs ((hst.1 _ hkeyword).2 ht)]
    exact .none

lemma dropLineBreak (h : Respelled fixed cs ds) :
    Respelled fixed (Glsl.dropLineBreak cs) (Glsl.dropLineBreak ds) := by
  have hother : ∀ {c : Char} {rest : List Char}, c ≠ '\n' →
      Glsl.dropLineBreak (c :: rest) = c :: rest := by
    intro c rest hc
    rw [Glsl.dropLineBreak]
    exact fun _ heq => hc (List.cons.inj heq).1
  have hgap : ∀ {g rest : List Char}, g ≠ [] → IsGapText g →
      Glsl.dropLineBreak (g ++ rest) = g ++ rest := by
    intro g rest hne hg
    obtain ⟨c, g, rfl⟩ := List.exists_cons_of_ne_nil hne
    refine hother ?_
    rintro rfl
    exact absurd (hg _ List.mem_cons_self) (by decide)
  have hword : ∀ {w rest : List Char}, IsWord w → Glsl.dropLineBreak (w ++ rest) = w ++ rest := by
    intro w rest hw
    obtain ⟨c, w, rfl, hc⟩ := hw.exists_cons
    refine hother ?_
    rintro rfl
    exact absurd hc (by decide)
  cases h with
  | nil => exact .nil
  | @mark c cs ds hc hrest =>
    by_cases hbreak : c = '\n'
    · rw [hbreak]
      exact hrest
    · rw [hother hbreak, hother hbreak]
      exact .mark hc hrest
  | gap hne hne' hg hg' hrest =>
    rw [hgap hne hg, hgap hne' hg']
    exact .gap hne hne' hg hg' hrest
  | word hw hv hcs hname hrest =>
    rw [hword hw, hword hv]
    exact .word hw hv hcs hname hrest

/-! ### Declarations of outputs -/

section Output

lemma namedOutput? (h : Respelled fixed cs ds) :
    Option.Rel (CutAlike fixed) (Glsl.namedOutput? cs) (Glsl.namedOutput? ds) := by
  refine rel_bind h.afterGap? fun cs ds h => rel_bind h.splitWord? fun s t hst => ?_
  refine rel_bind (hst.2.dropWhile_isGap.afterChar? (by decide) (by decide)) fun cs ds h => ?_
  exact .some ⟨hst.1, h.dropLineBreak⟩

variable (hout : fixed "out".toList) (htype : fixed "vec4".toList)
include hout htype

lemma outputDeclaration? (h : Respelled fixed cs ds) :
    Option.Rel (CutAlike fixed) (Glsl.outputDeclaration? cs) (Glsl.outputDeclaration? ds) := by
  have hsplit : ∀ cs, Glsl.outputDeclaration? cs =
      (Glsl.splitWord? cs).bind fun s => if s.1 = "out".toList then typedOutput? s.2 else none := by
    intro cs
    rw [outputDeclaration?_eq]
    exact afterFront?_bind_eq_splitWord? (by decide)
      (fun _ cs hc => typedOutput?_of_isWordChar hc cs) cs
  rw [hsplit, hsplit]
  refine h.splitWord?_bind hout fun h => ?_
  exact rel_bind h.afterGap? fun cs ds h => h.splitWord?_bind htype fun h => h.namedOutput?

/-- The first declaration of an output is found at the same place of both texts. -/
lemma splitOutput? (h : Respelled fixed cs ds) :
    Option.Rel (SplitAlike fixed) (Glsl.splitOutput? cs) (Glsl.splitOutput? ds) := by
  induction h with
  | nil => exact .none
  | mark hc hrest ih =>
    rw [splitOutput?_mark hc, splitOutput?_mark hc]
    exact rel_map ih fun _ _ _ hnn' => ⟨.mark hc hnn'.before, hnn'.name, hnn'.rest⟩
  | gap hne hne' hg hg' hrest ih =>
    rw [splitOutput?_gap hg, splitOutput?_gap hg']
    exact rel_map ih fun _ _ _ hnn' =>
      ⟨.gap hne hne' hg hg' hnn'.before, hnn'.name, hnn'.rest⟩
  | @word w v cs ds hw hv hcs hname hrest ih =>
    have hhere := (Respelled.word hw hv hcs hname hrest).outputDeclaration? hout htype
    -- the text in front of a later declaration starts like the code behind the word
    have hend : ∀ {n}, Glsl.splitOutput? cs = some n → AtWordEnd n.before := by
      intro n hn
      obtain ⟨declaration, heq, -, -⟩ := splitOutput?_eq_some hn
      by_cases hnil : n.before = []
      · rw [hnil]
        rfl
      · rwa [heq, atWordEnd_append hnil] at hcs
    rw [splitOutput?_word hw hcs, splitOutput?_word hv (hrest.atWordEnd_iff.1 hcs)]
    refine rel_or (rel_map hhere fun _ _ _ hst => ⟨.nil, hst.1, hst.2⟩) ?_
    exact rel_map ih fun _ _ hn hnn' =>
      ⟨.word hw hv (hend hn) hname hnn'.before, hnn'.name, hnn'.rest⟩

/-- Both texts declare an output, or neither does. -/
lemma isSome_splitOutput? (h : Respelled fixed cs ds) :
    (Glsl.splitOutput? cs).isSome = (Glsl.splitOutput? ds).isSome :=
  isSome_of_rel (h.splitOutput? hout htype)

end Output

/-! ### The header of the main function -/

lemma afterVoid? (hmain : fixed "main".toList) (h : Respelled fixed cs ds) :
    Option.Rel (Respelled fixed) (Glsl.afterVoid? cs) (Glsl.afterVoid? ds) := by
  refine rel_bind h.afterBlanks? fun cs ds h => h.splitWord?_bind hmain fun h => ?_
  refine rel_bind (h.trimLeft.afterChar? (by decide) (by decide)) fun cs ds h => ?_
  refine rel_bind (h.dropWhile_parameters.afterChar? (by decide) (by decide)) fun cs ds h => ?_
  refine rel_bind (h.trimLeft.afterChar? (by decide) (by decide)) fun cs ds h => ?_
  exact .some h.dropLineBreak

end Respelled

/-- A text cut where its last word starts: no word reaches the end of the first part, and the other
part belongs to a word. -/
structure CutInWord (cs front inner : List Char) : Prop where
  eq : cs = front ++ inner
  start : AtWordStart front
  inner : ∀ c ∈ inner, isWordChar c = true

namespace CutInWord

variable {cs front inner : List Char}

lemma prepend {back : List Char} (h : CutInWord cs front inner)
    (hback : AtWordStart (back ++ front)) : CutInWord (back ++ cs) (back ++ front) inner where
  eq := by rw [h.eq, List.append_assoc]
  start := hback
  inner := h.inner

/-- In front of the header of a main function behind a mark stands more than a part of a word. -/
lemma front_ne_nil {m : MainSplit} (h : CutInWord m.before front inner)
    (hm : splitMain? cs = some m) (hcs : AtWordEnd cs) : front ≠ [] := by
  rintro rfl
  obtain ⟨rest, hheader, -⟩ := splitMain?_header hm
  have hwhole := splitMain?_eq_some hm
  have hword : IsWord (inner ++ "void".toList) := isWord_append h.inner (by decide)
  rw [List.append_assoc, hheader, h.eq, List.nil_append, ← List.append_assoc] at hwhole
  rw [hwhole] at hcs
  exact hword.not_atWordEnd hcs

end CutInWord

/-- Two texts in front of a header, one spelled in another way: the words that have ended are
respelled, and the header begins inside of the same word. -/
structure RespelledBefore (fixed : List Char → Prop) (cs ds front front' inner : List Char) :
    Prop where
  cut : CutInWord cs front inner
  cut' : CutInWord ds front' inner
  respelled : Respelled fixed front front'

/-- Gaps hold no words. -/
lemma hasWord_gap {x g : List Char} (hx : IsWord x) (hg : IsGapText g) (cs : List Char) :
    hasWord x (g ++ cs) = true ↔ hasWord x cs = true := by
  induction g with
  | nil => rfl
  | cons c g ih =>
    rw [List.cons_append, hasWord_mark hx (isWordChar_of_isGap (hg c List.mem_cons_self)),
      ih fun d hd => hg d (List.mem_cons_of_mem c hd)]

lemma atWordStart_gap {g : List Char} (hg : IsGapText g) : AtWordStart g := by
  cases hlast : g.getLast? with
  | none => simp [AtWordStart, hlast]
  | some c =>
    have hc := isWordChar_of_isGap (hg c (List.mem_of_getLast? hlast))
    simp [AtWordStart, hlast, hc]

lemma splitMain?_gap {g : List Char} (hg : IsGapText g) (cs : List Char) :
    splitMain? (g ++ cs) = (splitMain? cs).map (MainSplit.prepend g) := by
  induction g with
  | nil => simp
  | cons c g ih =>
    rw [List.cons_append, splitMain?_mark (isWordChar_of_isGap (hg c List.mem_cons_self)),
      ih fun d hd => hg d (List.mem_cons_of_mem c hd), Option.map_map, MainSplit.prepend_comp]
    rfl

/-- Where the header begins in the first word, nothing stands in front of that word. -/
lemma splitMain?_first {fixed : List Char → Prop} {u cs ds : List Char}
    (hu : ∀ c ∈ u, isWordChar c = true) (hcs : AtWordEnd cs) (hds : AtWordEnd ds)
    (hheader : (afterVoid? cs).isSome) (hheader' : (afterVoid? ds).isSome) {m : MainSplit}
    (hm : splitMain? (u ++ "void".toList ++ cs) = some m) :
    ∃ m', splitMain? (u ++ "void".toList ++ ds) = some m' ∧
      RespelledBefore fixed m.before m'.before [] [] u := by
  obtain ⟨n, hn, hbefore, -⟩ := splitMain?_void hu hcs hheader
  obtain ⟨n', hn', hbefore', -⟩ := splitMain?_void hu hds hheader'
  rw [List.append_assoc, hn, Option.some.injEq] at hm
  subst hm
  rw [List.append_assoc]
  exact ⟨n', hn', ⟨hbefore, rfl, hu⟩, ⟨hbefore', rfl, hu⟩, .nil⟩

/-- The header of the main function is found at the same place of both texts. -/
theorem Respelled.splitMain? {fixed : List Char → Prop} (hmain : fixed "main".toList)
    (hvoid : ∀ x, "void".toList <:+ x → fixed x) {cs ds : List Char}
    (h : Respelled fixed cs ds) {m : MainSplit} (hm : Glsl.splitMain? cs = some m) :
    ∃ m' front front' inner, Glsl.splitMain? ds = some m' ∧
      RespelledBefore fixed m.before m'.before front front' inner := by
  induction h generalizing m with
  | nil => cases hm
  | @mark c cs ds hc hrest ih =>
    rw [splitMain?_mark hc] at hm
    obtain ⟨n, hn, rfl⟩ := Option.map_eq_some_iff.1 hm
    obtain ⟨n', front, front', inner, hn', hcut, hcut', hrespelled⟩ := ih hn
    have hstart : ∀ {front : List Char}, AtWordStart front → AtWordStart ([c] ++ front) :=
      fun hfront => AtWordStart.append (by simp [AtWordStart, hc]) hfront
    refine ⟨n'.prepend [c], _, _, inner, ?_, hcut.prepend (hstart hcut.start),
      hcut'.prepend (hstart hcut'.start), .mark hc hrespelled⟩
    rw [splitMain?_mark hc, hn']
    rfl
  | @gap g g' cs ds hne hne' hg hg' hrest ih =>
    rw [splitMain?_gap hg] at hm
    obtain ⟨n, hn, rfl⟩ := Option.map_eq_some_iff.1 hm
    obtain ⟨n', front, front', inner, hn', hcut, hcut', hrespelled⟩ := ih hn
    refine ⟨n'.prepend g', _, _, inner, ?_,
      hcut.prepend ((atWordStart_gap hg).append hcut.start),
      hcut'.prepend ((atWordStart_gap hg').append hcut'.start), .gap hne hne' hg hg' hrespelled⟩
    rw [splitMain?_gap hg', hn']
    rfl
  | @word w v cs ds hw hv hcs hname hrest ih =>
    have hds := hrest.atWordEnd_iff.1 hcs
    have hafter := isSome_of_rel (hrest.afterVoid? hmain)
    -- a word that ends in the first word of a header is the same in both texts
    have hsame : ∀ {u}, w = u ++ "void".toList ∨ v = u ++ "void".toList → w = v := by
      intro u hu
      have hiff := hname _ (hvoid (u ++ "void".toList) (List.suffix_append _ _))
      rcases hu with hu | hu
      · exact hu.trans (hiff.1 hu).symm
      · exact (hiff.2 hu).trans hu.symm
    by_cases hhere : ∃ u, w = u ++ "void".toList ∧ (Glsl.afterVoid? cs).isSome
    · obtain ⟨u, hu, hheader⟩ := hhere
      obtain rfl := hsame (.inl hu)
      subst hu
      have hinner : ∀ c ∈ u, isWordChar c = true := fun c hc => hw.all c (List.mem_append_left _ hc)
      obtain ⟨m', hm', hbefore⟩ := splitMain?_first hinner hcs hds hheader (hafter ▸ hheader) hm
      exact ⟨m', [], [], u, hm', hbefore⟩
    · have hpassed : ∀ u, w = u ++ "void".toList → Glsl.afterVoid? cs = none := fun u hu => by
        by_contra hne
        exact hhere ⟨u, hu, Option.isSome_iff_ne_none.2 hne⟩
      have hpassed' : ∀ u, v = u ++ "void".toList → Glsl.afterVoid? ds = none := by
        intro u hu
        rw [hpassed u ((hsame (.inr hu)).trans hu)] at hafter
        simpa using hafter.symm
      rw [splitMain?_word hw.all hcs hpassed] at hm
      obtain ⟨n, hn, rfl⟩ := Option.map_eq_some_iff.1 hm
      obtain ⟨n', front, front', inner, hn', hcut, hcut', hrespelled⟩ := ih hn
      have hne := hcut.front_ne_nil hn hcs
      have hne' := hcut'.front_ne_nil hn' hds
      have hend : AtWordEnd front := by
        rw [splitMain?_eq_some hn, List.append_assoc, hcut.eq, List.append_assoc] at hcs
        exact (atWordEnd_append hne _).1 hcs
      refine ⟨n'.prepend v, _, _, inner, ?_,
        hcut.prepend ((atWordStart_append w hne).2 hcut.start),
        hcut'.prepend ((atWordStart_append v hne').2 hcut'.start), .word hw hv hend hname hrespelled⟩
      rw [splitMain?_word hv.all hds hpassed', hn']
      rfl

/-! ### Converted names -/

section Convert

variable {fixed : List Char → Prop}

/-- A fixed word stands in both texts or in neither. -/
lemma Respelled.hasWord_iff {cs ds x : List Char} (h : Respelled fixed cs ds) (hx : IsWord x)
    (hfixed : fixed x) : hasWord x cs = true ↔ hasWord x ds = true := by
  induction h with
  | nil => rfl
  | mark hc hrest ih => rw [hasWord_mark hx hc, hasWord_mark hx hc, ih]
  | @gap g g' cs ds hne hne' hg hg' hrest ih =>
    rw [hasWord_gap hx hg, hasWord_gap hx hg', ih]
  | word hw hv hcs hname hrest ih =>
    rw [hasWord_word hx hw hcs, hasWord_word hx hv (hrest.atWordEnd_iff.1 hcs), ih, eq_comm,
      hname x hfixed, eq_comm]

/-- Renamed code is respelled. -/
lemma respelled_renameWords {f : Renaming} (hf : f.KeepsWords)
    (hkeeps : ∀ x, fixed x → f.Keeps x) (cs : List Char) : Respelled fixed cs (renameWords f cs) := by
  induction cs using text_induction with
  | nil => exact .nil
  | mark c cs hc ih =>
    rw [renameWords_mark hc]
    exact .mark hc ih
  | word w rest hw hrest ih =>
    rw [renameWords_word hw hrest]
    exact .word hw (hf _ _ hw) hrest (fun x hx => (hkeeps x hx _ w).symm) ih

/-- Renaming the same word in code that is spelled in two ways: the words that have to stay are
fixed, apart from the new name. -/
lemma Respelled.renameWord {cs ds old new : List Char}
    (h : Respelled fixed cs ds) (hold : IsWord old) (hnew : IsWord new) :
    Respelled (fun x => fixed x ∧ x ≠ new) (Glsl.renameWord old new cs)
      (Glsl.renameWord old new ds) := by
  have hkeepsWords : (wordRenaming old new).KeepsWords := wordRenaming_keepsWords hnew
  rw [renameWord_eq_renameWords hold, renameWord_eq_renameWords hold]
  induction h with
  | nil => exact .nil
  | mark hc hrest ih =>
    rw [renameWords_mark hc, renameWords_mark hc]
    exact .mark hc ih
  | gap hne hne' hg hg' hrest ih =>
    rw [renameWords_marks fun c hc => isWordChar_of_isGap (hg c hc),
      renameWords_marks fun c hc => isWordChar_of_isGap (hg' c hc)]
    exact .gap hne hne' hg hg' ih
  | @word w v cs ds hw hv hcs hname hrest ih =>
    rw [renameWords_word hw hcs, renameWords_word hv (hrest.atWordEnd_iff.1 hcs)]
    refine .word (hkeepsWords _ _ hw) (hkeepsWords _ _ hv)
      ((atWordEnd_renameWords hkeepsWords).2 hcs) (fun x hx => ?_) ih
    have hrenamed : ∀ behind w, wordRenaming old new behind w = x ↔ old ≠ x ∧ w = x := by
      intro behind w
      by_cases hword : w = old
      · rw [wordRenaming, if_pos hword, hword]
        exact iff_of_false (Ne.symm hx.2) fun h => h.1 h.2
      · rw [wordRenaming, if_neg hword]
        exact (and_iff_right_of_imp fun h heq => hword (h.trans heq.symm)).symm
    rw [hrenamed, hrenamed, hname x hx.1]

/-- Changing a qualifier in respelled code, at a place where a word can start or a mark comes next,
respells the code. -/
lemma Respelled.substituteFrom {old new : List Char} (hold : IsWord old) (hnew : IsWord new)
    (hfree : ¬ fixed old) (hfree' : ¬ fixed new) {cs ds : List Char}
    (h : Respelled fixed cs ds) {previous : Option Char}
    (hprevious : startsWord previous = true ∨ AtWordEnd ds) :
    Respelled fixed cs (Glsl.substituteFrom (qualifierRule old new) 0 previous ds) := by
  have hrule : (qualifierRule old new).AtWords := qualifierRule_atWords hold
  induction hn : ds.length using Nat.strong_induction_on generalizing previous cs ds with
  | _ n ih =>
    subst hn
    cases h with
    | nil => exact .nil
    | @mark c cs ds hc hrest =>
      rw [Glsl.substituteFrom, hrule.mark previous c ds hc]
      exact .mark hc (ih _ (by simp) hrest (.inl (by simp [hc])) rfl)
    | @gap g g' cs ds hne hne' hg hg' hrest =>
      have hstart := (exchangeable_gap hne' hg').startsWord_or_atWordEnd (w := [])
        (hg'.atWordEnd hne' ds) previous
      have hlength := List.length_pos_of_ne_nil hne'
      rw [substituteFrom_marks hrule fun c hc => isWordChar_of_isGap (hg' c hc)]
      exact .gap hne hne' hg hg' (ih _ (by simpa using hlength) hrest hstart rfl)
    | @word w v cs ds hw hv hcs hname hrest =>
      have hds := hrest.atWordEnd_iff.1 hcs
      have hlength := List.length_pos_of_ne_nil hv.ne_nil
      rcases qualifierRule_cases hold (hprevious.resolve_right hv.not_atWordEnd) hv hds with
        hnone | ⟨rfl, g', text', rfl, hne', hg', hgap', hsome⟩
      · rw [substituteFrom_word hrule hv hnone]
        exact .word hw hv hcs hname (ih _ (by simpa using hlength) hrest (.inr hds) rfl)
      · -- the gap behind the qualifier becomes a single space, and there is one in both texts
        obtain ⟨text, hgap, htext⟩ := exists_of_rel (hgap' ▸ hrest.afterGap?)
        obtain ⟨g, rfl, hne, hg⟩ := exists_gap_of_afterGap? hgap
        have hstart := (exchangeable_gap hne' hg').startsWord_or_atWordEnd (w := v) hds previous
        have hother : SameName fixed v new := fun x hx => by
          refine iff_of_false ?_ ?_
          · rintro rfl
            exact hfree hx
          · rintro rfl
            exact hfree' hx
        rw [substituteFrom_replaced hv hsome, List.append_assoc]
        refine .word hw hnew hcs (fun x hx => (hname x hx).trans (hother x hx)) ?_
        refine .gap hne (by simp) hg (List.forall_mem_singleton.2 (by decide)) ?_
        exact ih _ (by simp; omega) htext hstart rfl

/-- Code with changed qualifiers is respelled. -/
lemma Respelled.changeQualifiers {changes : List (List Char × List Char)}
    (hwords : ∀ change ∈ changes, IsWord change.1 ∧ IsWord change.2)
    (hfree : ∀ change ∈ changes, ¬ fixed change.1 ∧ ¬ fixed change.2) {cs ds : List Char}
    (h : Respelled fixed cs ds) : Respelled fixed cs (Glsl.changeQualifiers changes ds) := by
  induction changes generalizing ds with
  | nil => exact h
  | cons change changes ih =>
    have hword := hwords change List.mem_cons_self
    have hchange := hfree change List.mem_cons_self
    exact ih (fun c hc => hwords c (List.mem_cons_of_mem _ hc))
      (fun c hc => hfree c (List.mem_cons_of_mem _ hc))
      (h.substituteFrom hword.1 hword.2 hchange.1 hchange.2 (.inl rfl))

/-- Code with names of the newer dialect is respelled, whatever gaps stand behind qualifiers. -/
theorem respelled_namesTo300 (stage : Stage) (cs : List Char) :
    Respelled (· ∉ touchedNames stage) cs (namesTo300 stage cs) := by
  rw [namesTo300, substitute_texturesTo300]
  exact (respelled_renameWords textureTo300_keepsWords
    (fun _ hx => (textureTo300_within stage).keeps hx) cs)
    |>.changeQualifiers isWord_qualifiersTo300 (by cases stage <;> decide)

/-- Code with names of the older dialect is respelled. -/
theorem respelled_namesTo100 (stage : Stage) (cs : List Char) :
    Respelled (· ∉ touchedNames stage) cs (namesTo100 stage cs) := by
  rw [namesTo100, substitute_texturesTo100]
  exact (respelled_renameWords textureTo100_keepsWords
    (fun _ hx => (textureTo100_within stage).keeps hx) cs)
    |>.changeQualifiers isWord_qualifiersTo100 (by cases stage <;> decide)

end Convert

end ShaderLoom.Glsl
