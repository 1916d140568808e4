import Mathlib.Data.List.Infix
import ShaderLoom.Proofs.Glsl.Joint
import ShaderLoom.Proofs.Glsl.Renaming

/-!
# Declarations of outputs and the header of the main function

The conversions look for two landmarks in a fragment stage: the first declaration of an output, and
the first header of a main function. Both are read word by word, so that a text is passed over mark
by mark and word by word until one is found. The first word of a header may be a part of a longer
word (`splitMain?_void`).
-/

namespace ShaderLoom.Glsl

open Text

/-! ### Declarations of outputs -/

/-- The name of an output after its type, and what follows its declaration. -/
def namedOutput? (cs : List Char) : Option (List Char × List Char) :=
  (afterGap? cs).bind fun cs => (splitWord? cs).bind fun s =>
    (afterChar? ';' (s.2.dropWhile isGap)).bind fun cs => some (s.1, dropLineBreak cs)

/-- The name of an output after the word `out`, and what follows its declaration. -/
def typedOutput? (cs : List Char) : Option (List Char × List Char) :=
  (afterGap? cs).bind fun cs => (splitWord? cs).bind fun s =>
    if s.1 = "vec4".toList then namedOutput? s.2 else none

lemma namedOutput?_of_isWordChar {c : Char} (hc : isWordChar c = true) (cs : List Char) :
    namedOutput? (c :: cs) = none := by
  simp [namedOutput?, afterGap?_of_isWordChar hc]

lemma typedOutput?_of_isWordChar {c : Char} (hc : isWordChar c = true) (cs : List Char) :
    typedOutput? (c :: cs) = none := by
  simp [typedOutput?, afterGap?_of_isWordChar hc]

lemma outputDeclaration?_eq (cs : List Char) :
    outputDeclaration? cs = (afterFront? "out".toList cs).bind typedOutput? := by
  show ((afterFront? "out".toList cs).bind fun cs => (afterGap? cs).bind fun cs =>
    (afterFront? "vec4".toList cs).bind namedOutput?) = _
  refine Option.bind_congr fun cs _ => Option.bind_congr fun cs _ => ?_
  exact afterFront?_bind_eq_splitWord? (by decide) (fun _ cs hc => namedOutput?_of_isWordChar hc cs)
    cs

lemma outputDeclaration?_mark {c : Char} (hc : isWordChar c = false) (cs : List Char) :
    outputDeclaration? (c :: cs) = none := by
  rw [outputDeclaration?_eq, afterFront?_mark (by decide) hc]
  rfl

lemma outputDeclaration?_word {w rest : List Char} (hw : IsWord w) (hrest : AtWordEnd rest) :
    outputDeclaration? (w ++ rest) = if w = "out".toList then typedOutput? rest else none := by
  rw [outputDeclaration?_eq]
  exact afterFront?_bind_word (IsWord.all (by decide)) hw.all hrest fun _ cs hc =>
    typedOutput?_of_isWordChar hc cs

/-- Put a text in front of the cut one. -/
def OutputSplit.prepend (front : List Char) (s : OutputSplit) : OutputSplit :=
  ⟨front ++ s.before, s.name, s.rest⟩

@[simp] lemma OutputSplit.prepend_nil : OutputSplit.prepend [] = id := rfl

lemma OutputSplit.prepend_comp (front front' : List Char) :
    prepend front ∘ prepend front' = prepend (front ++ front') := by
  funext s
  simp [prepend]

/-- Where a mark comes next, it does not matter what stood before. -/
lemma splitOutputFrom?_eq {previous : Option Char} {cs : List Char}
    (h : startsWord previous = true ∨ AtWordEnd cs) :
    splitOutputFrom? previous cs = splitOutput? cs := by
  cases cs with
  | nil => rfl
  | cons c cs =>
    rw [splitOutput?, splitOutputFrom?, splitOutputFrom?]
    rcases h with h | h
    · rw [if_pos h, if_pos startsWord_none]
    · rw [outputDeclaration?_mark (atWordEnd_cons.1 h), ite_self, ite_self]

lemma splitOutput?_mark {c : Char} (hc : isWordChar c = false) (cs : List Char) :
    splitOutput? (c :: cs) = (splitOutput? cs).map (OutputSplit.prepend [c]) := by
  rw [splitOutput?, splitOutputFrom?, outputDeclaration?_mark hc, ite_self]
  rw [splitOutputFrom?_eq (.inl (by simp [hc]))]
  rfl

lemma splitOutput?_word {w rest : List Char} (hw : IsWord w) (hrest : AtWordEnd rest) :
    splitOutput? (w ++ rest) = ((outputDeclaration? (w ++ rest)).map fun s => ⟨[], s.1, s.2⟩).or
      ((splitOutput? rest).map (OutputSplit.prepend w)) := by
  have hinside : ∀ (u : List Char) (p : Option Char), startsWord p = false →
      (∀ c ∈ u, isWordChar c = true) →
      splitOutputFrom? p (u ++ rest) = (splitOutput? rest).map (OutputSplit.prepend u) := by
    intro u
    induction u with
    | nil =>
      intro p _ _
      rw [List.nil_append, splitOutputFrom?_eq (.inr hrest)]
      simp
    | cons c u ih =>
      intro p hp hu
      rw [List.cons_append, splitOutputFrom?, hp]
      have hrec := ih (some c) (by simp [hu c]) fun d hd => hu d (by simp [hd])
      simp only [Bool.false_eq_true, if_false, hrec, Option.map_map]
      rfl
  obtain ⟨c, u, rfl, hc⟩ := hw.exists_cons
  have hrec := hinside u (some c) (by simp [hc]) fun d hd => hw.all d (by simp [hd])
  rw [List.cons_append, splitOutput?, splitOutputFrom?, if_pos startsWord_none, hrec]
  cases outputDeclaration? (c :: (u ++ rest)) with
  | none =>
    simp only [Option.map_map, Option.map_none, Option.none_or]
    rfl
  | some s => rfl

/-- A text without the first word of a declaration is passed over. -/
lemma splitOutput?_pass {front : List Char} (hfront : AtWordStart front)
    (h : ∀ p ∈ pieces front, p.text ≠ "out".toList) (rest : List Char) :
    splitOutput? (front ++ rest) = (splitOutput? rest).map (OutputSplit.prepend front) := by
  induction front using text_induction with
  | nil => simp
  | mark c cs hc ih =>
    rw [pieces_mark hc] at h
    rw [List.cons_append, splitOutput?_mark hc, ih (hfront.of_suffix (List.suffix_cons c cs))
      fun p hp => h p (by simp [hp]), Option.map_map, OutputSplit.prepend_comp]
    rfl
  | word w cs hw hcs ih =>
    rw [pieces_word hw hcs] at h
    have hend := (atWordEnd_append (hfront.ne_nil hw) rest).2 hcs
    have hout : w ≠ "out".toList := h (.word w (follower cs)) (by simp)
    rw [List.append_assoc, splitOutput?_word hw hend, outputDeclaration?_word hw hend, if_neg hout,
      ih (hfront.of_suffix (List.suffix_append w cs)) fun p hp => h p (by simp [hp]),
      Option.map_map, OutputSplit.prepend_comp]
    rfl

lemma outputDeclaration?_eq_some {cs name rest : List Char}
    (h : outputDeclaration? cs = some (name, rest)) : IsWord name ∧ rest <:+ cs := by
  rw [outputDeclaration?_eq] at h
  obtain ⟨typed, htyped, h⟩ := Option.bind_eq_some_iff.1 h
  obtain ⟨type, htype, h⟩ := Option.bind_eq_some_iff.1 h
  obtain ⟨word, hword, h⟩ := Option.bind_eq_some_iff.1 h
  split at h
  · obtain ⟨named, hnamed, h⟩ := Option.bind_eq_some_iff.1 h
    obtain ⟨s, hs, h⟩ := Option.bind_eq_some_iff.1 h
    obtain ⟨behind, hbehind, h⟩ := Option.bind_eq_some_iff.1 h
    obtain ⟨rfl, rfl⟩ : s.1 = name ∧ dropLineBreak behind = rest := by simpa using h
    refine ⟨(splitWord?_eq_some hs).1, ?_⟩
    calc dropLineBreak behind <:+ behind := dropLineBreak_suffix behind
      _ <:+ s.2.dropWhile isGap := suffix_of_afterChar? hbehind
      _ <:+ s.2 := List.dropWhile_suffix _
      _ <:+ named := suffix_of_splitWord? hs
      _ <:+ word.2 := suffix_of_afterGap? hnamed
      _ <:+ type := suffix_of_splitWord? hword
      _ <:+ typed := suffix_of_afterGap? htype
      _ <:+ cs := suffix_of_afterFront? htyped
  · cases h

/-- Code is cut at its first declaration of an output, where a word starts. -/
lemma splitOutput?_eq_some {cs : List Char} {s : OutputSplit} (h : splitOutput? cs = some s) :
    ∃ declaration, cs = s.before ++ (declaration ++ s.rest) ∧ IsWord s.name ∧
      startsWord (lastOf none s.before) = true := by
  have hfrom : ∀ previous, splitOutputFrom? previous cs = some s →
      ∃ declaration, cs = s.before ++ (declaration ++ s.rest) ∧ IsWord s.name ∧
        startsWord (lastOf previous s.before) = true := by
    clear h
    induction cs generalizing s with
    | nil =>
      intro previous h
      cases h
    | cons c cs ih =>
      intro previous h
      rw [splitOutputFrom?] at h
      split at h
      · next name rest hdeclares =>
        cases h
        split at hdeclares
        · next hstart =>
          obtain ⟨hname, declaration, hrest⟩ := outputDeclaration?_eq_some hdeclares
          exact ⟨declaration, hrest.symm, hname, hstart⟩
        · cases hdeclares
      · obtain ⟨t, ht, rfl⟩ := Option.map_eq_some_iff.1 h
        obtain ⟨declaration, rfl, hname, hstart⟩ := ih (some c) ht
        exact ⟨declaration, rfl, hname, hstart⟩
  exact hfrom none h

/-! ### Blank characters -/

/-- The members of a class that has finitely many. -/
def members : SwitchPoints → List Nat
  | low :: high :: rest => List.range' low (high - low) ++ members rest
  | _ => []

lemma mem_members {n : Nat} : ∀ {points : SwitchPoints}, points.length % 2 = 0 →
    points.holds n = true → n ∈ members points
  | [], _, h => by simp at h
  | [_], heven, _ => by simp at heven
  | low :: high :: rest, heven, h => by
    have hlength : rest.length % 2 = 0 := by
      simp only [List.length_cons] at heven
      omega
    have hrest := mem_members (n := n) hlength
    rw [SwitchPoints.holds_cons, SwitchPoints.holds_cons] at h
    rw [members, List.mem_append, List.mem_range'_1]
    by_cases hlow : n < low
    · simp [hlow] at h
    · by_cases hhigh : n < high
      · left
        omega
      · right
        exact hrest (by simpa [hlow, hhigh] using h)

lemma isWordChar_of_isBlank {c : Char} (h : isBlank c = true) : isWordChar c = false := by
  have hall : ∀ n ∈ members blankPoints, isWordChar (Char.ofNat n) = false := by decide +kernel
  have hc := hall _ (mem_members (by decide) h)
  rwa [Char.ofNat_toNat] at hc

lemma isBlank_of_isWordChar {c : Char} (h : isWordChar c = true) : isBlank c = false := by
  by_contra hblank
  rw [isWordChar_of_isBlank (by simpa using hblank)] at h
  exact absurd h (by simp)

/-! ### The header of the main function -/

/-- What follows the header of the main function after its name. -/
def afterParameters? (cs : List Char) : Option (List Char) :=
  (afterChar? '(' (trimLeft cs)).bind fun cs =>
    (afterChar? ')' (cs.dropWhile (· ≠ ')'))).bind fun cs =>
      (afterChar? '\x7b' (trimLeft cs)).bind fun cs => some (dropLineBreak cs)

/-- What follows the header of the main function after its first word. -/
def afterVoid? (cs : List Char) : Option (List Char) :=
  (afterBlanks? cs).bind fun cs => (splitWord? cs).bind fun s =>
    if s.1 = "main".toList then afterParameters? s.2 else none

lemma afterParameters?_of_isWordChar {c : Char} (hc : isWordChar c = true) (cs : List Char) :
    afterParameters? (c :: cs) = none := by
  simp [afterParameters?, trimLeft, isBlank_of_isWordChar hc,
    afterChar?_of_isWordChar hc (d := '(') (by decide)]

lemma afterVoid?_of_isWordChar {c : Char} (hc : isWordChar c = true) (cs : List Char) :
    afterVoid? (c :: cs) = none := by
  simp [afterVoid?, afterBlanks?, isBlank_of_isWordChar hc]

lemma afterMainHeader?_eq (cs : List Char) :
    afterMainHeader? cs = (afterFront? "void".toList cs).bind afterVoid? := by
  show ((afterFront? "void".toList cs).bind fun cs => (afterBlanks? cs).bind fun cs =>
    (afterFront? "main".toList cs).bind afterParameters?) = _
  refine Option.bind_congr fun cs _ => Option.bind_congr fun cs _ => ?_
  exact afterFront?_bind_eq_splitWord? (by decide)
    (fun _ cs hc => afterParameters?_of_isWordChar hc cs) cs

lemma afterMainHeader?_mark {c : Char} (hc : isWordChar c = false) (cs : List Char) :
    afterMainHeader? (c :: cs) = none := by
  rw [afterMainHeader?_eq, afterFront?_mark (by decide) hc]
  rfl

lemma afterMainHeader?_word {w rest : List Char} (hw : ∀ c ∈ w, isWordChar c = true)
    (hrest : AtWordEnd rest) :
    afterMainHeader? (w ++ rest) = if w = "void".toList then afterVoid? rest else none := by
  rw [afterMainHeader?_eq]
  exact afterFront?_bind_word (IsWord.all (by decide)) hw hrest fun _ cs hc =>
    afterVoid?_of_isWordChar hc cs

/-- Put a text in front of the cut one. -/
def MainSplit.prepend (front : List Char) (m : MainSplit) : MainSplit :=
  ⟨front ++ m.before, m.header, m.body⟩

@[simp] lemma MainSplit.prepend_nil : MainSplit.prepend [] = id := rfl

lemma MainSplit.prepend_comp (front front' : List Char) :
    prepend front ∘ prepend front' = prepend (front ++ front') := by
  funext m
  simp [prepend]

lemma splitMain?_mark {c : Char} (hc : isWordChar c = false) (cs : List Char) :
    splitMain? (c :: cs) = (splitMain? cs).map (MainSplit.prepend [c]) := by
  rw [splitMain?, afterMainHeader?_mark hc]
  rfl

/-- A word that is not the first one of a header is passed over. -/
lemma splitMain?_word {w rest : List Char} (hw : ∀ c ∈ w, isWordChar c = true)
    (hrest : AtWordEnd rest) (h : ∀ u, w = u ++ "void".toList → afterVoid? rest = none) :
    splitMain? (w ++ rest) = (splitMain? rest).map (MainSplit.prepend w) := by
  induction w with
  | nil => simp
  | cons c w ih =>
    have hnone : afterMainHeader? (c :: w ++ rest) = none := by
      rw [afterMainHeader?_word hw hrest]
      split
      · next hvoid => exact h [] hvoid
      · rfl
    rw [List.cons_append] at hnone ⊢
    have hrec := ih (fun d hd => hw d (by simp [hd])) fun u hu => h (c :: u) (by simp [hu])
    rw [splitMain?, hnone, hrec]
    simp only [Option.map_map]
    rfl

/-- A text without the first word of a header is passed over. -/
lemma splitMain?_pass {front : List Char} (hfront : AtWordStart front)
    (h : ∀ p ∈ pieces front, ¬ "void".toList <:+ p.text) (rest : List Char) :
    splitMain? (front ++ rest) = (splitMain? rest).map (MainSplit.prepend front) := by
  induction front using text_induction with
  | nil => simp
  | mark c cs hc ih =>
    rw [pieces_mark hc] at h
    rw [List.cons_append, splitMain?_mark hc, ih (hfront.of_suffix (List.suffix_cons c cs))
      fun p hp => h p (by simp [hp]), Option.map_map, MainSplit.prepend_comp]
    rfl
  | word w cs hw hcs ih =>
    rw [pieces_word hw hcs] at h
    have hend := (atWordEnd_append (hfront.ne_nil hw) rest).2 hcs
    have hvoid : ¬ "void".toList <:+ w := h (.word w (follower cs)) (by simp)
    rw [List.append_assoc, splitMain?_word hw.all hend fun u hu => absurd ⟨u, hu.symm⟩ hvoid,
      ih (hfront.of_suffix (List.suffix_append w cs)) fun p hp => h p (by simp [hp]),
      Option.map_map, MainSplit.prepend_comp]

/-- The first header stands where its first word does, which may be a part of a longer word. -/
lemma splitMain?_void {u rest : List Char} (hu : ∀ c ∈ u, isWordChar c = true)
    (hrest : AtWordEnd rest) (h : (afterVoid? rest).isSome) :
    ∃ m, splitMain? (u ++ ("void".toList ++ rest)) = some m ∧ m.before = u ∧
      m.header ++ m.body = "void".toList ++ rest := by
  have hvoid : IsWord "void".toList := by decide
  obtain ⟨body, hbody⟩ := Option.isSome_iff_exists.1 h
  have hcut : ∃ m, splitMain? (u ++ ("void".toList ++ rest)) = some m ∧ m.before = u := by
    induction u with
    | nil =>
      have hheader : afterMainHeader? ('v' :: ("oid".toList ++ rest)) = some body := by
        rw [← hbody]
        exact (afterMainHeader?_word hvoid.all hrest).trans (if_pos rfl)
      show ∃ m, splitMain? ('v' :: ("oid".toList ++ rest)) = some m ∧ m.before = []
      rw [splitMain?, hheader]
      exact ⟨_, rfl, rfl⟩
    | cons c u ih =>
      obtain ⟨m, hm, hbefore⟩ := ih fun d hd => hu d (by simp [hd])
      -- a longer word is not the first one of a header
      have hlong : c :: (u ++ "void".toList) ≠ "void".toList := by
        intro heq
        have hlength := congrArg List.length heq
        simp at hlength
      have hword : ∀ d ∈ c :: (u ++ "void".toList), isWordChar d = true := by
        intro d hd
        rw [← List.cons_append] at hd
        rcases List.mem_append.1 hd with hd | hd
        · exact hu d hd
        · exact hvoid.all d hd
      have hnone := afterMainHeader?_word hword hrest
      rw [if_neg hlong, List.cons_append, List.append_assoc] at hnone
      refine ⟨m.prepend [c], ?_, by simp [MainSplit.prepend, hbefore]⟩
      rw [List.cons_append, splitMain?, hnone, hm]
      rfl
  obtain ⟨m, hm, hbefore⟩ := hcut
  have hwhole := splitMain?_eq_some hm
  rw [hbefore, List.append_assoc] at hwhole
  exact ⟨m, hm, hbefore, (List.append_cancel_left hwhole).symm⟩

/-- The header of the main function starts with its first word. -/
lemma splitMain?_header {cs : List Char} {m : MainSplit} (h : splitMain? cs = some m) :
    ∃ rest, m.header ++ m.body = "void".toList ++ rest ∧ (afterVoid? rest).isSome := by
  induction cs generalizing m with
  | nil => cases h
  | cons c cs ih =>
    have hwhole := splitMain?_eq_some h
    rw [splitMain?] at h
    split at h
    · next body hbody =>
      cases h
      rw [afterMainHeader?_eq] at hbody
      obtain ⟨rest, hrest, hvoid⟩ := Option.bind_eq_some_iff.1 hbody
      refine ⟨rest, ?_, by simp [hvoid]⟩
      rw [← eq_append_of_afterFront? hrest]
      exact hwhole.symm
    · obtain ⟨n, hn, rfl⟩ := Option.map_eq_some_iff.1 h
      exact ih (m := n) hn

lemma atWordEnd_blanks {blanks cs : List Char} (hne : blanks ≠ [])
    (hblanks : ∀ b ∈ blanks, isBlank b = true) : AtWordEnd (blanks ++ cs) := by
  obtain ⟨b, bs, rfl⟩ := List.exists_cons_of_ne_nil hne
  exact atWordEnd_cons.2 (isWordChar_of_isBlank (hblanks b (by simp)))

lemma afterChar?_blanks {d : Char} {blanks v rest : List Char} (hv : IsWord v)
    (hblanks : ∀ b ∈ blanks, isBlank b = true) (hd : isWordChar d = false)
    (hblank : isBlank d = false) : afterChar? d (blanks ++ (v ++ rest)) = none := by
  cases blanks with
  | nil => exact hv.afterChar? hd
  | cons b bs =>
    have hne : b ≠ d := by
      rintro rfl
      exact absurd (hblanks b (by simp)) (by simp [hblank])
    simp [afterChar?, hne]

/-- Two words with blank characters between them stand by themselves, unless the first is a type, or
the second is the name of a variable. -/
lemma standalone_of_blanks {v blanks w rest : List Char} (hv : IsWord v) (htype : v ≠ "vec4".toList)
    (hne : blanks ≠ []) (hblanks : ∀ b ∈ blanks, isBlank b = true) (hw : IsWord w)
    (hrest : AtWordEnd rest) (hbracket : afterChar? '[' rest = none)
    (hsemicolon : afterChar? ';' rest = none) : Standalone v (blanks ++ (w ++ rest)) where
  word := hv
  mark := atWordEnd_blanks hne hblanks
  notType := htype
  notLength := afterChar?_blanks hw hblanks (by decide) (by decide)
  notName := by
    rw [afterLength_eq, afterChar?_blanks hw hblanks (by decide) (by decide)]
    exact afterChar?_blanks hw hblanks (by decide) (by decide)
  notOutput := by
    rw [(dropWhile_isGap_append hw).1]
    exact afterChar?_blanks hw (fun b hb => hblanks b (List.dropWhile_subset _ hb)) (by decide)
      (by decide)
  notVariable := by
    rw [afterVariable?_eq, splitWord?_word hv (atWordEnd_blanks hne hblanks), Option.bind_some,
      afterGap?_append hw, Option.bind_map]
    refine Option.bind_eq_none_iff.2 fun bs hbs => ?_
    simp only [Function.comp_apply]
    by_cases hnil : bs = []
    · rw [hnil, List.nil_append, splitWord?_word hw hrest, Option.bind_some, afterLength_eq,
        hbracket]
      exact hsemicolon
    · have hbs' : ∀ b ∈ bs, isBlank b = true := fun b hb =>
        hblanks b ((suffix_of_afterGap? hbs).subset hb)
      rw [splitWord?_of_atWordEnd (atWordEnd_blanks hnil hbs')]
      rfl

lemma exists_blanks {cs rest : List Char} (h : afterBlanks? cs = some rest) :
    ∃ blanks, cs = blanks ++ rest ∧ blanks ≠ [] ∧ ∀ b ∈ blanks, isBlank b = true := by
  match cs, h with
  | c :: cs, h =>
    rw [afterBlanks?] at h
    split at h
    · next hc =>
      cases h
      refine ⟨c :: cs.takeWhile isBlank, ?_, by simp, ?_⟩
      · rw [List.cons_append, trimLeft, List.takeWhile_append_dropWhile]
      · intro b hb
        rcases List.mem_cons.1 hb with rfl | hb
        · exact hc
        · exact List.mem_takeWhile_imp hb
    · cases h

/-- The header of the main function stands by itself. -/
lemma standalone_void {rest : List Char} (h : (afterVoid? rest).isSome) :
    Standalone "void".toList rest := by
  obtain ⟨body, hbody⟩ := Option.isSome_iff_exists.1 h
  obtain ⟨cs, hcs, hname⟩ := Option.bind_eq_some_iff.1 hbody
  obtain ⟨⟨w, behind⟩, hs, hparameters⟩ := Option.bind_eq_some_iff.1 hname
  obtain ⟨blanks, rfl, hne, hblanks⟩ := exists_blanks hcs
  obtain ⟨hw, hbehind, rfl⟩ := splitWord?_eq_some hs
  split at hparameters
  · obtain ⟨parameters, hopen, -⟩ := Option.bind_eq_some_iff.1 hparameters
    -- behind the name stands a blank character or the parenthesis
    have hother : ∀ d, isBlank d = false → d ≠ '(' → afterChar? d behind = none := by
      intro d hblank hparenthesis
      match behind, hopen with
      | [], hopen => cases hopen
      | c :: cs, hopen =>
        have hne : c ≠ d := by
          rintro rfl
          rw [trimLeft, List.dropWhile_cons, hblank, if_neg (by simp), afterChar?_eq_some_iff]
            at hopen
          exact hparenthesis (List.cons.inj hopen).1
        simp [afterChar?, hne]
    exact standalone_of_blanks (by decide) (by decide) hne hblanks hw hbehind
      (hother '[' (by decide) (by decide)) (hother ';' (by decide) (by decide))
  · cases hparameters

end ShaderLoom.Glsl
