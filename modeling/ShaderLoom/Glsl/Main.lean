import ShaderLoom.Text.Search

/-!
# The main function in shader code

The header of the main function is `void main (…) {`, with blank characters between the words and
anything but a closing parenthesis between the parentheses; one line break after the brace belongs
to it. The end of the main function is the brace that closes its first one.
-/

namespace ShaderLoom.Glsl

open Text

/-- What follows at least one blank character, all blank characters being skipped. -/
def afterBlanks? : List Char → Option (List Char)
  | [] => none
  | c :: cs => if isBlank c then some (trimLeft cs) else none

theorem suffix_of_afterBlanks? {cs rest : List Char} (h : afterBlanks? cs = some rest) :
    rest <:+ cs := by
  cases cs with
  | nil => simp [afterBlanks?] at h
  | cons c cs =>
    simp only [afterBlanks?] at h
    split at h
    · obtain rfl : trimLeft cs = rest := by simpa using h
      exact (List.dropWhile_suffix _).trans (List.suffix_cons c cs)
    · simp at h

/-- What follows a character, if the text starts with it. -/
def afterChar? (c : Char) : List Char → Option (List Char)
  | [] => none
  | d :: cs => if d = c then some cs else none

theorem suffix_of_afterChar? {c : Char} {cs rest : List Char} (h : afterChar? c cs = some rest) :
    rest <:+ cs := by
  cases cs with
  | nil => simp [afterChar?] at h
  | cons d cs =>
    simp only [afterChar?] at h
    split at h
    · obtain rfl : cs = rest := by simpa using h
      exact List.suffix_cons d cs
    · simp at h

/-- Drop one line break at the front. -/
def dropLineBreak : List Char → List Char
  | '\n' :: cs => cs
  | cs => cs

theorem dropLineBreak_suffix (cs : List Char) : dropLineBreak cs <:+ cs := by
  unfold dropLineBreak
  split
  · exact List.suffix_cons _ _
  · exact List.suffix_refl _

/-- What follows the header of the main function, if the text starts with it. -/
def afterMainHeader? (cs : List Char) : Option (List Char) := do
  let cs ← afterFront? ['v', 'o', 'i', 'd'] cs
  let cs ← afterBlanks? cs
  let cs ← afterFront? ['m', 'a', 'i', 'n'] cs
  let cs ← afterChar? '(' (trimLeft cs)
  let cs ← afterChar? ')' (cs.dropWhile (· ≠ ')'))
  let cs ← afterChar? '\x7b' (trimLeft cs)
  some (dropLineBreak cs)

theorem suffix_of_afterMainHeader? {cs rest : List Char} (h : afterMainHeader? cs = some rest) :
    rest <:+ cs := by
  simp only [afterMainHeader?, Option.bind_eq_bind, Option.bind_eq_some_iff] at h
  obtain ⟨a, ha, b, hb, c, hc, d, hd, e, he, f, hf, hr⟩ := h
  obtain rfl : dropLineBreak f = rest := by simpa using hr
  exact (dropLineBreak_suffix f).trans <| (suffix_of_afterChar? hf).trans <|
    (List.dropWhile_suffix _).trans <| (suffix_of_afterChar? he).trans <|
    (List.dropWhile_suffix _).trans <| (suffix_of_afterChar? hd).trans <|
    (List.dropWhile_suffix _).trans <| (suffix_of_afterFront? hc).trans <|
    (suffix_of_afterBlanks? hb).trans (suffix_of_afterFront? ha)

/-- A text cut at the first header of a main function. -/
structure MainSplit where
  /-- The text before the header. -/
  before : List Char
  /-- The header, from its first word to its brace and a line break. -/
  header : List Char
  /-- The text after the header. -/
  body : List Char
deriving DecidableEq

/-- Cut a text at the first header of a main function. -/
def splitMain? : List Char → Option MainSplit
  | [] => none
  | c :: cs =>
    match afterMainHeader? (c :: cs) with
    | some body => some ⟨[], (c :: cs).take ((c :: cs).length - body.length), body⟩
    | none => (splitMain? cs).map fun m => ⟨c :: m.before, m.header, m.body⟩

/-- Cutting at the main function loses nothing. -/
theorem splitMain?_eq_some {cs : List Char} {m : MainSplit} (h : splitMain? cs = some m) :
    cs = m.before ++ m.header ++ m.body := by
  induction cs generalizing m with
  | nil => simp [splitMain?] at h
  | cons c cs ih =>
    simp only [splitMain?] at h
    split at h
    · next body hb =>
      obtain rfl : ⟨[], (c :: cs).take ((c :: cs).length - body.length), body⟩ = m := by
        simpa using h
      obtain ⟨header, hh⟩ := suffix_of_afterMainHeader? hb
      simp only [List.nil_append]
      rw [← hh]
      simp
    · obtain ⟨n, hn, rfl⟩ := Option.map_eq_some_iff.1 h
      simp [ih hn]

/-- The position of the brace that closes `depth` open braces and one more. -/
def closingBrace? : Nat → List Char → Option Nat
  | _, [] => none
  | depth, c :: cs =>
    if c = '\x7b' then (closingBrace? (depth + 1) cs).map (· + 1)
    else if c = '\x7d' then
      match depth with
      | 0 => some 0
      | depth + 1 => (closingBrace? depth cs).map (· + 1)
    else (closingBrace? depth cs).map (· + 1)

/-- The position of the brace that closes the first brace from the header of the main function
on. -/
def endOfMain? (cs : List Char) : Option Nat :=
  match splitMain? cs with
  | none => none
  | some m =>
    let tail := m.header ++ m.body
    let skipped := m.before.length + (tail.takeWhile (· ≠ '\x7b')).length + 1
    (closingBrace? 0 ((tail.dropWhile (· ≠ '\x7b')).drop 1)).map (· + skipped)

end ShaderLoom.Glsl
