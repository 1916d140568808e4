import ShaderLoom.Text.WordChar
import ShaderLoom.Text.Search

/-!
# Substitution by rules

A rule looks at the text from some place on and says how many characters it replaces by what.
Substitution applies a rule at every place from left to right and goes on after what was replaced.
-/

namespace ShaderLoom.Glsl

open Text

/-- What a rule replaces at a place. -/
structure Replacement where
  /-- How many characters after the first one are replaced. -/
  more : Nat
  /-- What stands for them. -/
  new : List Char
deriving DecidableEq

/-- A rule is given the character before a place and the text from the place on. -/
abbrev Rule := Option Char → List Char → Option Replacement

/-- Substitute in a text, after dropping `skip` characters that were replaced already. -/
def substituteFrom (rule : Rule) : Nat → Option Char → List Char → List Char
  | _, _, [] => []
  | skip + 1, _, c :: cs => substituteFrom rule skip (some c) cs
  | 0, previous, c :: cs =>
    match rule previous (c :: cs) with
    | some r => r.new ++ substituteFrom rule r.more (some c) cs
    | none => c :: substituteFrom rule 0 (some c) cs

/-- Substitute in a text by a rule. -/
def substitute (rule : Rule) (cs : List Char) : List Char := substituteFrom rule 0 none cs

/-- Whether the rule applies at no place. -/
def inapplicable (rule : Rule) : Option Char → List Char → Bool
  | _, [] => true
  | previous, c :: cs => (rule previous (c :: cs)).isNone && inapplicable rule (some c) cs

theorem substituteFrom_of_inapplicable (rule : Rule) (previous : Option Char) (cs : List Char)
    (h : inapplicable rule previous cs = true) : substituteFrom rule 0 previous cs = cs := by
  induction cs generalizing previous with
  | nil => rfl
  | cons c cs ih =>
    simp only [inapplicable, Bool.and_eq_true, Option.isNone_iff_eq_none] at h
    simp [substituteFrom, h.1, ih _ h.2]

/-- Whether a word can start after the given character. -/
def startsWord (previous : Option Char) : Bool := !previous.any isWordChar

/-- The replacement of everything up to a rest of the text. -/
def replaceUntil (cs rest new : List Char) : Replacement := ⟨cs.length - rest.length - 1, new⟩

/-- Whether the character is a space or a tabulator. -/
def isGap (c : Char) : Bool := c = ' ' || c = '\t'

/-- What follows at least one space or tabulator. -/
def afterGap? : List Char → Option (List Char)
  | [] => none
  | c :: cs => if isGap c then some (cs.dropWhile isGap) else none

/-- The word that a text starts with, and what follows it. -/
def splitWord? (cs : List Char) : Option (List Char × List Char) :=
  let word := cs.takeWhile isWordChar
  if word = [] then none else some (word, cs.dropWhile isWordChar)

/-- Rename a word where it stands as a whole. -/
def renameRule (old new : List Char) : Rule := fun previous cs =>
  if startsWord previous then
    match afterFront? old cs with
    | some rest => if rest.head?.any isWordChar then none else some (replaceUntil cs rest new)
    | none => none
  else none

/-- Rename a word wherever it stands as a whole. -/
def renameWord (old new cs : List Char) : List Char := substitute (renameRule old new) cs

/-- Whether the word stands somewhere as a whole. -/
def hasWord (word cs : List Char) : Bool := !inapplicable (renameRule word word) none cs

end ShaderLoom.Glsl
