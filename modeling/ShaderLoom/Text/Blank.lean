import ShaderLoom.Text.SwitchPoints

/-!
# Blank characters

The characters that separate words without being seen: spaces of every width, tabulators, line and
paragraph separators, and the four information separators. Also the trimming of texts by them.
-/

namespace ShaderLoom.Text

/-- Blank characters of all scripts. -/
def blankPoints : SwitchPoints :=
  [9, 14, 28, 33, 133, 134, 160, 161, 5760, 5761, 8192, 8203, 8232, 8234, 8239, 8240, 8287, 8288,
   12288, 12289]

/-- Whether the character is blank. -/
def isBlank (c : Char) : Bool :=
  blankPoints.holds c.toNat

/-- Drop the blank characters at the front. -/
def trimLeft (cs : List Char) : List Char := cs.dropWhile isBlank

/-- Drop the blank characters at the back. -/
def trimRight (cs : List Char) : List Char := (cs.reverse.dropWhile isBlank).reverse

/-- Drop the blank characters at both ends. -/
def trim (cs : List Char) : List Char := trimRight (trimLeft cs)

/-- Whether a text has blank characters only. -/
def isBlankText (cs : List Char) : Bool := cs.all isBlank

@[simp] theorem trim_nil : trim [] = [] := rfl

end ShaderLoom.Text
