import ShaderLoom.Number.Reading
import ShaderLoom.Text.Search
import ShaderLoom.Value.Basic

/-!
# The release

The number of the release as a text and as a tuple of its parts, where parts with numeric characters
only are integers.
-/

namespace ShaderLoom.Release

/-- The number of the release. -/
def version : String := "0.1.0"

/-- A part of the number: an integer if it can be read as one. -/
def part (cs : List Char) : Value :=
  match Number.readInt? cs with
  | some n => .int n
  | none => .text (String.ofList cs)

/-- The parts of the number. -/
def info : Value := .tuple ((Text.splitOn '.' version.toList).map part)

end ShaderLoom.Release
