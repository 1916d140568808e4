import ShaderLoom.Text.Search
import ShaderLoom.Failure

/-!
# The version line of a source

A source whose first line starts with `#version` and a blank is written in dialect 300. Its first
line is kept apart from the rest, so that nothing is put in front of it. Every other source is
written in dialect 100 and gets a version line of its own.
-/

namespace ShaderLoom.Glsl

open Text

/-- A source with its version line kept apart. -/
structure VersionedSource where
  /-- The version line, without the line break. -/
  versionLine : List Char
  /-- The number of the dialect. -/
  version : Nat
  /-- Everything but the version line. -/
  body : List Char
deriving DecidableEq

/-- The number of the oldest dialect. -/
def oldestVersion : Nat := 100

/-- Keep the version line of a source apart. -/
def VersionedSource.ofChars (cs : List Char) : VersionedSource :=
  let (line, rest) := cutAt '\n' cs
  if (afterFront? "#version ".toList line).isSome then ⟨line, 300, rest⟩
  else ⟨"#version 100".toList, oldestVersion, cs⟩

/-- Keep the version line of a source that is given as a value apart. -/
def VersionedSource.ofValue : Value → Result VersionedSource
  | .text s => .ok (ofChars s.toList)
  | v => .error (.sourceNotText v)

end ShaderLoom.Glsl
