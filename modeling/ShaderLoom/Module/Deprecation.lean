import ShaderLoom.Glsl.Main
import ShaderLoom.Glsl.Substitution
import ShaderLoom.Value.Access
import ShaderLoom.Failure

/-!
# Deprecated names

A module names functions and variables that it no longer wants to be used. Code uses an old function
where the name is followed by an opening parenthesis, and an old variable where it is declared with
a given qualifier and some type.
-/

namespace ShaderLoom

open Text Glsl

/-- What use of an old name looks like. -/
inductive OldUse where
  /-- A call of a function. -/
  | call
  /-- A declaration with the given qualifier. -/
  | declaration (qualifier : String)
deriving DecidableEq

/-- An old name and its successor. -/
structure Deprecation where
  /-- What use of the old name looks like. -/
  use : OldUse
  /-- The old name. -/
  old : String
  /-- What to use instead. -/
  new : Value
  /-- Whether the old name still works. -/
  stillWorks : Bool

/-- The urgency of a notice. -/
inductive Severity where
  | warning
  | error
deriving DecidableEq

/-- Something to be reported to the author of a shader. -/
structure Notice where
  severity : Severity
  message : String
deriving DecidableEq

namespace Deprecation

/-- The value under a key that has to be there. -/
def required (es : Entries) (key : String) : Answer Value :=
  match Entries.getText? es key with
  | some v => .ok v
  | none => .error .missingKey

/-- A value that has to be a text. -/
def requiredText : Value → Answer String
  | .text s => .ok s
  | _ => .error .unsupported

/-- Read a deprecation: a map with `type`, `old` and `new`, and possibly `deprecated`, which is
false for names that no longer work. -/
def ofValue : Value → Answer Deprecation
  | .map _ es => do
    let old ← requiredText (← required es "old")
    let type ← required es "type"
    let use ←
      match type with
      | .text "function" => (.ok .call : Answer OldUse)
      | v => (requiredText v).map .declaration
    let new ← required es "new"
    let stillWorks ← ((Entries.getText? es "deprecated").getD (.bool true)).truth
    .ok ⟨use, old, new, stillWorks⟩
  | v => do
    let _ ← v.item (.text "old")
    .error .unsupported

/-- Whether a text ends a declaration: blank characters and a semicolon. -/
def endsDeclaration (cs : List Char) : Bool := (trimLeft cs).head? = some ';'

/-- Whether the old name and the end of a declaration follow at least one blank character. The name
may itself start with blank characters, so that every number of them is tried. -/
def oldNameAfterBlanks (old : List Char) : List Char → Bool
  | [] => false
  | c :: cs =>
    isBlank c &&
      ((afterFront? old cs).any endsDeclaration || oldNameAfterBlanks old cs)

/-- Whether a use of the old name stands at the front of a text. -/
def usedAtFront (d : Deprecation) (cs : List Char) : Bool :=
  match d.use with
  | .call => (afterFront? (d.old.toList ++ ['(']) cs).isSome
  | .declaration qualifier =>
    let typeAndName := do
      let cs ← afterFront? qualifier.toList cs
      let cs ← afterBlanks? cs
      let (_, cs) ← splitWord? cs
      some (oldNameAfterBlanks d.old.toList cs)
    typeAndName.getD false

/-- Whether a text uses the old name, given the character before it. Uses start at a word
boundary. -/
def usedFrom (d : Deprecation) : Option Char → List Char → Bool
  | _, [] => false
  | previous, c :: cs =>
    (isBoundary previous (some c) && d.usedAtFront (c :: cs)) || d.usedFrom (some c) cs

/-- The notice about a use of the old name. -/
def notice (d : Deprecation) (moduleName : String) : Answer Notice := do
  let new ← d.new.embedded
  let subject := joinTexts "" ["Shader module ", Text.quoted moduleName, ": \x60", d.old, "\x60"]
  .ok <|
    if d.stillWorks then
      ⟨.warning, joinTexts "" [subject, " is deprecated, use \x60", new, "\x60 instead."]⟩
    else
      ⟨.error, joinTexts "" [subject, " has been removed, use \x60", new, "\x60 instead."]⟩

end Deprecation

end ShaderLoom
