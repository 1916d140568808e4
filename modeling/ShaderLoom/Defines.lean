import ShaderLoom.Module.Basic
import ShaderLoom.Text.Case

/-!
# Defines

The defines of modules and of the application are merged, later modules overriding earlier ones and
the application overriding all modules. Numbers are written if they are finite, other values if they
count as true, so that a define can be suppressed by a value that counts as false.
-/

namespace ShaderLoom

namespace Defines

/-- The defines of the modules, later ones overriding earlier ones. -/
def ofModules (modules : List ShaderModule) : Entries :=
  modules.foldl (fun es m => Entries.putAll es m.defines.entries) []

/-- The defines of the modules, overridden by those of the application. -/
def merge (modules : List ShaderModule) (application : Value) : Answer Entries := do
  let application ← application.orElse (.map .plain [])
  .ok (Entries.putAll (ofModules modules) (← application.entriesOf))

/-- Whether a value is written. -/
def isWritten (v : Value) : Answer Bool := if v.isNumber then .ok v.isFiniteNumber else v.truth

/-- How a value is written. -/
def valueText : Value → Answer String
  | .bool b => .ok (if b then "true" else "false")
  | .scalar (.truth b) => .ok (if b then "true" else "false")
  | .scalar s => s.item.display
  | v => v.display

/-- The name that a key is written as. -/
def macroName : Value → Answer String
  | .text s => .ok (String.ofList (Text.upper s.toList))
  | _ => .error .missingAttribute

/-- The line for one entry, if it is written. -/
def line? (key v : Value) : Answer (Option String) := do
  if ← isWritten v then
    let name ← macroName key
    let text ← valueText v
    .ok (some s!"#define {name} {text}")
  else .ok none

/-- The code for merged defines: a heading and a line for each entry that is written. -/
def code (es : Entries) : Answer String :=
  if es.isEmpty then .ok "\n"
  else do
    let lines ← es.mapM fun e => line? e.1 e.2
    .ok (joinTexts "\n" (["", "// APPLICATION DEFINES"] ++ lines.filterMap id) ++ "\n")

/-- The code for defines that are given as a value. -/
def codeOf (defines : Value) : Answer String := do
  if ← defines.truth then
    match defines with
    | .map _ es => code es
    | _ => .error .missingAttribute
  else .ok "\n"

end Defines

end ShaderLoom
