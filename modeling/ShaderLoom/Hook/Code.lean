import ShaderLoom.Hook.Basic
import ShaderLoom.Injection.Slots

/-!
# The code of hook functions

A hook becomes a function without result. Its body holds the header, the injections under its key
arranged by order, and the footer, indented by two blanks; blank lines are not indented.
-/

namespace ShaderLoom

open Text

namespace Hook

/-- Indent the lines of a text; line breaks at its end do not count. -/
def indent (cs : List Char) : List Char :=
  (splitOn '\n' (dropTrailing '\n' cs)).flatMap fun line =>
    (if isBlankText line then [] else ' ' :: ' ' :: line) ++ ['\n']

/-- The indented text of a header or a footer; one that counts as false has none. -/
def indentedPart (v : Value) : Answer (List Char) := do
  if ← v.truth then
    match v with
    | .text s => .ok (indent s.toList)
    | _ => .error .missingAttribute
  else .ok []

/-- The code of one hook with the given injections. -/
def code (h : Hook) (injections : List Injection) : Answer (List Char) := do
  let header ← indentedPart h.header
  let body := (← Injection.arrange injections).flatMap fun i => indent i.content.toList
  let footer ← indentedPart h.footer
  .ok ("void ".toList ++ h.signature.toList ++ " \x7b\n".toList ++ header ++ body ++ footer ++
    "\x7d\n".toList)

/-- The code of hooks, with the injections under their keys. -/
def codeAll (hooks : List Hook) (buckets : List Bucket) : Answer (List Char) := do
  let parts ← hooks.mapM fun h => h.code (Bucket.lookup buckets h.key)
  .ok parts.flatten

end Hook

end ShaderLoom
