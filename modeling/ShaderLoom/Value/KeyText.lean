import ShaderLoom.Value.Arrays
import ShaderLoom.Value.Sorting
import ShaderLoom.Text.Quoted

/-!
# The text that identifies a value

Results are stored under a text that identifies the values they were made from. Tuples and arrays
are written as lists and fixed-width numbers as plain ones; the entries of a map are sorted by their
keys, so that their insertion order leaves no trace. Modules and functions are written with their
identity and without quotes, so that no text looks like one of them. Everything else is told apart:
integers from floats, numbers from texts, truth values from numbers.
-/

namespace ShaderLoom

open Number Text

/-- A unit of sixteen bits in a quoted text. -/
def unitEscape (n : Nat) : List Char := '\\' :: 'u' :: hexDigits 4 n

/-- How one character is written between double quotes; only basic Latin is left as it is. -/
def keyChar (c : Char) : List Char :=
  if c = '"' ∨ c = '\\' then ['\\', c]
  else if c = '\n' then ['\\', 'n']
  else if c = '\r' then ['\\', 'r']
  else if c = '\t' then ['\\', 't']
  else if c = '\x0c' then ['\\', 'f']
  else if c = '\x08' then ['\\', 'b']
  else if 32 ≤ c.toNat ∧ c.toNat < 127 then [c]
  else if c.toNat < 0x10000 then unitEscape c.toNat
  else
    let n := c.toNat - 0x10000
    unitEscape (0xD800 + n / 0x400) ++ unitEscape (0xDC00 + n % 0x400)

/-- A text between double quotes. -/
def keyQuoted (s : String) : String := String.ofList ('"' :: s.toList.flatMap keyChar ++ ['"'])

/-- How a double is written. -/
def keyDouble (x : Float) : String :=
  match Quantity.ofDouble x with
  | .finite _ => doubleText x
  | .infinite negative => if negative then "-Infinity" else "Infinity"
  | .missing => "NaN"

namespace Value

/-- How the key of a map is written. Only texts, plain real numbers, truth values and the absent
value can be keys. -/
def mapKeyText : Value → Answer String
  | .text s => .ok (keyQuoted s)
  | .bool b => .ok (keyQuoted (if b then "true" else "false"))
  | .null => .ok (keyQuoted "null")
  | .int n => do .ok (keyQuoted (← printedInt n))
  | .float x => .ok (keyQuoted (keyDouble x))
  | .scalar (.double x) => .ok (keyQuoted (keyDouble x))
  | _ => .error .unsupported

/-- How a fixed-width number is written. -/
def scalarKeyText : Scalar → String
  | .single x => keyDouble x.toFloat
  | .double x => keyDouble x
  | .integer _ n => intText n
  | .truth b => if b then "true" else "false"

/-- The text of an array's nested lists. -/
def arrayKeyText : List Nat → List String → String
  | [], texts => texts.headD "null"
  | [_], texts => joinTexts "" ["[", joinTexts ", " texts, "]"]
  | n :: shape, texts =>
    joinTexts ""
      ["[", joinTexts ", " ((pieces (cellCount shape) n texts).map (arrayKeyText shape)), "]"]

mutual

/-- The text that identifies a value, if it has one. -/
def keyText : Value → Answer String
  | .null => .ok "null"
  | .bool b => .ok (if b then "true" else "false")
  | .int n => printedInt n
  | .float x => .ok (keyDouble x)
  | .text s => .ok (keyQuoted s)
  | .list xs => do .ok (joinTexts "" ["[", joinTexts ", " (← keyTextAll xs), "]"])
  | .tuple xs => do .ok (joinTexts "" ["[", joinTexts ", " (← keyTextAll xs), "]"])
  | .map _ es => do
    let sorted ← sortByValue (·.1) (keyTextEntries es)
    let parts ← sorted.mapM fun e => do .ok (joinTexts ": " [← mapKeyText e.1, ← e.2])
    .ok (joinTexts "" ["\x7b", joinTexts ", " parts, "\x7d"])
  | .scalar s => .ok (scalarKeyText s)
  | .array a => .ok (arrayKeyText a.shape (a.cells.map scalarKeyText))
  | .moduleRef m => .ok (joinTexts "" ["module@", intText m.id])
  | .functionRef f => .ok (joinTexts "" ["function@", intText f.id])
  | _ => .error .unsupported

/-- The texts that identify the members of a sequence. -/
def keyTextAll : List Value → Answer (List String)
  | [] => .ok []
  | x :: xs => do
    let t ← keyText x
    let ts ← keyTextAll xs
    .ok (t :: ts)

/-- The keys of a map with the texts that identify their values. -/
def keyTextEntries : List (Value × Value) → List (Value × Answer String)
  | [] => []
  | (k, v) :: rest => (k, keyText v) :: keyTextEntries rest

end

end Value

end ShaderLoom
