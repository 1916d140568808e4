import ShaderLoom.Number.Rounding
import ShaderLoom.Text.Blank
import ShaderLoom.Text.Digits
import ShaderLoom.Text.Case

/-!
# Reading numbers

The texts that are accepted as integers and as floats. Blank characters around a number are
skipped, but not the information separators; digits of all scripts count, and a single underscore
may stand between two digits.
-/

namespace ShaderLoom.Number

open ShaderLoom.Text

/-- The digits of a text that holds digits only, with single underscores between digits. The flag
says whether the character before was a digit. -/
def groupedDigits? : Bool → List Char → Option (List Nat)
  | afterDigit, [] => if afterDigit then some [] else none
  | afterDigit, c :: cs =>
    if c = '_' then if afterDigit then groupedDigits? false cs else none
    else
      match decimalValue? c with
      | some d => (groupedDigits? true cs).map (d :: ·)
      | none => none

/-- Whether the character may surround a number: a blank one other than the information
separators. -/
def isNumberBlank (c : Char) : Bool := isBlank c && !(28 ≤ c.toNat && c.toNat ≤ 31)

/-- Drop the characters that may surround a number. -/
def trimNumber (cs : List Char) : List Char :=
  ((cs.dropWhile isNumberBlank).reverse.dropWhile isNumberBlank).reverse

/-- The number that digits of a base stand for. -/
def ofDigits (base : Nat) (ds : List Nat) : Nat := ds.foldl (fun n d => n * base + d) 0

/-- A leading sign, and what follows it. -/
def splitSign : List Char → Bool × List Char
  | '-' :: cs => (true, cs)
  | '+' :: cs => (false, cs)
  | cs => (false, cs)

/-- The most digits that an integer may be written with. -/
def maxIntDigits : Nat := 4300

/-- Read an integer in base ten. -/
def readInt? (cs : List Char) : Option Int :=
  let (negative, body) := splitSign (trimNumber cs)
  match groupedDigits? false body with
  | some ds =>
    if ds.length ≤ maxIntDigits then
      some (if negative then -(ofDigits 10 ds : Int) else ofDigits 10 ds)
    else none
  | none => none

/-- The value of a character as a digit in a base up to thirty-six: a digit of any script, or a
letter. -/
def digitIn? (base : Nat) (c : Char) : Option Nat :=
  let v :=
    match decimalValue? c with
    | some d => some d
    | none =>
      if 'a' ≤ c ∧ c ≤ 'z' then some (c.toNat - 'a'.toNat + 10)
      else if 'A' ≤ c ∧ c ≤ 'Z' then some (c.toNat - 'A'.toNat + 10)
      else none
  v.filter (· < base)

/-- The digits of a text in a base, with single underscores between digits. The flag says whether
the character before was a digit. -/
def groupedDigitsIn? (base : Nat) : Bool → List Char → Option (List Nat)
  | afterDigit, [] => if afterDigit then some [] else none
  | afterDigit, c :: cs =>
    if c = '_' then if afterDigit then groupedDigitsIn? base false cs else none
    else
      match digitIn? base c with
      | some d => (groupedDigitsIn? base true cs).map (d :: ·)
      | none => none

/-- The bases that have marks, with the letter of the mark. -/
def markedBases : List (Nat × Char) := [(2, 'b'), (8, 'o'), (16, 'x')]

/-- The base that the mark at the front of a text names, and what follows the mark. -/
def splitMark? (cs : List Char) : Option (Nat × List Char) :=
  match cs with
  | '0' :: m :: rest =>
    (markedBases.find? fun b => m.toLower = b.2).map fun b => (b.1, rest)
  | _ => none

/-- The base and the digits of an unsigned integer. A mark that names the base is skipped, together
with one underscore after it. The base zero stands for the base that the text itself names, or else
for ten; a number other than zero then has no zero at its front. -/
def basedDigits? (base : Nat) (body : List Char) : Option (Nat × List Nat) :=
  match splitMark? body with
  | some (b, rest) =>
    if base = 0 ∨ base = b then
      (groupedDigitsIn? b false (if rest.head? = some '_' then rest.drop 1 else rest)).map
        fun ds => (b, ds)
    else (groupedDigitsIn? base false body).map fun ds => (base, ds)
  | none =>
    if base = 0 then
      match groupedDigitsIn? 10 false body with
      | some ds => if ds.head? = some 0 ∧ ds.any (· ≠ 0) then none else some (10, ds)
      | none => none
    else (groupedDigitsIn? base false body).map fun ds => (base, ds)

/-- Whether a base is a power of two, so that digits of it can be read without limit. -/
def isBinaryBase (base : Nat) : Bool := [2, 4, 8, 16, 32].contains base

/-- Read an integer in a base between two and thirty-six, or in the base that it names itself. -/
def readIntIn? (base : Nat) (cs : List Char) : Option Int :=
  let (negative, body) := splitSign (trimNumber cs)
  match basedDigits? base body with
  | some (b, ds) =>
    if ds.length ≤ maxIntDigits || isBinaryBase b then
      some (if negative then -(ofDigits b ds : Int) else ofDigits b ds)
    else none
  | none => none

/-- The double nearest to the number with the given digits times `10 ^ exponent`. Numbers far
outside of the range of doubles are decided without computing the power. -/
def scaledDouble (ds : List Nat) (exponent : Int) : Float :=
  let ds := ds.dropWhile (· = 0)
  let digits := ofDigits 10 ds
  let length := ds.length
  if digits = 0 then 0
  else if 400 < length + exponent then doubleOfRat (Nat.pow 10 400 : Nat)
  else if length + exponent < -400 then 0
  else if 0 ≤ exponent then doubleOfRat (digits * Nat.pow 10 exponent.toNat : Nat)
  else doubleOfRat (mkRat digits (Nat.pow 10 (-exponent).toNat))

/-- Split at the first character that satisfies a test, which is dropped. -/
def splitBefore (p : Char → Bool) (cs : List Char) : List Char × Option (List Char) :=
  match cs.dropWhile (!p ·) with
  | [] => (cs, none)
  | _ :: rest => (cs.takeWhile (!p ·), some rest)

/-- The digits of an optional part. -/
def partDigits? (cs : List Char) : Option (List Nat) :=
  if cs = [] then some [] else groupedDigits? false cs

/-- Read digits with an optional point and an optional power of ten. -/
def readUnsignedDouble? (cs : List Char) : Option Float :=
  let (mantissa, power) := splitBefore (fun c => c = 'e' || c = 'E') cs
  let (whole, fraction) := splitBefore (· = '.') mantissa
  match partDigits? whole, partDigits? (fraction.getD []) with
  | some ws, some fs =>
    if ws.isEmpty && fs.isEmpty then none
    else
      let exponent? : Option Int :=
        match power with
        | none => some 0
        | some p =>
          let (negative, body) := splitSign p
          (groupedDigits? false body).map fun ds =>
            if negative then -(ofDigits 10 ds : Int) else ofDigits 10 ds
      exponent?.map fun e =>
        scaledDouble (ws ++ fs) (e - fs.length)
  | _, _ => none

/-- Infinity. -/
def infinity : Float := 1 / 0

/-- Read a float. Infinity and the missing number have names, in any case of letters. -/
def readDouble? (cs : List Char) : Option Float :=
  let (negative, body) := splitSign (trimNumber cs)
  let name := lower body
  let magnitude? :=
    if name = ['i', 'n', 'f'] ∨ name = ['i', 'n', 'f', 'i', 'n', 'i', 't', 'y'] then some infinity
    else if name = ['n', 'a', 'n'] then some (0 / 0)
    else readUnsignedDouble? body
  magnitude?.map fun x => if negative then -x else x

end ShaderLoom.Number
