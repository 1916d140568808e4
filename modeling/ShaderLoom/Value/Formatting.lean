import ShaderLoom.Value.Access
import ShaderLoom.Number.Places
import ShaderLoom.Number.Reading

/-!
# Putting values into texts

A text is a pattern in which every percent sign starts a directive: an optional key in parentheses,
flags, a width, a number of places and the letter of a kind. A directive takes the next value of a
tuple, the only value there is, or the value of a map under its key. All values of a tuple have to
be used, and so has a single value that is no mapping.
-/

namespace ShaderLoom

open Number

/-- How one value is put into a text. -/
structure Directive where
  /-- Blanks go behind the value. -/
  toLeft : Bool := false
  /-- A number that is not negative has a plus sign. -/
  withPlus : Bool := false
  /-- A number that is not negative has a blank in place of a sign. -/
  withBlank : Bool := false
  /-- The base of an integer is marked, and a point is always kept. -/
  isMarked : Bool := false
  /-- A number is filled up with zeros. -/
  withZeros : Bool := false
  /-- The least number of characters. -/
  width : Nat := 0
  /-- The number of places, or the most characters of a text. -/
  places : Option Nat := none

namespace Directive

/-- The directive with a flag, if the character is one. -/
def withFlag? (d : Directive) (c : Char) : Option Directive :=
  if c = '-' then some { d with toLeft := true }
  else if c = '+' then some { d with withPlus := true }
  else if c = ' ' then some { d with withBlank := true }
  else if c = '#' then some { d with isMarked := true }
  else if c = '0' then some { d with withZeros := true }
  else none

/-- The directive with the flags at the front of a text, and what follows them. -/
def withFlags (d : Directive) : List Char → Directive × List Char
  | [] => (d, [])
  | c :: cs =>
    match d.withFlag? c with
    | some d => d.withFlags cs
    | none => (d, c :: cs)

/-- Fill the text of a value up to the width; a text is cut first. -/
def fill (d : Directive) (body : List Char) : List Char :=
  let gap := List.replicate (d.width - body.length) ' '
  if d.toLeft then body ++ gap else gap ++ body

/-- The sign of a number. -/
def sign (d : Directive) (isNegative : Bool) : List Char :=
  if isNegative then ['-'] else if d.withPlus then ['+'] else if d.withBlank then [' '] else []

/-- Fill a number up to the width, its sign and the mark of its base standing in front of zeros. -/
def fillNumber (d : Directive) (sign mark digits : List Char) : List Char :=
  let length := sign.length + mark.length + digits.length
  if d.withZeros && !d.toLeft then
    sign ++ mark ++ List.replicate (d.width - length) '0' ++ digits
  else d.fill (sign ++ mark ++ digits)

end Directive

/-! ## Values -/

namespace Value

/-- The integer that a number is cut to. -/
def cutInt : Value → Answer Int
  | .undefined u => .error (.undefinedUse u.message)
  | .array a =>
    match a.shape, a.cells with
    | [], [s] => ofQuantity s.quantity
    | _, _ => .error .unsupported
  | .singular _ v => v.cutInt
  | v =>
    match v.quantity? with
    | some q => ofQuantity q
    | none => .error .unsupported
where
  ofQuantity : Quantity → Answer Int
    | .finite q => .ok (q.num.tdiv q.den)
    | .infinite _ => .error .overflow
    | .missing => .error .invalid

/-- The double that a number is. -/
def realOf : Value → Answer Float
  | .undefined u => .error (.undefinedUse u.message)
  | .bool b => .ok (if b then 1 else 0)
  | .int n => doubleOf n
  | .float x => .ok x
  | .scalar s => .ok s.toDouble
  | .array a =>
    match a.shape, a.cells with
    | [], [s] => .ok s.toDouble
    | _, _ => .error .unsupported
  | .singular _ v => v.realOf
  | _ => .error .unsupported

/-- Whether a value can be looked into by a key, and is no text and no tuple. -/
def isMapping : Value → Bool
  | .list _ => true
  | .map _ _ => true
  | .range _ _ _ => true
  | .array _ => true
  | .scalar _ => true
  | .complexScalar _ _ _ => true
  | .undefined _ => true
  | .singular _ v => v.isMapping
  | _ => false

end Value

/-- A text in basic Latin: other characters are spelled out. -/
def basicLatin (cs : List Char) : List Char :=
  cs.flatMap fun c =>
    if c.toNat < 128 then [c]
    else if c.toNat < 0x100 then '\\' :: 'x' :: Text.hexDigits 2 c.toNat
    else if c.toNat < 0x10000 then '\\' :: 'u' :: Text.hexDigits 4 c.toNat
    else '\\' :: 'U' :: Text.hexDigits 8 c.toNat

namespace Directive

/-- Put a text in. -/
def putText (d : Directive) (cs : List Char) : List Char :=
  d.fill (match d.places with
    | some n => cs.take n
    | none => cs)

/-- Put an integer in, with its digits in a base and the mark of the base. -/
def putInt (d : Directive) (n : Int) (base : Nat) (mark : List Char) : Answer (List Char) := do
  let digits ←
    if base = 10 then if Value.isPrintableInt n then .ok (digitChars n.natAbs) else .error .invalid
    else .ok (Nat.toDigits base n.natAbs)
  let digits := List.replicate (d.places.getD 0 - digits.length) '0' ++ digits
  .ok (d.fillNumber (d.sign (n < 0)) (if d.isMarked then mark else []) digits)

/-- Put a float in, the digits of a finite one being laid out in a given way. -/
def putReal (d : Directive) (x : Float) (layout : Bool → Rat → Nat → List Char) : List Char :=
  let places := d.places.getD 6
  match Quantity.ofDouble x with
  | .finite q =>
    d.fillNumber (d.sign (isNegativeDouble x)) []
      (layout d.isMarked (if q < 0 then -q else q) places)
  | .infinite negative => d.fillNumber (d.sign negative) [] ['i', 'n', 'f']
  | .missing => d.fillNumber (d.sign false) [] ['n', 'a', 'n']

/-- The character that a value stands for: a text of one character, or a code point. -/
def charOf (v : Value) : Answer Char :=
  match v with
  | .text s =>
    match s.toList with
    | [c] => .ok c
    | _ => .error .unsupported
  | v =>
    match v.index? with
    | some n => if 0 ≤ n ∧ n < 0x110000 then .ok (Char.ofNat n.toNat) else .error .overflow
    | none => .error .unsupported

/-- Put a value in as the kind with a letter says. -/
def put (d : Directive) (kind : Char) (v : Value) : Answer (List Char) := do
  match kind with
  | 's' => .ok (d.putText (← v.display).toList)
  | 'r' => .ok (d.putText (← v.inspected).toList)
  | 'a' => .ok (d.putText (basicLatin (← v.inspected).toList))
  | 'd' | 'i' | 'u' => d.putInt (← v.cutInt) 10 []
  | 'o' => d.putInt (← index v) 8 ['0', 'o']
  | 'x' => d.putInt (← index v) 16 ['0', 'x']
  | 'X' => do .ok ((← d.putInt (← index v) 16 ['0', 'x']).map Char.toUpper)
  | 'f' => do .ok (d.putReal (← v.realOf) fixedChars)
  | 'F' => do .ok ((d.putReal (← v.realOf) fixedChars).map Char.toUpper)
  | 'e' => do .ok (d.putReal (← v.realOf) scientificChars)
  | 'E' => do .ok ((d.putReal (← v.realOf) scientificChars).map Char.toUpper)
  | 'g' => do .ok (d.putReal (← v.realOf) generalChars)
  | 'G' => do .ok ((d.putReal (← v.realOf) generalChars).map Char.toUpper)
  | 'c' => do .ok (d.fill [← charOf v])
  | _ => .error .invalid
where
  index (v : Value) : Answer Int :=
    match v.index? with
    | some n => .ok n
    | none => .error .unsupported

end Directive

/-! ## Patterns -/

/-- The values that are still to be put in. -/
inductive Supply where
  /-- The members of a tuple from some place on. -/
  | members (vs : List Value)
  /-- A value that stands for itself. -/
  | single (v : Value)
  /-- A value that stood for itself and was used. -/
  | used

/-- The next value, and what is left. -/
def Supply.next : Supply → Answer (Value × Supply)
  | .members (v :: vs) => .ok (v, .members vs)
  | .single v => .ok (v, .used)
  | _ => .error .unsupported

/-- The key up to the parenthesis that closes it, given how many are open, and what follows. -/
def splitKey? : Nat → List Char → Option (List Char × List Char)
  | _, [] => none
  | depth, c :: cs =>
    if c = ')' ∧ depth = 0 then some ([], cs)
    else
      let depth := if c = ')' then depth - 1 else if c = '(' then depth + 1 else depth
      (splitKey? depth cs).map fun (key, rest) => (c :: key, rest)

/-- The greatest number that a width can be. -/
def maxWidth : Nat := Nat.pow 2 63 - 1

/-- The greatest number of places. -/
def maxPlaces : Nat := Nat.pow 2 31 - 1

/-- A number within a directive: digits, or a star for the next value. There may be none. -/
def readAmount (most : Nat) (s : Supply) (cs : List Char) :
    Answer (Option Int × Supply × List Char) :=
  match cs with
  | '*' :: cs => do
    let (v, s) ← s.next
    let n : Int ←
      match v with
      | .int n => pure n
      | .bool b => pure b.toInt
      | _ => .error .unsupported
    if (most : Int) < n.natAbs then .error .overflow else .ok (some n, s, cs)
  | cs =>
    let ds := cs.takeWhile Char.isDigit
    if ds.isEmpty then .ok (none, s, cs)
    else
      let n := ofDigits 10 (ds.map fun c => c.toNat - '0'.toNat)
      if most < n then .error .invalid else .ok (some (n : Int), s, cs.drop ds.length)

/-- Put values into a pattern of at most `fuel` characters. The mapping is what keys are looked up
in. -/
def formatFrom (mapping : Option Value) : Nat → Supply → List Char → Answer (List Char × Supply)
  | 0, s, _ => .ok ([], s)
  | _ + 1, s, [] => .ok ([], s)
  | fuel + 1, s, '%' :: cs => do
    let (s, cs) ←
      match cs with
      | '(' :: cs =>
        match mapping with
        | none => .error .unsupported
        | some m =>
          match splitKey? 0 cs with
          | none => .error .invalid
          | some (key, rest) => do
            let v ← m.item (.text (String.ofList key))
            pure (Supply.single v, rest)
      | cs => pure (s, cs)
    let (d, cs) := Directive.withFlags {} cs
    let (width, s, cs) ← readAmount maxWidth s cs
    let d :=
      match width with
      | none => d
      | some n => { d with width := n.natAbs, toLeft := d.toLeft || n < 0 }
    let (d, s, cs) ←
      match cs with
      | '.' :: cs => do
        let (places, s, cs) ← readAmount maxPlaces s cs
        pure ({ d with places := some (places.getD 0).toNat }, s, cs)
      | cs => pure (d, s, cs)
    let cs :=
      match cs with
      | c :: rest => if c = 'h' ∨ c = 'l' ∨ c = 'L' then rest else c :: rest
      | [] => []
    match cs with
    | [] => .error .invalid
    | '%' :: cs => do
      let (text, s) ← formatFrom mapping fuel s cs
      .ok ('%' :: text, s)
    | kind :: cs => do
      let (v, s) ← s.next
      let piece ← d.put kind v
      let (text, s) ← formatFrom mapping fuel s cs
      .ok (piece ++ text, s)
  | fuel + 1, s, c :: cs => do
    let (text, s) ← formatFrom mapping fuel s cs
    .ok (c :: text, s)

namespace Value

/-- Put a value, or the members of a tuple, into the directives of a pattern. -/
def format (pattern : String) (v : Value) : Answer Value := do
  let supply : Supply :=
    match v with
    | .tuple vs => .members vs
    | v => .single v
  let mapping := if v.isMapping then some v else none
  let (done, rest) ← formatFrom mapping (pattern.length + 1) supply pattern.toList
  let isUsedUp :=
    match rest with
    | .members vs => vs.isEmpty
    | .single _ => false
    | .used => true
  if isUsedUp || mapping.isSome then .ok (.text (String.ofList done)) else .error .unsupported

end Value

end ShaderLoom
