import ShaderLoom.Value.Comparison
import ShaderLoom.Value.Inspect
import ShaderLoom.Number.DoubleArithmetic

/-!
# Arithmetic on plain numbers

Integers are unbounded and truth values count as integers. An operation with a float is done in
floats, and one with a complex number in complex numbers. Division of integers is exact before its
one rounding. A division by zero and a result that is too large are refused.
-/

namespace ShaderLoom

open Number

/-- A plain number. -/
inductive PlainNumber where
  | int (n : Int)
  | real (x : Float)
  | complex (re im : Float)

namespace Value

/-- The plain number that a value is. -/
def plainNumber? : Value → Option PlainNumber
  | .bool b => some (.int b.toInt)
  | .int n => some (.int n)
  | .float x => some (.real x)
  | .complex re im => some (.complex re im)
  | .singular _ v => v.plainNumber?
  | _ => none

/-- The integer that a value counts as. An array counts as one if it has no axes. -/
def index? : Value → Option Int
  | .bool b => some b.toInt
  | .int n => some n
  | .scalar (.integer _ n) => some n
  | .array a =>
    match a.shape, a.cells with
    | [], [.integer _ n] => some n
    | _, _ => none
  | .singular _ v => v.index?
  | _ => none

/-- The largest number of bits that an integer power may have. -/
def maxPowerBits : Nat := Nat.pow 2 32

/-- A power of an integer with an exponent that is not negative. -/
def powerOfInt (a : Int) (n : Nat) : Int :=
  let magnitude : Int := Nat.pow a.natAbs n
  if a < 0 ∧ n % 2 = 1 then -magnitude else magnitude

/-- Arithmetic on integers. -/
def arithInt (op : ArithOp) (a b : Int) : Answer Value :=
  match op with
  | .add => .ok (.int (a + b))
  | .sub => .ok (.int (a - b))
  | .mul => .ok (.int (a * b))
  | .div =>
    if b = 0 then .error .zeroDivision
    else if a = 0 then .ok (.float (if b < 0 then -0.0 else 0))
    else (doubleOf ((a : Rat) / (b : Rat))).map .float
  | .floorDiv => if b = 0 then .error .zeroDivision else .ok (.int (a.fdiv b))
  | .mod => if b = 0 then .error .zeroDivision else .ok (.int (a.fmod b))
  | .pow =>
    if 0 ≤ b then
      if maxPowerBits < (a.natAbs.log2 + 1) * b.toNat ∧ 1 < a.natAbs then .error .overflow
      else .ok (.int (powerOfInt a b.toNat))
    else if a = 0 then .error .zeroDivision
    else do
      let x ← doubleOf a
      let y ← doubleOf b
      .ok (.float (x.pow y))

/-- Arithmetic on doubles. -/
def arithDouble (op : ArithOp) (a b : Float) : Answer Value :=
  match op with
  | .add => .ok (.float (a + b))
  | .sub => .ok (.float (a - b))
  | .mul => .ok (.float (a * b))
  | .div => if b == 0 then .error .zeroDivision else .ok (.float (a / b))
  | .floorDiv => if b == 0 then .error .zeroDivision else .ok (.float (floorQuotient a b))
  | .mod => if b == 0 then .error .zeroDivision else .ok (.float (floorRemainder a b))
  | .pow =>
    match power a b with
    | .ok (re, none) => .ok (.float re)
    | .ok (re, some im) => .ok (.complex re im)
    | .error .zeroDivision => .error .zeroDivision
    | .error .overflow => .error .overflow

/-- A complex number. -/
abbrev Complex := Float × Float

/-- The product of complex numbers. -/
def complexProduct (p q : Complex) : Complex :=
  (p.1 * q.1 - p.2 * q.2, p.1 * q.2 + p.2 * q.1)

/-- The quotient of complex numbers, the part of the divisor that is larger being divided out. -/
def complexQuotient? (p q : Complex) : Option Complex :=
  if q.1 == 0 && q.2 == 0 then none
  else if q.1.abs >= q.2.abs then
    let ratio := q.2 / q.1
    let denominator := q.1 + q.2 * ratio
    some ((p.1 + p.2 * ratio) / denominator, (p.2 - p.1 * ratio) / denominator)
  else if q.2.abs >= q.1.abs then
    let ratio := q.1 / q.2
    let denominator := q.1 * ratio + q.2
    some ((p.1 * ratio + p.2) / denominator, (p.2 * ratio - p.1) / denominator)
  else some (0 / 0, 0 / 0)

/-- A power of a complex number with a natural exponent below `2 ^ fuel`: the number is squared once
for each binary digit of the exponent. -/
def complexPower : Nat → Complex → Nat → Complex → Complex
  | 0, _, _, result => result
  | fuel + 1, p, n, result =>
    if n = 0 then result
    else
      complexPower fuel (complexProduct p p) (n / 2)
        (if n % 2 = 1 then complexProduct result p else result)

/-- The exponent of a complex power that is computed by products: an integer of at most one
hundred. -/
def smallExponent? (q : Complex) : Option Int :=
  if q.2 == 0 && q.1.floor == q.1 && q.1.abs <= 100 then (Quantity.ofDouble q.1).truncated?
  else none

/-- A power of complex numbers by length and angle. An infinite angle has no direction. -/
def complexPowerByAngle (p q : Complex) : Answer Complex :=
  if q.1 == 0 && q.2 == 0 then .ok (1, 0)
  else if p.1 == 0 && p.2 == 0 then
    if q.2 != 0 || q.1 < 0 then .error .zeroDivision else .ok (0, 0)
  else
    let size := distance p.1 p.2
    let angle := Float.atan2 p.2 p.1
    let length := size.pow q.1
    let phase := angle * q.1
    let (length, phase) :=
      if q.2 != 0 then (length / (angle * q.2).exp, phase + q.2 * size.log) else (length, phase)
    if phase.isInf then .error .zeroDivision
    else .ok (length * phase.cos, length * phase.sin)

/-- Arithmetic on complex numbers. -/
def arithComplex (op : ArithOp) (p q : Complex) : Answer Value :=
  let answer (r : Complex) : Answer Value := .ok (.complex r.1 r.2)
  let quotient (p q : Complex) : Answer Complex :=
    match complexQuotient? p q with
    | some r => .ok r
    | none => .error .zeroDivision
  match op with
  | .add => answer (p.1 + q.1, p.2 + q.2)
  | .sub => answer (p.1 - q.1, p.2 - q.2)
  | .mul => answer (complexProduct p q)
  | .div => do answer (← quotient p q)
  | .pow => do
    let r ←
      match smallExponent? q with
      | some n =>
        let r := complexPower 7 p n.natAbs (1, 0)
        if 0 < n then (.ok r : Answer Complex) else quotient (1, 0) r
      | none => complexPowerByAngle p q
    if r.1.isInf || r.2.isInf then .error .overflow else answer r
  | _ => .error .unsupported

/-- Arithmetic on plain numbers. -/
def arithPlain (op : ArithOp) : PlainNumber → PlainNumber → Answer Value
  | .int a, .int b => arithInt op a b
  | .int a, .real y => do arithDouble op (← doubleOf a) y
  | .real x, .int b => do arithDouble op x (← doubleOf b)
  | .real x, .real y => arithDouble op x y
  | .complex a b, .complex c d => arithComplex op (a, b) (c, d)
  | .complex a b, .int n => do arithComplex op (a, b) (← doubleOf n, 0)
  | .complex a b, .real y => arithComplex op (a, b) (y, 0)
  | .int n, .complex c d => do arithComplex op (← doubleOf n, 0) (c, d)
  | .real x, .complex c d => arithComplex op (x, 0) (c, d)

/-- The negative of a plain number. -/
def negatePlain : PlainNumber → Value
  | .int n => .int (-n)
  | .real x => .float (-x)
  | .complex re im => .complex (-re) (-im)

/-- A plain number as a value, truth values as integers. -/
def ofPlain : PlainNumber → Value
  | .int n => .int n
  | .real x => .float x
  | .complex re im => .complex re im

end Value

end ShaderLoom
