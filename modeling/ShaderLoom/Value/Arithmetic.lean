import ShaderLoom.Value.Formatting

/-!
# Arithmetic on values

An operation with a fixed-width number or an array is done cell by cell, in the type that both
operands fit. Texts, lists and tuples are joined by addition and repeated by multiplication with an
integer, and the remainder of a text is the text with values put into it. All else is arithmetic on
plain numbers.
-/

namespace ShaderLoom

open Number

namespace Value

/-! ## Fixed-width complex numbers -/

/-- The product of complex numbers, each step being rounded. -/
def complexCellProduct (round : Float → Float) (p q : Complex) : Complex :=
  (round (round (p.1 * q.1) - round (p.2 * q.2)), round (round (p.1 * q.2) + round (p.2 * q.1)))

/-- The quotient of complex numbers, each step being rounded. A division by zero has a result. -/
def complexCellQuotient (round : Float → Float) (p q : Complex) : Complex :=
  if q.1.abs >= q.2.abs then
    if q.1 == 0 && q.2 == 0 then (round (p.1 / q.1.abs), round (p.2 / q.1.abs))
    else
      let ratio := round (q.2 / q.1)
      let scale := round (1 / round (q.1 + round (q.2 * ratio)))
      (round (round (p.1 + round (p.2 * ratio)) * scale),
        round (round (p.2 - round (p.1 * ratio)) * scale))
  else
    let ratio := round (q.1 / q.2)
    let scale := round (1 / round (q.2 + round (q.1 * ratio)))
    (round (round (round (p.1 * ratio) + p.2) * scale),
      round (round (round (p.2 * ratio) - p.1) * scale))

/-- A power of a complex number with a natural exponent below `2 ^ fuel`, each step being
rounded. -/
def complexCellPower (round : Float → Float) : Nat → Complex → Nat → Complex → Complex
  | 0, _, _, result => result
  | fuel + 1, p, n, result =>
    if n = 0 then result
    else
      complexCellPower round fuel (complexCellProduct round p p) (n / 2)
        (if n % 2 = 1 then complexCellProduct round result p else result)

/-- A power of complex numbers that has a result in any case. -/
def complexCellPow (round : Float → Float) (p q : Complex) : Complex :=
  if q.1 == 0 && q.2 == 0 then (1, 0)
  else if p.1 == 0 && p.2 == 0 then
    if q.1 > 0 && q.2 == 0 then (0, 0) else (0 / 0, 0 / 0)
  else
    match smallExponent? q with
    | some n =>
      let r := complexCellPower round 7 p n.natAbs (1, 0)
      if 0 < n then r else complexCellQuotient round (1, 0) r
    | none =>
      match complexPowerByAngle p q with
      | .ok r => (round r.1, round r.2)
      | .error _ => (0 / 0, 0 / 0)

/-- Arithmetic on numbers of which one is complex and one has a fixed width. -/
def arithComplexCells (op : ArithOp) (v w : Value) : Answer Value := do
  let isWide := meetWide v w
  let round := roundedTo isWide
  let (a, b) ← v.complexParts
  let (c, d) ← w.complexParts
  let p : Complex := (round a, round b)
  let q : Complex := (round c, round d)
  let answer (r : Complex) : Answer Value := .ok (.complexScalar isWide r.1 r.2)
  match op with
  | .add => answer (round (p.1 + q.1), round (p.2 + q.2))
  | .sub => answer (round (p.1 - q.1), round (p.2 - q.2))
  | .mul => answer (complexCellProduct round p q)
  | .div => answer (complexCellQuotient round p q)
  | .pow => answer (complexCellPow round p q)
  | .floorDiv => .error .unsupportedCells
  | .mod => .error .unsupportedCells

/-! ## Sequences -/

/-- The most members that a repeated sequence may have. -/
def maxRepeated : Nat := Nat.pow 2 32

/-- Repeat a list. -/
def repeated {α : Type} (n : Int) (xs : List α) : Answer (List α) :=
  if !isCount n || maxRepeated < n.toNat * xs.length then .error .overflow
  else .ok (List.replicate n.toNat xs).flatten

/-- Whether the value is a text, a list or a tuple. -/
def isRepeatable : Value → Bool
  | .text _ => true
  | .list _ => true
  | .tuple _ => true
  | _ => false

/-- A text, a list or a tuple repeated a number of times. -/
def repeatBy (n : Int) : Value → Answer Value
  | .text s => do .ok (.text (String.ofList (← repeated n s.toList)))
  | .list xs => do .ok (.list (← repeated n xs))
  | .tuple xs => do .ok (.tuple (← repeated n xs))
  | _ => .error .unsupported

/-- Joining and repeating of sequences. -/
def arithSequence (op : ArithOp) (v w : Value) : Answer Value :=
  match op, v, w with
  | .add, .text s, .text t => .ok (.text (s ++ t))
  | .add, .list xs, .list ys => .ok (.list (xs ++ ys))
  | .add, .tuple xs, .tuple ys => .ok (.tuple (xs ++ ys))
  | .mul, v, w =>
    if v.isRepeatable then
      match w.index? with
      | some n => repeatBy n v
      | none => .error .unsupported
    else
      match v.index? with
      | some n => repeatBy n w
      | none => .error .unsupported
  | _, _, _ => .error .unsupported

/-! ## All operations -/

/-- Whether the value is an array. -/
def isArray : Value → Bool
  | .array _ => true
  | _ => false

/-- Whether a complex number has the operation. -/
def isComplexOp (op : ArithOp) : Bool := op ≠ .floorDiv && op ≠ .mod

/-- The fault of an operation on operands of which one has cells and one has text cells. A text that
is to be joined with a single number does not count as a cell. -/
def cellFault (op : ArithOp) (v w : Value) : Fault :=
  if op = .add && v.isText && !w.isArray then .unsupported else .unsupportedCells

/-- Arithmetic where at least one operand has cells. A plain complex number deals with a double like
with a plain float, and a sequence is repeated by a number, but not by an array. -/
def arithCells (op : ArithOp) (v w : Value) : Answer Value := do
  match isComplexOp op, v, w with
  | true, .complex a b, .scalar (.double y) => arithPlain op (.complex a b) (.real y)
  | _, v, w =>
    if op = .mul && (v.isRepeatable || w.isRepeatable) && !v.isArray && !w.isArray then
      arithSequence op v w
    else if v.hasTextCells || w.hasTextCells then .error (cellFault op v w)
    else if v.isComplex || w.isComplex then arithComplexCells op v w
    else
      match ← v.operandOf, ← w.operandOf with
      | some a, some b => Operand.arith op a b
      | _, _ => .error .unsupported

/-- Arithmetic on values. -/
def arith (op : ArithOp) (v w : Value) : Answer Value :=
  match op, v with
  | .mod, .text pattern => format pattern w
  | op, v => do
    v.checkDefined
    w.checkDefined
    let v := v.bare
    let w := w.bare
    match v.plainNumber?, w.plainNumber? with
    | some a, some b => arithPlain op a b
    | _, _ => if v.hasCells || w.hasCells then arithCells op v w else arithSequence op v w

/-- The sum of two values. -/
def add (v w : Value) : Answer Value := arith .add v w

/-- The product of two values. -/
def mul (v w : Value) : Answer Value := arith .mul v w

/-- The negative of a number, or of every cell of an array. -/
def negate (v : Value) : Answer Value :=
  match v.bare with
  | .undefined u => .error (.undefinedUse u.message)
  | .scalar s => s.negate.map .scalar
  | .complexScalar isWide re im => .ok (.complexScalar isWide (-re) (-im))
  | .array a => (a.mapCells Scalar.negate).map NumericArray.toValue
  | v =>
    match v.plainNumber? with
    | some p => .ok (negatePlain p)
    | none => .error .unsupported

/-- A number itself, truth values as integers, or an array itself. -/
def plus (v : Value) : Answer Value :=
  match v.bare with
  | .undefined u => .error (.undefinedUse u.message)
  | .scalar s => s.plus.map .scalar
  | .complexScalar isWide re im => .ok (.complexScalar isWide re im)
  | .array a => (a.mapCells Scalar.plus).map NumericArray.toValue
  | v =>
    match v.plainNumber? with
    | some p => .ok (ofPlain p)
    | none => .error .unsupported

/-- The distance of a number from zero, cell by cell. -/
def absolute (v : Value) : Answer Value :=
  match v.bare with
  | .scalar s => .ok (.scalar s.absolute)
  | .complexScalar isWide re im =>
    let x := distance re im
    .ok (.scalar (if isWide then .double x else .single x.toFloat32))
  | .array a => (a.mapCells fun s => .ok s.absolute).map NumericArray.toValue
  | v =>
    match v.plainNumber? with
    | some (.int n) => .ok (.int n.natAbs)
    | some (.real x) => .ok (.float x.abs)
    | some (.complex re im) =>
      let x := distance re im
      let isFinite (y : Float) := (Quantity.ofDouble y).isFinite
      if x.isInf && isFinite re && isFinite im then .error .overflow else .ok (.float x)
    | none => .error .unsupported

end Value

end ShaderLoom
