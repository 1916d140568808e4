import ShaderLoom.Value.Truth
import ShaderLoom.Number.DoubleArithmetic

/-!
# Numbers of fixed width

A fixed-width number is converted to another type by rounding to nearest, or by wrapping around.
Arithmetic on two numbers of one type stays in the type: integers wrap around, floats round, and a
division by zero has a result. Truth values are added by disjunction and multiplied by conjunction.
-/

namespace ShaderLoom

open Number

/-- The binary operations of arithmetic. -/
inductive ArithOp where
  | add
  | sub
  | mul
  | div
  | floorDiv
  | mod
  | pow
deriving DecidableEq

/-- The relations between two values. -/
inductive Relation where
  | eq
  | ne
  | lt
  | le
  | gt
  | ge
deriving DecidableEq

namespace Relation

/-- Whether the relation holds between two quantities. -/
def holds (r : Relation) (p q : Quantity) : Bool :=
  match r with
  | .eq => p.equal q
  | .ne => !p.equal q
  | .lt => p.less q
  | .le => p.less q || p.equal q
  | .gt => q.less p
  | .ge => q.less p || p.equal q

/-- Whether the relation holds between two complex numbers, which are ordered by their real parts
first. -/
def holdsComplex (r : Relation) (a b c d : Quantity) : Bool :=
  match r with
  | .eq => a.equal c && b.equal d
  | .ne => !(a.equal c && b.equal d)
  | r =>
    if a.equal c then r.holds b d
    else
      match r with
      | .lt | .le => a.less c
      | _ => c.less a

/-- Whether the relation holds between two sizes. -/
def holdsNat (r : Relation) (m n : Nat) : Bool := r.holds (.ofInt m) (.ofInt n)

/-- Whether the relation is equality or its opposite, which every two values can be asked for. -/
def isEquality : Relation → Bool
  | .eq | .ne => true
  | _ => false

/-- The relation with its sides exchanged. -/
def flip : Relation → Relation
  | .lt => .gt
  | .le => .ge
  | .gt => .lt
  | .ge => .le
  | r => r

theorem holds_flip (r : Relation) (p q : Quantity) : r.flip.holds p q = r.holds q p := by
  cases r <;> simp [flip, holds, Quantity.equal_comm p q]

end Relation

/-- The width that two widths fit into. -/
def IntWidth.common (a b : IntWidth) : IntWidth :=
  if a = b then a else if a = .int64 ∨ b = .int64 then .int64 else .int16

namespace CellType

/-- Whether the cells are floats. -/
def isFloat : CellType → Bool
  | .single | .double => true
  | _ => false

/-- The type that two types fit into. -/
def common : CellType → CellType → CellType
  | .truth, t => t
  | t, .truth => t
  | .single, .single => .single
  | .single, .integer w => if w = .int64 then .double else .single
  | .integer w, .single => if w = .int64 then .double else .single
  | .integer a, .integer b => .integer (a.common b)
  | _, _ => .double

theorem common_self (t : CellType) : t.common t = t := by
  cases t <;> simp [common, IntWidth.common]

/-- The type in which an operation on two numbers of a type is done. -/
def workingType (op : ArithOp) (t : CellType) : CellType :=
  match op, t with
  | .div, .single => .single
  | .div, _ => .double
  | .floorDiv, .truth => .integer .int8
  | .mod, .truth => .integer .int8
  | .pow, .truth => .integer .int8
  | _, t => t

end CellType

namespace Scalar

/-- The number as a double. -/
def toDouble : Scalar → Float
  | .single x => x.toFloat
  | .double x => x
  | .integer _ n => doubleOfRat n
  | .truth b => if b then 1 else 0

/-- The number as a single. -/
def toSingle : Scalar → Float32
  | .single x => x
  | .double x => x.toFloat32
  | .integer _ n => singleOfRat n
  | .truth b => if b then 1 else 0

/-- The number as an integer, cut toward zero. -/
def toInt (s : Scalar) : Int := s.quantity.truncated?.getD 0

/-- The number in another type. -/
def convert (t : CellType) (s : Scalar) : Scalar :=
  match t with
  | .single => .single s.toSingle
  | .double => .double s.toDouble
  | .integer w => .integer w (w.wrap s.toInt)
  | .truth => .truth (!s.quantity.isZero)

end Scalar

/-! ## Floats -/

/-- The remainder of a division of singles, for a divisor other than zero. -/
def singleRemainder (x y : Float32) : Float32 :=
  let rest := (truncatedRemainder x.toFloat y.toFloat).toFloat32
  if rest == 0 then (zeroLike (isNegativeSingle y)).toFloat32
  else if (y < 0) != (rest < 0) then rest + y else rest

/-- The quotient of a division of singles that is rounded down, for a divisor other than zero. -/
def singleQuotient (x y : Float32) : Float32 :=
  let rest := (truncatedRemainder x.toFloat y.toFloat).toFloat32
  let quotient := (x - rest) / y
  let quotient := if rest != 0 && ((y < 0) != (rest < 0)) then quotient - 1 else quotient
  if quotient == 0 then (zeroLike (isNegativeSingle (x / y))).toFloat32
  else
    let whole := quotient.floor
    if quotient - whole > 0.5 then whole + 1 else whole

/-- Arithmetic on singles. -/
def singleArith (op : ArithOp) (x y : Float32) : Float32 :=
  match op with
  | .add => x + y
  | .sub => x - y
  | .mul => x * y
  | .div => x / y
  | .floorDiv => if y == 0 then x / y else singleQuotient x y
  | .mod => if y == 0 then 0 / 0 else singleRemainder x y
  | .pow => (x.toFloat.pow y.toFloat).toFloat32

/-- Arithmetic on doubles where every operation has a result. -/
def doubleArith (op : ArithOp) (x y : Float) : Float :=
  match op with
  | .add => x + y
  | .sub => x - y
  | .mul => x * y
  | .div => x / y
  | .floorDiv => if y == 0 then x / y else floorQuotient x y
  | .mod => if y == 0 then 0 / 0 else floorRemainder x y
  | .pow => x.pow y

/-! ## Integers -/

/-- A power in a width: the base is squared once for each binary digit of the exponent, of which
there are at most `fuel`. -/
def wrappedPower (w : IntWidth) : Nat → Int → Nat → Int
  | 0, _, _ => 1
  | fuel + 1, base, exponent =>
    if exponent = 0 then 1
    else
      let rest := wrappedPower w fuel (w.wrap (base * base)) (exponent / 2)
      if exponent % 2 = 1 then w.wrap (base * rest) else rest

/-- Arithmetic on integers of a width. -/
def integerArith (op : ArithOp) (w : IntWidth) (a b : Int) : Answer Int :=
  match op with
  | .add => .ok (w.wrap (a + b))
  | .sub => .ok (w.wrap (a - b))
  | .mul => .ok (w.wrap (a * b))
  | .div => .error .unsupported
  | .floorDiv => .ok (if b = 0 then 0 else w.wrap (a.fdiv b))
  | .mod => .ok (if b = 0 then 0 else a.fmod b)
  | .pow => if b < 0 then .error .invalid else .ok (wrappedPower w 64 a b.toNat)

namespace Scalar

/-- Arithmetic on two numbers of one type. -/
def arith (op : ArithOp) : Scalar → Scalar → Answer Scalar
  | .single x, .single y => .ok (.single (singleArith op x y))
  | .double x, .double y => .ok (.double (doubleArith op x y))
  | .integer w a, .integer _ b => (integerArith op w a b).map (.integer w)
  | .truth a, .truth b =>
    match op with
    | .add => .ok (.truth (a || b))
    | .mul => .ok (.truth (a && b))
    | _ => .error .unsupported
  | _, _ => .error .unsupported

/-- The number with the opposite sign. -/
def negate : Scalar → Answer Scalar
  | .single x => .ok (.single (-x))
  | .double x => .ok (.double (-x))
  | .integer w n => .ok (.integer w (w.wrap (-n)))
  | .truth _ => .error .unsupported

/-- The number itself, unless it is a truth value. -/
def plus : Scalar → Answer Scalar
  | .truth _ => .error .unsupportedCells
  | s => .ok s

/-- The distance of the number from zero. -/
def absolute : Scalar → Scalar
  | .single x => .single x.abs
  | .double x => .double x.abs
  | .integer w n => .integer w (w.wrap n.natAbs)
  | .truth b => .truth b

end Scalar

end ShaderLoom
