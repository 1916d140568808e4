import ShaderLoom.Number.Quantity

/-!
# Division of doubles with floor, powers and distances

The quotient is rounded down and the remainder has the sign of the divisor. The remainder is
computed exactly, so that it is exact whenever it is representable. A power of a negative base with
a fractional exponent leaves the real numbers. The distance of a point of the plane from the origin
is rounded once.
-/

namespace ShaderLoom.Number

/-- Zero with the sign of another number. -/
def zeroLike (negative : Bool) : Float := if negative then -0.0 else 0.0

/-- The remainder of a division that is cut toward zero; it has the sign of the dividend. -/
def truncatedRemainder (x y : Float) : Float :=
  match Quantity.ofDouble x, Quantity.ofDouble y with
  | .finite p, .finite q =>
    if q = 0 then 0 / 0
    else
      let ratio := p / q
      let rest := p - (ratio.num.tdiv ratio.den : Int) * q
      if rest = 0 then zeroLike (isNegativeDouble x) else doubleOfRat rest
  | .finite _, .infinite _ => x
  | _, _ => 0 / 0

/-- The remainder of a division that is rounded down, for a divisor other than zero. -/
def floorRemainder (x y : Float) : Float :=
  let rest := truncatedRemainder x y
  if rest == 0 then zeroLike (isNegativeDouble y)
  else if (y < 0) != (rest < 0) then rest + y else rest

/-- The quotient of a division that is rounded down, for a divisor other than zero. -/
def floorQuotient (x y : Float) : Float :=
  let rest := truncatedRemainder x y
  let quotient := (x - rest) / y
  let quotient := if rest != 0 && ((y < 0) != (rest < 0)) then quotient - 1 else quotient
  if quotient == 0 then zeroLike (isNegativeDouble (x / y))
  else
    let whole := quotient.floor
    if quotient - whole > 0.5 then whole + 1 else whole

/-- Why a power has no result. -/
inductive PowerFault where
  | zeroDivision
  | overflow

/-- A power of doubles: a real or a complex number. -/
def power (x y : Float) : Except PowerFault (Float × Option Float) :=
  let isFinite (z : Float) := (Quantity.ofDouble z).isFinite
  if y == 0 then .ok (1, none)
  else if x == 0 && y < 0 && isFinite y then .error .zeroDivision
  else if x < 0 && isFinite x && isFinite y && y.floor != y then
    let length := (-x).pow y
    let phase := (3.141592653589793 : Float) * y
    let re := length * phase.cos
    let im := length * phase.sin
    if re.isInf || im.isInf then .error .overflow else .ok (re, some im)
  else
    let r := x.pow y
    if r.isInf && isFinite x && isFinite y then .error .overflow else .ok (r, none)

/-- The integer nearest to a double, a tie going to the even one. -/
def nearestInt (q : Rat) : Int :=
  if q < 0 then -(Format.roundHalfEven (-q) : Int) else Format.roundHalfEven q

/-- The integer part of a square root: an approximation from above is improved until it stops
falling. -/
def squareRootFrom (n : Nat) : Nat → Nat → Nat
  | 0, x => x
  | fuel + 1, x =>
    let y := (x + n / x) / 2
    if y < x then squareRootFrom n fuel y else x

/-- The integer part of the square root of a natural number. -/
def squareRoot (n : Nat) : Nat :=
  if n = 0 then 0 else squareRootFrom n (n.log2 + 2) (Nat.pow 2 (n.log2 / 2 + 1))

/-- The double nearest to the square root of a non-negative rational number. The number is scaled by
a power of four, so that the root has more digits than a double; a root that is not exact is put
between the digits. -/
def doubleRoot (q : Rat) : Float :=
  if q = 0 then 0
  else
    let shift : Int := 130 - Format.binaryExponent q
    let half := (shift / 2).toNat
    let down := (-shift / 2).toNat
    let scaled := q * Format.twoPow (2 * ((half : Int) - (down : Int)))
    let whole := scaled.num.toNat / scaled.den
    let root := squareRoot whole
    let isExact := root * root = whole && scaled.den = 1
    let digits : Nat := 2 * root + (if isExact then 0 else 1)
    doubleOfRat (digits * Format.twoPow ((down : Int) - (half : Int) - 1))

/-- The distance of the point with two given coordinates from the origin. -/
def distance (x y : Float) : Float :=
  match Quantity.ofDouble x, Quantity.ofDouble y with
  | .infinite _, _ | _, .infinite _ => 1 / 0
  | .finite p, .finite q => doubleRoot (p * p + q * q)
  | _, _ => 0 / 0

end ShaderLoom.Number
