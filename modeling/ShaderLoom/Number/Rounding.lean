/-!
# Binary floating point formats and rounding

The finite non-negative values of a binary format are numbered by their bit patterns in ascending
order. `Format.value` gives the rational number of a pattern and `Format.nearest` the pattern that
is nearest to a rational number, where a tie goes to the even pattern. Reading of decimals, the
conversion of integers and exact division all end in this one rounding.
-/

namespace ShaderLoom.Number

/-- A binary interchange format. -/
structure Format where
  /-- The number of bits of the fraction field. -/
  fractionBits : Nat
  /-- The number of bits of the exponent field. -/
  exponentBits : Nat
deriving DecidableEq

namespace Format

/-- The format of 64 bits. -/
def double : Format := ⟨52, 11⟩

/-- The format of 32 bits. -/
def single : Format := ⟨23, 8⟩

/-- The binary exponent of the smallest positive value. -/
def minExponent (f : Format) : Int :=
  2 - Nat.pow 2 (f.exponentBits - 1) - f.fractionBits

/-- The pattern of infinity; all patterns below it are finite. -/
def infinity (f : Format) : Nat := (Nat.pow 2 f.exponentBits - 1) * Nat.pow 2 f.fractionBits

/-- The pattern of the sign bit. -/
def signBit (f : Format) : Nat := Nat.pow 2 (f.exponentBits + f.fractionBits)

/-- A power of two as a rational number. -/
def twoPow (e : Int) : Rat :=
  if 0 ≤ e then (Nat.pow 2 e.toNat : Nat) else mkRat 1 (Nat.pow 2 (-e).toNat)

/-- The value of a pattern without sign. -/
def value (f : Format) (pattern : Nat) : Rat :=
  let field := pattern / Nat.pow 2 f.fractionBits
  let fraction := pattern % Nat.pow 2 f.fractionBits
  if field = 0 then fraction * twoPow f.minExponent
  else (Nat.pow 2 f.fractionBits + fraction : Nat) * twoPow (f.minExponent + field - 1)

/-- The integer nearest to a non-negative rational number, a tie going to the even one. -/
def roundHalfEven (q : Rat) : Nat :=
  let whole := q.num.toNat / q.den
  let twice := 2 * (q.num.toNat % q.den)
  if twice < q.den then whole
  else if q.den < twice then whole + 1
  else if whole % 2 = 0 then whole else whole + 1

/-- The greatest integer `e` with `2 ^ e ≤ q`, for a positive `q`. -/
def binaryExponent (q : Rat) : Int :=
  let guess : Int := (Nat.log2 q.num.toNat : Int) - (Nat.log2 q.den : Int)
  if twoPow guess ≤ q then guess else guess - 1

/-- The pattern of the value nearest to a non-negative rational number. -/
def nearest (f : Format) (q : Rat) : Nat :=
  if q = 0 then 0
  else
    let quantum := max (binaryExponent q - f.fractionBits) f.minExponent
    let pattern :=
      (quantum - f.minExponent).toNat * Nat.pow 2 f.fractionBits +
        roundHalfEven (q / twoPow quantum)
    min pattern f.infinity

/-- The pattern with sign of the value nearest to a rational number. -/
def nearestSigned (f : Format) (q : Rat) : Nat :=
  if q < 0 then f.signBit + f.nearest (-q) else f.nearest q

end Format

/-- The double nearest to a rational number. -/
def doubleOfRat (q : Rat) : Float := Float.ofBits (UInt64.ofNat (Format.double.nearestSigned q))

/-- The single nearest to a rational number. -/
def singleOfRat (q : Rat) : Float32 := Float32.ofBits (UInt32.ofNat (Format.single.nearestSigned q))

end ShaderLoom.Number
