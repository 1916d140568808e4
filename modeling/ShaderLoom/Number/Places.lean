import ShaderLoom.Number.Shortest

/-!
# Decimals with a given number of places

A number is written with as many digits after the point as one asks for, either positionally or with
an exponent, and always as the nearest such decimal, a tie going to the even digit. The general
notation asks for a number of digits altogether: it is positional for moderate exponents, and zeros
at the end of the fraction are dropped.
-/

namespace ShaderLoom.Number

/-- The decimal with a number of digits after the first one that is nearest to a positive rational
number. -/
def scientificDecimal (q : Rat) (digits : Nat) : Decimal :=
  let least := decimalScale q - 1 - digits
  let rounded := Format.roundHalfEven (q / tenPow least)
  if rounded < Nat.pow 10 (digits + 1) then ⟨rounded, least⟩ else ⟨rounded / 10, least + 1⟩

/-- The sign and at least two digits of an exponent. -/
def exponentChars (power : Int) : List Char :=
  let ds := digitChars power.natAbs
  (if power < 0 then '-' else '+') :: List.replicate (2 - ds.length) '0' ++ ds

/-- A whole part and a fraction with a point between them, which an empty fraction only has if it is
kept. -/
def pointed (keepsPoint : Bool) (whole fraction : List Char) : List Char :=
  if fraction.isEmpty && !keepsPoint then whole else whole ++ '.' :: fraction

/-- The whole part and a number of places of a non-negative rational number. -/
def fixedParts (q : Rat) (places : Nat) : List Char × List Char :=
  let ds := digitChars (Format.roundHalfEven (q * tenPow places))
  let ds := List.replicate (places + 1 - ds.length) '0' ++ ds
  ds.splitAt (ds.length - places)

/-- The first digit, the places after it and the exponent of a non-negative rational number. -/
def scientificParts (q : Rat) (places : Nat) : List Char × List Char × Int :=
  if q = 0 then (['0'], List.replicate places '0', 0)
  else
    let d := scientificDecimal q places
    let ds := digitChars d.digits
    (ds.take 1, ds.drop 1, d.exponent + places)

/-- A non-negative rational number with a number of places. -/
def fixedChars (keepsPoint : Bool) (q : Rat) (places : Nat) : List Char :=
  let (whole, fraction) := fixedParts q places
  pointed keepsPoint whole fraction

/-- A non-negative rational number with a number of places and an exponent. -/
def scientificChars (keepsPoint : Bool) (q : Rat) (places : Nat) : List Char :=
  let (first, fraction, power) := scientificParts q places
  pointed keepsPoint first fraction ++ 'e' :: exponentChars power

/-- Drop zeros at the end. -/
def withoutFinalZeros (cs : List Char) : List Char := (cs.reverse.dropWhile (· = '0')).reverse

/-- A non-negative rational number with a number of digits altogether. What is kept is the point
together with the zeros at the end. -/
def generalChars (keepsPoint : Bool) (q : Rat) (digits : Nat) : List Char :=
  let digits := max digits 1
  let (first, fraction, power) := scientificParts q (digits - 1)
  let trimmed (cs : List Char) := if keepsPoint then cs else withoutFinalZeros cs
  if -4 ≤ power ∧ power < digits then
    let (whole, fraction) := fixedParts q (digits - 1 - power).toNat
    pointed keepsPoint whole (trimmed fraction)
  else pointed keepsPoint first (trimmed fraction) ++ 'e' :: exponentChars power

theorem length_snd_fixedParts (q : Rat) (places : Nat) :
    (fixedParts q places).2.length = places := by
  simp only [fixedParts, List.splitAt_eq, List.length_drop, List.length_append,
    List.length_replicate]
  omega

end ShaderLoom.Number
