import ShaderLoom.Number.Quantity
import ShaderLoom.Text.Blank

/-!
# The shortest decimal that reads back

A float is written with the fewest decimal digits from which rounding to nearest recovers it, and
among these with the digits nearest to it. The reals that round to a pattern reach halfway to both
neighbours, the ends included exactly when the pattern is even. The digits are laid out
positionally for moderate exponents and with an exponent otherwise.
-/

namespace ShaderLoom.Number

/-- A decimal number `digits * 10 ^ exponent`. -/
structure Decimal where
  /-- All digits, as one number. -/
  digits : Nat
  /-- The power of ten of the last digit. -/
  exponent : Int
deriving DecidableEq

/-- A power of ten as a rational number. -/
def tenPow (e : Int) : Rat :=
  if 0 ≤ e then (Nat.pow 10 e.toNat : Nat) else mkRat 1 (Nat.pow 10 (-e).toNat)

/-- The value of a decimal. -/
def Decimal.value (d : Decimal) : Rat := d.digits * tenPow d.exponent

/-- The reals that round to one pattern of a format. -/
structure Basin where
  /-- Halfway to the neighbour below. -/
  low : Rat
  /-- Halfway to the neighbour above. -/
  high : Rat
  /-- Whether the two ends round to the pattern as well. -/
  closed : Bool

/-- The reals that round to a finite positive pattern. -/
def Format.basin (f : Format) (pattern : Nat) : Basin where
  low := (f.value (pattern - 1) + f.value pattern) / 2
  high := (f.value pattern + f.value (pattern + 1)) / 2
  closed := pattern % 2 = 0

/-- Whether a real number lies in the basin. -/
def Basin.holds (b : Basin) (q : Rat) : Bool :=
  if b.closed then b.low ≤ q && q ≤ b.high else b.low < q && q < b.high

/-- The number of decimal digits of a natural number. -/
def decimalLength (n : Nat) : Nat := (Nat.toDigits 10 n).length

/-- The least `k` with `q < 10 ^ k`, for a positive `q`. -/
def decimalScale (q : Rat) : Int :=
  let guess : Int := (decimalLength q.num.toNat : Int) - (decimalLength q.den : Int)
  if q < tenPow guess then guess else guess + 1

/-- The best decimal with digits down to the power `e` of ten, if one lies in the basin: of the two
neighbours of the value on this grid the nearer, an exact tie going to even digits. -/
def Basin.onGrid? (b : Basin) (q : Rat) (e : Int) : Option Decimal :=
  let scaled := q / tenPow e
  let below := scaled.num.toNat / scaled.den
  let lower : Decimal := ⟨below, e⟩
  let upper : Decimal := ⟨below + 1, e⟩
  match b.holds lower.value, b.holds upper.value with
  | true, true =>
    if Format.roundHalfEven scaled = below then some lower else some upper
  | true, false => some lower
  | false, true => some upper
  | false, false => none

/-- Search the grids for `fuel` more digits, starting with the power `e` of ten. -/
def Basin.search (b : Basin) (q : Rat) : Nat → Int → Option Decimal
  | 0, _ => none
  | fuel + 1, e =>
    match b.onGrid? q e with
    | some d => some d
    | none => b.search q fuel (e - 1)

/-- Move trailing zeros of the digits into the exponent, looking at `fuel` digits at most. -/
def Decimal.trimZeros : Nat → Decimal → Decimal
  | 0, d => d
  | fuel + 1, d =>
    if d.digits ≠ 0 ∧ d.digits % 10 = 0 then trimZeros fuel ⟨d.digits / 10, d.exponent + 1⟩ else d

/-- The shortest decimal that rounds to a finite positive pattern. Seventeen digits always
suffice for the two formats in use. -/
def Format.shortest (f : Format) (pattern : Nat) : Decimal :=
  let q := f.value pattern
  match (f.basin pattern).search q 17 (decimalScale q - 1) with
  | some d => d.trimZeros 17
  | none => ⟨q.num.toNat, 0⟩

/-- The digits of a natural number. -/
def digitChars (n : Nat) : List Char := Nat.toDigits 10 n

/-- Lay out a decimal: positionally up to below `10 ^ most` unless it is tiny, with at least one
digit on both sides of the point, and with a signed exponent of at least two digits otherwise. -/
def Decimal.layout (d : Decimal) (isTiny : Bool) (most : Int) : List Char :=
  let ds := digitChars d.digits
  let point : Int := ds.length + d.exponent
  if !isTiny ∧ point ≤ most then
    if point ≤ 0 then ['0', '.'] ++ List.replicate (-point).toNat '0' ++ ds
    else
      let whole := ds.take point.toNat ++ List.replicate (point.toNat - ds.length) '0'
      let fraction := ds.drop point.toNat
      whole ++ '.' :: (if fraction = [] then ['0'] else fraction)
  else
    let power := point - 1
    let powerDigits := digitChars power.natAbs
    ds.take 1 ++ (if ds.length = 1 then [] else '.' :: ds.drop 1) ++
      ['e', if power < 0 then '-' else '+'] ++
      List.replicate (2 - powerDigits.length) '0' ++ powerDigits

/-- The most digits before the point that are written positionally. Doubles have sixteen, while
singles have no more than they can tell apart. -/
def Format.mostWhole (f : Format) : Int := if f = .single then 6 else 16

/-- The text of a signed pattern. -/
def Format.text (f : Format) (pattern : Nat) : List Char :=
  let magnitude := pattern % f.signBit
  let mark := if f.signBit ≤ pattern then ['-'] else []
  if magnitude = 0 then mark ++ ['0', '.', '0']
  else if magnitude < f.infinity then
    mark ++ (f.shortest magnitude).layout (f.value magnitude < tenPow (-4)) f.mostWhole
  else if magnitude = f.infinity then mark ++ ['i', 'n', 'f']
  else ['n', 'a', 'n']

/-- The text of a double. -/
def doubleText (x : Float) : String := String.ofList (Format.double.text x.toBits.toNat)

/-- The text of a single. -/
def singleText (x : Float32) : String := String.ofList (Format.single.text x.toBits.toNat)

/-- The text of an integer. -/
def intText (n : Int) : String :=
  String.ofList (if n < 0 then '-' :: digitChars n.natAbs else digitChars n.natAbs)

end ShaderLoom.Number
