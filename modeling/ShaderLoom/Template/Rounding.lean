import ShaderLoom.Value.Formatting
import ShaderLoom.Value.Arithmetic

/-!
# Integers, floats and rounding in templates

What a filter reads as an integer or a float, and how numbers are rounded to a number of decimal
places. A plain float is rounded exactly, a tie going to the even digit. A fixed-width float is
scaled, rounded to an integer and scaled back in its own type, so that the steps before and after
have roundings of their own.
-/

namespace ShaderLoom.Template

open Number

/-! ## Reading numbers -/

/-- The double that a text or a number is read as. -/
def readReal (v : Value) : Answer Float :=
  match v with
  | .text s =>
    match readDouble? s.toList with
    | some x => .ok x
    | none => .error .invalid
  | v => v.realOf

/-- The integer that a text is read as in a base. -/
def textInteger (s : String) (base : Value) : Answer Int :=
  match base.index? with
  | some b =>
    if b = 0 ∨ 2 ≤ b ∧ b ≤ 36 then
      match readIntIn? b.toNat s.toList with
      | some n => .ok n
      | none => .error .invalid
    else .error .invalid
  | none => .error .unsupported

/-- The integer that a value is read as directly. -/
def readInteger (v base : Value) : Answer Int :=
  match v with
  | .text s => textInteger s base
  | v => v.cutInt

/-- Read a value as an integer, in some base if it is a text. What cannot be read directly is read
as a float and cut; if this fails too, the result is the default. -/
def intFilter (v default base : Value) : Answer Value :=
  match readInteger v base with
  | .ok n => .ok (.int n)
  | .error .unsupported | .error .invalid =>
    match readReal v with
    | .ok x =>
      match (Quantity.ofDouble x).truncated? with
      | some n => .ok (.int n)
      | none => .ok default
    | .error (.undefinedUse m) => .error (.undefinedUse m)
    | .error _ => .ok default
  | .error f => .error f

/-- Read a value as a float. What cannot be read gives the default. -/
def floatFilter (v default : Value) : Answer Value :=
  match readReal v with
  | .ok x => .ok (.float x)
  | .error .unsupported | .error .invalid => .ok default
  | .error f => .error f

/-! ## Rounding -/

/-- Round a double to a number of decimal places, a tie going to the even digit. -/
def roundDouble (x : Float) (places : Int) : Answer Float :=
  match Quantity.ofDouble x with
  | .finite q =>
    if 400 < places then .ok x
    else if places < -400 then .ok (zeroLike (isNegativeDouble x))
    else
      let rounded := (nearestInt (q * tenPow places) : Rat) * tenPow (-places)
      if rounded = 0 then .ok (zeroLike (isNegativeDouble x)) else Value.doubleOf rounded
  | _ => .ok x

/-- The integer nearest to a double, a tie going to the even one. -/
def roundedInt (x : Float) : Answer Value :=
  match Quantity.ofDouble x with
  | .finite q => .ok (.int (nearestInt q))
  | .infinite _ => .error .overflow
  | .missing => .error .invalid

/-- An integer rounded to a power of ten, a tie going to the even multiple. -/
def roundInt (n : Int) (places : Int) : Int :=
  if 0 ≤ places then n
  else if (Nat.pow 10 (-places).toNat : Nat) ≤ n.natAbs * 2 then
    nearestInt ((n : Rat) * tenPow places) * (Nat.pow 10 (-places).toNat : Nat)
  else 0

/-- A power of ten as a double: powers above the ninth are products, each step being rounded. -/
def scaleOfPlaces (places : Nat) : Float :=
  if places < 9 then doubleOfRat (Nat.pow 10 places : Nat)
  else (List.range (min places 400 - 9)).foldl (fun x _ => x * 10) 1000000000

/-- The whole double nearest to a double, a tie going to the even one. -/
def wholeDouble (x : Float) : Float :=
  match Quantity.ofDouble x with
  | .finite q =>
    let n := nearestInt q
    if n = 0 then zeroLike (isNegativeDouble x) else doubleOfRat n
  | _ => x

/-- Scale a double, round it to a whole one and scale it back, each step being rounded to a type. -/
def roundScaled (round : Float → Float) (x : Float) (places : Int) : Float :=
  let scale := round (scaleOfPlaces places.natAbs)
  if 0 ≤ places then round (wholeDouble (round (x * scale)) / scale)
  else round (wholeDouble (round (x / scale)) * scale)

/-- Round a fixed-width number to a number of decimal places. -/
def roundScalar (s : Scalar) (places : Int) : Answer Scalar :=
  match s with
  | .single x =>
    .ok (.single (roundScaled (fun y => y.toFloat32.toFloat) x.toFloat places).toFloat32)
  | .double x => .ok (.double (roundScaled id x places))
  | .integer w n =>
    .ok (if 0 ≤ places then .integer w n
      else (Scalar.double (roundScaled id (doubleOfRat n) places)).convert (.integer w))
  | .truth _ => .error .unsupported

/-- Round a number to a number of decimal places. Without a number of places the result is an
integer. -/
def roundCommon (v precision : Value) : Answer Value :=
  let toPlaces (f : Int → Answer Value) : Answer Value :=
    match precision.index? with
    | some n => f n
    | none => .error .unsupported
  match v.bare, precision with
  | .bool b, .null => .ok (.int b.toInt)
  | .int n, .null => .ok (.int n)
  | .float x, .null => roundedInt x
  | .scalar (.single x), .null => roundedInt x.toFloat
  | .scalar (.double x), .null => roundedInt x
  | .scalar (.integer _ n), .null => .ok (.int n)
  | .bool b, _ => toPlaces fun places => .ok (.int (roundInt b.toInt places))
  | .int n, _ => toPlaces fun places => .ok (.int (roundInt n places))
  | .float x, _ => toPlaces fun places => (roundDouble x places).map .float
  | .scalar s, _ => toPlaces fun places => (roundScalar s places).map .scalar
  | _, _ => .error .unsupported

/-- Round a number up or down to a number of decimal places. -/
def roundToward (up : Bool) (v precision : Value) : Answer Value := do
  let scale ← Value.arith .pow (.int 10) precision
  let scaled ← Value.arith .mul v scale
  match scaled.bare with
  | .text _ => .error .unsupported
  | w =>
    let q ←
      match w with
      | .array a =>
        match a.shape, a.cells with
        | [], [s] => (.ok s.quantity : Answer Quantity)
        | _, _ => .error .unsupported
      | w =>
        match w.quantity? with
        | some q => .ok q
        | none => .error .unsupported
    match q with
    | .finite q =>
      let scale ← Value.arith .pow (.int 10) precision
      Value.arith .div (.int (if up then q.ceil else q.floor)) scale
    | .infinite _ => .error .overflow
    | .missing => .error .invalid

/-- Round a number in the way that a word says. -/
def roundFilter (v precision method : Value) : Answer Value := do
  method.needKey
  match method with
  | .text "common" => roundCommon v precision
  | .text "ceil" => roundToward true v precision
  | .text "floor" => roundToward false v precision
  | _ => .error .refusedWord

theorem roundInt_of_nonneg {places : Int} (h : 0 ≤ places) (n : Int) : roundInt n places = n := by
  simp [roundInt, h]

end ShaderLoom.Template
