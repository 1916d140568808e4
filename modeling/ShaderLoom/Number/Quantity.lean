import ShaderLoom.Number.Rounding

/-!
# Exact quantities

What a number of any representation stands for: a rational number, an infinity, or nothing at all.
Numbers of different representations are compared by their quantities, so that no comparison rounds.
-/

namespace ShaderLoom.Number

/-- The exact value of a number. -/
inductive Quantity where
  /-- A rational number. -/
  | finite (q : Rat)
  /-- Positive or negative infinity. -/
  | infinite (negative : Bool)
  /-- The result of an operation without a result. -/
  | missing
deriving DecidableEq

namespace Quantity

/-- The quantity of a signed bit pattern. -/
def ofPattern (f : Format) (pattern : Nat) : Quantity :=
  let magnitude := pattern % f.signBit
  let negative := f.signBit ≤ pattern
  if magnitude < f.infinity then
    .finite (if negative then -f.value magnitude else f.value magnitude)
  else if magnitude = f.infinity then .infinite negative
  else .missing

/-- The quantity of a double. -/
def ofDouble (x : Float) : Quantity := ofPattern .double x.toBits.toNat

/-- The quantity of a single. -/
def ofSingle (x : Float32) : Quantity := ofPattern .single x.toBits.toNat

/-- The quantity of an integer. -/
def ofInt (n : Int) : Quantity := .finite n

/-- Numeric equality; a missing quantity equals nothing. -/
def equal : Quantity → Quantity → Bool
  | .finite p, .finite q => p = q
  | .infinite a, .infinite b => a = b
  | _, _ => false

/-- Numeric order; a missing quantity is below nothing and above nothing. -/
def less : Quantity → Quantity → Bool
  | .finite p, .finite q => p < q
  | .finite _, .infinite negative => !negative
  | .infinite negative, .finite _ => negative
  | .infinite a, .infinite b => a && !b
  | _, _ => false

/-- Whether the quantity is a rational number. -/
def isFinite : Quantity → Bool
  | .finite _ => true
  | _ => false

/-- Whether the quantity is zero. -/
def isZero : Quantity → Bool
  | .finite q => q = 0
  | _ => false

/-- The integer part, cut toward zero. -/
def truncated? : Quantity → Option Int
  | .finite q => some (q.num.tdiv q.den)
  | _ => none

@[simp] theorem less_irrefl (a : Quantity) : a.less a = false := by
  cases a with
  | finite q => simp [less]
  | infinite b => cases b <;> rfl
  | missing => rfl

theorem equal_comm (a b : Quantity) : a.equal b = b.equal a := by
  cases a <;> cases b <;> simp [equal, eq_comm]

end Quantity

/-- Whether a double has its sign bit set, which also a zero can have. -/
def isNegativeDouble (x : Float) : Bool := Format.double.signBit ≤ x.toBits.toNat

/-- Whether a single has its sign bit set, which also a zero can have. -/
def isNegativeSingle (x : Float32) : Bool := Format.single.signBit ≤ x.toBits.toNat

end ShaderLoom.Number
