import ShaderLoom.Value.Basic

/-!
# Ranges of integers

A range is the sequence of the integers from a start up to or down to a stop, which is left out. Its
members are computed and never stored, so that a range can be as long as one likes.
-/

namespace ShaderLoom

/-- The number of integers in a range. -/
def rangeLength (start stop step : Int) : Nat :=
  if 0 < step then ((stop - start + step - 1) / step).toNat
  else if step < 0 then ((start - stop - step - 1) / -step).toNat
  else 0

/-- The integer at a position of a range. -/
def rangeAt (start step : Int) (i : Nat) : Value := .int (start + step * (i : Int))

/-- The integers in a range. -/
def rangeItems (start stop step : Int) : List Value :=
  (List.range (rangeLength start stop step)).map (rangeAt start step)

/-- Whether an integer is a member of a range. -/
def rangeHolds (start stop step n : Int) : Bool :=
  if 0 < step then start ≤ n && n < stop && (n - start) % step == 0
  else if step < 0 then stop < n && n ≤ start && (start - n) % -step == 0
  else false

/-- Whether two ranges are the same sequence. -/
def sameRange (a b c a' b' c' : Int) : Bool :=
  let n := rangeLength a b c
  n = rangeLength a' b' c' && (n = 0 || (a = a' && (n = 1 || c = c')))

@[simp] theorem length_rangeItems (start stop step : Int) :
    (rangeItems start stop step).length = rangeLength start stop step := by
  simp [rangeItems]

theorem sameRange_refl (a b c : Int) : sameRange a b c a b c = true := by
  simp [sameRange]

end ShaderLoom
