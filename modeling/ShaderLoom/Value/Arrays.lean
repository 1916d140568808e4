import ShaderLoom.Value.Arithmetic
import ShaderLoom.Number.Reading

/-!
# Numeric arrays from nested sequences

A nested sequence is an array if it is rectangular. Its shape is found first, and then every member
is converted to the type of the cells, in row-major order.
-/

namespace ShaderLoom

open Number

/-- The greatest number of axes of an array. -/
def maxAxes : Nat := 64

namespace Value

/-- The double that a member of an array stands for. -/
def cellDouble : Value → Answer Float
  | .null => .ok (0 / 0)
  | .bool b => .ok (if b then 1 else 0)
  | .int n => doubleOf n
  | .float x => .ok x
  | .text s =>
    match readDouble? s.toList with
    | some x => .ok x
    | none => .error .invalid
  | .scalar s => .ok s.toDouble
  | .singular _ v => v.cellDouble
  | _ => .error .unsupported

/-- The integer that a member of an array stands for. -/
def cellInt : Value → Answer Int
  | .int n => .ok n
  | .bool b => .ok b.toInt
  | .scalar s =>
    match s.quantity.truncated? with
    | some n => .ok n
    | none => .error .invalid
  | .float x =>
    match (Quantity.ofDouble x).truncated? with
    | some n => .ok n
    | none => .error .invalid
  | .text s =>
    match readInt? s.toList with
    | some n => .ok n
    | none => .error .invalid
  | .singular _ v => v.cellInt
  | _ => .error .unsupported

/-- Convert a member of an array to a type of cells. -/
def toCell (t : CellType) (v : Value) : Answer Scalar :=
  match t with
  | .single =>
    match v with
    | .scalar (.single x) => .ok (.single x)
    | .scalar (.integer _ n) => .ok (.single (singleOfRat n))
    | v => v.cellDouble.map fun x => .single x.toFloat32
  | .double => v.cellDouble.map .double
  | .integer w => do
    let n ← v.cellInt
    let (low, high) := w.bounds
    if low ≤ n ∧ n ≤ high then .ok (.integer w n) else .error .overflow
  | .truth => v.truth.map .truth

end Value

namespace NumericArray

/-- The array that a value stands for. -/
def ofValue (t : CellType) (v : Value) : Answer NumericArray :=
  match v.shape? with
  | none => .error .invalid
  | some shape =>
    if maxAxes < shape.length then .error .invalid
    else (v.leaves.mapM (Value.toCell t)).map fun cells => ⟨t, shape, cells⟩

/-- Nested lists of cells along the axes. -/
def nested : List Nat → List Value → Value
  | [], cells => cells.headD .null
  | [_], cells => .list cells
  | n :: shape, cells =>
    .list ((pieces (cellCount shape) n cells).map (nested shape))

/-- The array as nested lists of plain numbers. -/
def toLists (a : NumericArray) : Value := nested a.shape (a.cells.map Scalar.item)

/-- The cells of a shape in the sequence in which the first axis varies fastest. -/
def transposedCells {α : Type} : List Nat → List α → List α
  | [], xs => xs
  | n :: shape, xs =>
    let rows := (pieces (cellCount shape) n xs).map (transposedCells shape)
    (List.range (cellCount shape)).flatMap fun i => rows.filterMap fun row => row[i]?

/-- The array with its axes in reverse. -/
def transposed (a : NumericArray) : NumericArray :=
  ⟨a.cellType, a.shape.reverse, transposedCells a.shape a.cells⟩

end NumericArray

/-- The number of bytes that a cell takes. -/
def CellType.byteSize : CellType → Nat
  | .single => 4
  | .double => 8
  | .integer .int8 => 1
  | .integer .uint8 => 1
  | .integer .int16 => 2
  | .integer .int64 => 8
  | .truth => 1

end ShaderLoom
