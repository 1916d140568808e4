import ShaderLoom.Value.Cells

/-!
# Operations on arrays, cell by cell

An operation on two arrays works on their cells one by one. The shapes have to agree from the last
axis on, except that an axis of length one is repeated as often as needed. A plain number takes on
the type of the cells that it meets, and a rectangular sequence of numbers counts as an array.
-/

namespace ShaderLoom

open Number

/-- Cut a list into `count` pieces of a length. -/
def pieces {α : Type} (length : Nat) : Nat → List α → List (List α)
  | 0, _ => []
  | count + 1, xs => xs.take length :: pieces length count (xs.drop length)

@[simp] theorem length_pieces {α : Type} (length count : Nat) (xs : List α) :
    (pieces length count xs).length = count := by
  induction count generalizing xs with
  | zero => rfl
  | succ count ih => simp [pieces, ih]

/-- The number of cells of a shape. -/
def cellCount (shape : List Nat) : Nat := shape.foldl (· * ·) 1

/-! ## Shapes -/

/-- A shape with axes of length one in front, so that it has at least `n` axes. -/
def padShape (n : Nat) (shape : List Nat) : List Nat :=
  List.replicate (n - shape.length) 1 ++ shape

/-- The length that two axes share, where an axis of length one goes with every other one. -/
def sharedLength? (m n : Nat) : Option Nat :=
  if m = n then some m else if m = 1 then some n else if n = 1 then some m else none

/-- The shape that two shapes share. -/
def sharedShape? (a b : List Nat) : Option (List Nat) :=
  let n := max a.length b.length
  ((padShape n a).zip (padShape n b)).mapM fun p => sharedLength? p.1 p.2

/-- The cells of a shape as cells of another shape with as many axes, where axes of length one are
repeated. -/
def stretch {α : Type} : List Nat → List Nat → List α → List α
  | m :: source, n :: target, xs =>
    let rows := ((pieces (cellCount source) m xs).map (stretch source target)).flatten
    if m = n then rows else (List.replicate n rows).flatten
  | _, _, xs => xs

theorem sharedLength?_self (n : Nat) : sharedLength? n n = some n := by
  simp [sharedLength?]

namespace NumericArray

/-- A single number as an array without axes. -/
def ofScalar (s : Scalar) : NumericArray := ⟨s.cellType, [], [s]⟩

/-- The array as a value: a number if there are no axes. -/
def toValue (a : NumericArray) : Value :=
  match a.shape, a.cells with
  | [], [s] => .scalar s
  | _, _ => .array a

/-- The array with its cells in another type. -/
def convert (t : CellType) (a : NumericArray) : NumericArray :=
  ⟨t, a.shape, a.cells.map (Scalar.convert t)⟩

/-- Apply an operation to each cell. -/
def mapCells (f : Scalar → Answer Scalar) (a : NumericArray) : Answer NumericArray := do
  .ok { a with cells := ← a.cells.mapM f }

/-- Apply an operation to the cells of two arrays that share a shape; its results have a type. -/
def zipCells (t : CellType) (f : Scalar → Scalar → Answer Scalar) (a b : NumericArray) :
    Answer NumericArray :=
  match sharedShape? a.shape b.shape with
  | none => .error .invalid
  | some shape => do
    let spread (c : NumericArray) := stretch (padShape shape.length c.shape) shape c.cells
    let cells ← ((spread a).zip (spread b)).mapM fun p => f p.1 p.2
    .ok ⟨t, shape, cells⟩

end NumericArray

/-! ## Sequences as arrays -/

mutual

/-- The lengths along the axes of a nested sequence, or `none` if it is not rectangular. Texts
and maps count as single members. -/
def Value.shape? : Value → Option (List Nat)
  | .list xs => Value.shapeAll? xs xs.length
  | .tuple xs => Value.shapeAll? xs xs.length
  | .array a => some a.shape
  | .singular _ v => Value.shape? v
  | _ => some []

/-- The lengths along the axes of a sequence with the given members, which must have one shape. -/
def Value.shapeAll? : List Value → Nat → Option (List Nat)
  | [], n => some [n]
  | x :: xs, n =>
    match Value.shape? x with
    | none => none
    | some inner =>
      match xs with
      | [] => some (n :: inner)
      | _ => if Value.shapeAll? xs n = some (n :: inner) then some (n :: inner) else none

/-- The members of a nested sequence in row-major order. -/
def Value.leaves : Value → List Value
  | .list xs => Value.leavesAll xs
  | .tuple xs => Value.leavesAll xs
  | .array a => a.cells.map .scalar
  | .singular _ v => Value.leaves v
  | v => [v]

/-- The members of nested sequences in row-major order. -/
def Value.leavesAll : List Value → List Value
  | [] => []
  | x :: xs => Value.leaves x ++ Value.leavesAll xs

end

/-- The fixed-width number that a number is as the member of an array. -/
def Value.ownCell? : Value → Option Scalar
  | .bool b => some (.truth b)
  | .int n =>
    let (low, high) := IntWidth.int64.bounds
    if low ≤ n ∧ n ≤ high then some (.integer .int64 n) else none
  | .float x => some (.double x)
  | .scalar s => some s
  | _ => none

/-- Whether the value is a text, or a sequence of texts and real numbers. Its cells would be texts,
which no operation other than equality takes beside numbers. -/
def Value.hasTextCells (v : Value) : Bool :=
  let leaves := v.leaves
  leaves.any Value.isText && leaves.all fun x => x.isText || (Value.ownCell? x).isSome

/-- The array that a sequence of numbers counts as: its cells have the least type that all members
fit into. There is none if a member is no number, and a sequence that is not rectangular is
refused. -/
def Value.sequenceArray? (v : Value) : Answer (Option NumericArray) :=
  match v.shape? with
  | none => .error .invalid
  | some shape =>
    match v.leaves.mapM Value.ownCell? with
    | none => .ok none
    | some [] => .ok (some ⟨.double, shape, []⟩)
    | some (s :: ss) =>
      let t := ss.foldl (fun t s => t.common s.cellType) s.cellType
      .ok (some ⟨t, shape, (s :: ss).map (Scalar.convert t)⟩)

/-! ## Operands -/

/-- What takes part in an operation on cells. -/
inductive Operand where
  /-- Cells of a type of their own. -/
  | cells (a : NumericArray)
  /-- A plain integer. -/
  | int (n : Int)
  /-- A plain truth value. -/
  | truth (b : Bool)
  /-- A plain float. -/
  | real (x : Float)

namespace Operand

/-- The operand that a real number or an array is. -/
def ofValue? : Value → Option Operand
  | .bool b => some (.truth b)
  | .int n => some (.int n)
  | .float x => some (.real x)
  | .scalar s => some (.cells (.ofScalar s))
  | .array a => some (.cells a)
  | .singular _ v => ofValue? v
  | _ => none

/-- The type of the cells, if there are any. -/
def cellType? : Operand → Option CellType
  | .cells a => some a.cellType
  | _ => none

/-- The type of cells that fits the operand besides cells of a type. -/
def typeBeside (t : CellType) : Operand → CellType
  | .cells a => t.common a.cellType
  | .int _ => if t = .truth then .integer .int64 else t
  | .truth _ => t
  | .real _ => if t = .single then .single else .double

/-- The type of cells that fits both operands, if one of them has cells. -/
def commonType? (a b : Operand) : Option CellType :=
  match a.cellType?, b.cellType? with
  | some t, _ => some (b.typeBeside t)
  | none, some t => some (a.typeBeside t)
  | none, none => none

/-- A plain integer as a number of a type; it has to fit. -/
def integerCell (t : CellType) (n : Int) : Answer Scalar :=
  match t with
  | .integer w =>
    if w.bounds.1 ≤ n ∧ n ≤ w.bounds.2 then .ok (.integer w n) else .error .overflow
  | .truth => .ok (.truth (n ≠ 0))
  | t =>
    let x := doubleOfRat n
    if x.isInf then .error .overflow else .ok ((Scalar.double x).convert t)

/-- The operand as an array with cells of a type. -/
def toArray (t : CellType) : Operand → Answer NumericArray
  | .cells a => .ok (a.convert t)
  | .int n => do .ok (.ofScalar (← integerCell t n))
  | .truth b => .ok (.ofScalar ((Scalar.truth b).convert t))
  | .real x => .ok (.ofScalar ((Scalar.double x).convert t))

/-- Arithmetic on operands, cell by cell. -/
def arith (op : ArithOp) (a b : Operand) : Answer Value := do
  match commonType? a b with
  | none => .error .unsupported
  | some t =>
    let x ← a.toArray t
    let y ← b.toArray t
    let working := t.workingType op
    let result ← NumericArray.zipCells working (Scalar.arith op) (x.convert working)
      (y.convert working)
    .ok result.toValue

/-- An operand with the exact quantities of its cells, for a relation between integers. -/
def exactCells : Operand → List Nat × List Quantity
  | .cells a => (a.shape, a.cells.map Scalar.quantity)
  | .int n => ([], [.ofInt n])
  | .truth b => ([], [.ofInt b.toInt])
  | .real x => ([], [.ofDouble x])

/-- The truth values of a relation, cell by cell. Floats are compared in the type that fits both
operands, integers exactly. -/
def relate (r : Relation) (a b : Operand) : Answer Value := do
  match commonType? a b with
  | none => .error .unsupported
  | some t =>
    let (shapeA, cellsA, shapeB, cellsB) ←
      if t.isFloat then do
        let x ← a.toArray t
        let y ← b.toArray t
        pure (x.shape, x.cells.map Scalar.quantity, y.shape, y.cells.map Scalar.quantity)
      else
        pure (a.exactCells.1, a.exactCells.2, b.exactCells.1, b.exactCells.2)
    match sharedShape? shapeA shapeB with
    | none => .error .invalid
    | some shape =>
      let spread (own : List Nat) (cells : List Quantity) :=
        stretch (padShape shape.length own) shape cells
      let cells := ((spread shapeA cellsA).zip (spread shapeB cellsB)).map fun p =>
        Scalar.truth (r.holds p.1 p.2)
      .ok (NumericArray.toValue ⟨.truth, shape, cells⟩)

end Operand

end ShaderLoom
