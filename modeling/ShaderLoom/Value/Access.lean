import ShaderLoom.Value.Plain
import ShaderLoom.Text.Search

/-!
# Membership and items

Whether a value holds another one, and the value at a key or a position. Positions count from the
end if they are negative. An array is looked into along its axes: by an integer for each of the
first axes, or by a list of positions or of truth values for the first one.
-/

namespace ShaderLoom

namespace Value

/-! ## Membership -/

/-- Refuse a value that cannot be looked up in a map. -/
def needKey (k : Value) : Answer Unit :=
  match k with
  | .undefined u => if u.lenient then .ok () else .error (.undefinedUse u.message)
  | k => if k.isHashable then .ok () else .error .unsupported

/-- Whether a value agrees with a member of a sequence, from first to last. -/
def agreesWithAny (v : Value) : List Value → Answer Bool
  | [] => .ok false
  | x :: xs => do if ← agrees x v then .ok true else agreesWithAny v xs

/-- Whether any cell of a value is different from zero. -/
def anyCell : Value → Bool
  | .bool b => b
  | .scalar s => scalarTruth s
  | .array a => a.cells.any scalarTruth
  | _ => false

/-- Whether a map that is looked at as a sequence holds a value. -/
def viewHolds (kind : ViewKind) (es : Entries) (v : Value) : Answer Bool :=
  match kind with
  | .keys => do
    v.needKey
    .ok (Entries.has es v)
  | .values => agreesWithAny v (Entries.values es)
  | .items =>
    match v with
    | .tuple [k, w] => do
      k.needKey
      match Entries.get? es k with
      | some found => agrees found w
      | none => .ok false
    | _ => .ok false

/-- Whether a map, a sequence or a text holds a value. -/
def holds (container v : Value) : Answer Bool :=
  match container with
  | .map _ es => do
    v.needKey
    .ok (Entries.has es v)
  | .text s =>
    match v with
    | .text t => .ok (Text.occurs t.toList s.toList)
    | _ => .error .unsupported
  | .range a b c =>
    match v with
    | .int n => .ok (rangeHolds a b c n)
    | .bool t => .ok (rangeHolds a b c t.toInt)
    | v => agreesWithAny v (rangeItems a b c)
  | .view kind owner => viewHolds kind owner.entries v
  | .array a => do .ok (← (Value.array a).relate .eq v).anyCell
  | .singular _ (.array a) => do .ok (← (Value.array a).relate .eq v).anyCell
  | c => do agreesWithAny v (← c.members)

/-! ## Items -/

/-- The position that an integer means in a sequence of a length. -/
def position? (n : Int) (length : Nat) : Option Nat :=
  let i := if n < 0 then n + length else n
  if 0 ≤ i ∧ i < length then some i.toNat else none

/-- The member of a sequence at a position. -/
def memberAt (xs : List Value) (n : Int) : Answer Value :=
  match (position? n xs.length).bind fun i => xs[i]? with
  | some x => .ok x
  | none => .error .missingIndex

/-- The member of a sequence at the position that a value stands for. -/
def memberAtKey (xs : List Value) (key : Value) : Answer Value :=
  match key.index? with
  | some n => memberAt xs n
  | none => .error .unsupported

end Value

namespace NumericArray

open Value

/-- The part of an array at a position of its first axis. -/
def rowAt? (a : NumericArray) (n : Int) : Option NumericArray :=
  match a.shape with
  | [] => none
  | length :: shape =>
    (position? n length).map fun i =>
      let size := cellCount shape
      ⟨a.cellType, shape, (a.cells.drop (i * size)).take size⟩

/-- The parts of an array at some positions of its first axis, along a new first axis. -/
def rowsAt? (a : NumericArray) (ns : List Int) : Option NumericArray :=
  match a.shape with
  | [] => none
  | _ :: shape =>
    (ns.mapM a.rowAt?).map fun rows => ⟨a.cellType, ns.length :: shape, rows.flatMap (·.cells)⟩

/-- The part of an array under a sequence of keys, one for each of the first axes: an integer
selects a position of an axis, and the absent value stands for a new axis. -/
def under? : List Value → NumericArray → Option NumericArray
  | [], a => some a
  | .null :: keys, a => (under? keys a).map fun b => { b with shape := 1 :: b.shape }
  | key :: keys, a =>
    match key with
    | .bool _ => none
    | key => key.index?.bind fun n => (a.rowAt? n).bind (under? keys)

/-- Whether keys select one position of every axis, so that what is left is a single number. -/
def selectsNumber (keys : List Value) (a : NumericArray) : Bool :=
  keys.length = a.shape.length && keys.all fun k => !(match k with | .null => true | _ => false)

/-- The positions that a sequence of integers or of truth values selects. -/
def positionsOf? (length : Nat) (xs : List Value) : Option (List Int) :=
  if xs.isEmpty then some []
  else if xs.all Value.isTruth then
    if xs.length = length then
      some (((xs.zip (List.range length)).filter fun p => p.1.anyCell).map fun p => (p.2 : Int))
    else none
  else if xs.any Value.isTruth then none
  else xs.mapM Value.index?

/-- What an array holds under a key. -/
def item (a : NumericArray) (key : Value) : Answer Value :=
  let found (b? : Option NumericArray) : Answer Value :=
    match b? with
    | some b => .ok (.array b)
    | none => .error .missingIndex
  match key with
  | .tuple keys =>
    match under? keys a with
    | some b => .ok (if selectsNumber keys a then b.toValue else .array b)
    | none => .error .missingIndex
  | .null => found (under? [.null] a)
  | .bool b =>
    .ok (.array ⟨a.cellType, (if b then 1 else 0) :: a.shape, if b then a.cells else []⟩)
  | .list xs => found ((positionsOf? (a.shape.headD 0) xs).bind a.rowsAt?)
  | .array b =>
    match b.shape with
    | [_] => found ((positionsOf? (a.shape.headD 0) (b.cells.map .scalar)).bind a.rowsAt?)
    | _ =>
      match key.index? with
      | some n => found (a.rowAt? n)
      | none => .error .missingIndex
  | key =>
    match key.index? with
    | some n =>
      match a.rowAt? n with
      | some b => .ok b.toValue
      | none => .error .missingIndex
    | none => .error .missingIndex

end NumericArray

namespace Value

/-- The value of a map under a key, or of a sequence at a position. -/
def item (container key : Value) : Answer Value :=
  match container with
  | .map _ es => do
    key.needKey
    match Entries.get? es key with
    | some v => .ok v
    | none => .error .missingKey
  | .text s => memberAtKey (charValues s) key
  | .list xs => memberAtKey xs key
  | .tuple xs => memberAtKey xs key
  | .range a b c =>
    match key.index? with
    | some n =>
      match position? n (rangeLength a b c) with
      | some i => .ok (rangeAt a c i)
      | none => .error .missingIndex
    | none => .error .unsupported
  | .array a => a.item key
  | .scalar s =>
    match key with
    | .tuple keys =>
      if keys.isEmpty then .ok (.scalar s) else (NumericArray.ofScalar s).item key
    | .null => (NumericArray.ofScalar s).item key
    | _ => .error .missingIndex
  | .complexScalar _ _ _ => .error .missingIndex
  | .undefined u => .error (.undefinedUse u.message)
  | .singular _ v => v.item key
  | _ => .error .unsupported

/-! ## Slices -/

/-- The bound of a slice: an integer, or none at all. -/
def sliceIndex (v : Value) : Answer (Option Int) :=
  match v with
  | .null => .ok none
  | v =>
    match v.index? with
    | some n => .ok (some n)
    | none => .error .unsupported

/-- The bounds and the step of a slice. -/
structure SliceBounds where
  start : Option Int
  stop : Option Int
  step : Int

/-- Read the bounds and the step of a slice, the step first; it cannot be zero. -/
def SliceBounds.ofValues (start stop step : Value) : Answer SliceBounds := do
  let step := (← step.sliceIndex).getD 1
  if step = 0 then .error .invalid
  else
    let start ← start.sliceIndex
    let stop ← stop.sliceIndex
    .ok ⟨start, stop, step⟩

/-- The first position of a slice of a sequence of a length, and where it ends. -/
def SliceBounds.ends (b : SliceBounds) (length : Nat) : Int × Int :=
  let low : Int := if 0 < b.step then 0 else -1
  let high : Int := if 0 < b.step then length else length - 1
  let clamp (n : Int) : Int :=
    let n := if n < 0 then n + length else n
    if n < low then low else if high < n then high else n
  ((b.start.map clamp).getD (if 0 < b.step then low else high),
    (b.stop.map clamp).getD (if 0 < b.step then high else low))

/-- The members of a sequence that a slice selects. -/
def SliceBounds.select {α : Type} (b : SliceBounds) (xs : List α) : List α :=
  let (first, last) := b.ends xs.length
  let positions := (List.range (rangeLength first last b.step)).map fun i : Nat =>
    (first + b.step * (i : Int)).toNat
  positions.filterMap fun i => xs[i]?

/-- The part of a sequence that a slice selects. -/
def slice (container start stop step : Value) : Answer Value := do
  let bounds : Answer SliceBounds := SliceBounds.ofValues start stop step
  match container with
  | .text s => do .ok (.text (String.ofList ((← bounds).select s.toList)))
  | .list xs => do .ok (.list ((← bounds).select xs))
  | .tuple xs => do .ok (.tuple ((← bounds).select xs))
  | .range a b c => do
    let bs ← bounds
    let (first, last) := bs.ends (rangeLength a b c)
    .ok (.range (a + c * first) (a + c * last) (c * bs.step))
  | .array a =>
    match a.shape with
    | [] => .error .missingIndex
    | n :: shape => do
      let rows := (← bounds).select (pieces (cellCount shape) n a.cells)
      .ok (.array ⟨a.cellType, rows.length :: shape, rows.flatten⟩)
  | .scalar _ | .complexScalar _ _ _ => .error .missingIndex
  | .undefined u => .error (.undefinedUse u.message)
  | .singular _ v => v.slice start stop step
  | _ => .error .unsupported

end Value

end ShaderLoom
