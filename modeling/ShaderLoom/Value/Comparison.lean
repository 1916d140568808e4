import ShaderLoom.Value.Broadcast
import ShaderLoom.Value.Entries

/-!
# Comparing values

Plain numbers are compared by their exact quantities, texts by code points, sequences by their first
difference. Where a fixed-width number or an array takes part, the other side takes on its type and
the answer is itself such a number or array. Members of sequences and maps count as equal already
when they are one and the same value, even if that value is not equal to itself. Every two values
can be asked for equality, but values of different kinds have no order.
-/

namespace ShaderLoom

open Number

namespace Value

/-- A use of an undefined value as an operand. -/
def checkDefined : Value → Answer Unit
  | .undefined u => .error (.undefinedUse u.message)
  | .singular _ v => v.checkDefined
  | _ => .ok ()

/-- Whether the value is a fixed-width number or an array. -/
def hasCells : Value → Bool
  | .scalar _ => true
  | .complexScalar _ _ _ => true
  | .array _ => true
  | _ => false

/-- Whether the value is a complex number of either representation. -/
def isComplex : Value → Bool
  | .complex _ _ => true
  | .complexScalar _ _ _ => true
  | _ => false

/-- Whether two values are known to be one and the same. -/
def isSame (v w : Value) : Bool :=
  match v, w with
  | .singular m _, .singular n _ => m = n
  | .map (.shared a) _, .map (.shared b) _ => a = b
  | _, _ => false

/-! ## Complex numbers -/

/-- A rational number as a double, if it is not too large. -/
def doubleOf (q : Rat) : Answer Float :=
  let x := doubleOfRat q
  if x.isInf then .error .overflow else .ok x

/-- Whether the value has 32 bits for each part, seen as a complex number. -/
def isNarrow : Value → Bool
  | .scalar (.single _) => true
  | .complexScalar isWide _ _ => !isWide
  | .array a => a.cellType = .single
  | _ => false

/-- Whether the value needs more than 32 bits for each part, seen as a complex number. -/
def needsWide : Value → Bool
  | .scalar (.double _) => true
  | .scalar (.integer w _) => w = .int64
  | .complexScalar isWide _ _ => isWide
  | .array a => a.cellType = .double || a.cellType = .integer .int64
  | _ => false

/-- Whether two values meet as complex numbers with 64 bits for each part. -/
def meetWide (v w : Value) : Bool :=
  v.needsWide || w.needsWide || !(v.isNarrow || w.isNarrow)

/-- A double that is rounded to a single unless there is room for it. -/
def roundedTo (isWide : Bool) (x : Float) : Float := if isWide then x else x.toFloat32.toFloat

/-- The parts of a number as a complex number. -/
def complexParts : Value → Answer (Float × Float)
  | .bool b => .ok (if b then 1 else 0, 0)
  | .int n => do .ok (← doubleOf n, 0)
  | .float x => .ok (x, 0)
  | .complex re im => .ok (re, im)
  | .scalar s => .ok (s.toDouble, 0)
  | .complexScalar _ re im => .ok (re, im)
  | _ => .error .unsupported

/-- The cells of a number or an array as complex numbers, with their shape. -/
def complexCells : Value → Answer (List Nat × List (Float × Float))
  | .array a => .ok (a.shape, a.cells.map fun s => (s.toDouble, 0))
  | v => do .ok ([], [← v.complexParts])

/-- A relation where one side is complex and one side has cells. -/
def relateComplex (r : Relation) (v w : Value) : Answer Value := do
  let isWide := meetWide v w
  let quantity (x : Float) := Quantity.ofDouble (roundedTo isWide x)
  let (shapeV, cellsV) ← v.complexCells
  let (shapeW, cellsW) ← w.complexCells
  match sharedShape? shapeV shapeW with
  | none => .error .invalid
  | some shape =>
    let spread (own : List Nat) (cells : List (Float × Float)) :=
      stretch (padShape shape.length own) shape cells
    let cells := ((spread shapeV cellsV).zip (spread shapeW cellsW)).map fun (a, b) =>
      Scalar.truth
        (r.holdsComplex (quantity a.1) (quantity a.2) (quantity b.1) (quantity b.2))
    .ok (NumericArray.toValue ⟨.truth, shape, cells⟩)

/-! ## Relations with cells -/

/-- The same truth value for every cell of a shape. -/
def uniformTruth (shape : List Nat) (b : Bool) : Value :=
  NumericArray.toValue ⟨.truth, shape, List.replicate (cellCount shape) (.truth b)⟩

/-- The members of a range as a list; every other value as it is. -/
def unrolled : Value → Value
  | .range a b c => .list (rangeItems a b c)
  | v => v

/-- The array that a list or a tuple counts as. -/
def sequenceOperand? : Value → Answer (Option NumericArray)
  | .list xs => (Value.list xs).sequenceArray?
  | .tuple xs => (Value.tuple xs).sequenceArray?
  | _ => .ok none

/-- The operand that a number, an array or a sequence of numbers is. -/
def operandOf (v : Value) : Answer (Option Operand) := do
  match Operand.ofValue? v with
  | some o => .ok (some o)
  | none => .ok ((← v.unrolled.sequenceOperand?).map .cells)

/-- The shape in which values meet that cannot be compared cell by cell. -/
def meetingShape (v w : Value) : List Nat :=
  let own (v : Value) : List Nat :=
    match v.unrolled with
    | .text _ => []
    | v => v.shape?.getD []
  (sharedShape? (own v) (own w)).getD []

/-- A relation where at least one side has cells. -/
def relateWithCells (r : Relation) (v w : Value) : Answer Value := do
  if v.isComplex || w.isComplex then
    match v.complexCells, w.complexCells with
    | .error .unsupported, _ => unlike
    | _, .error .unsupported => unlike
    | _, _ => relateComplex r v w
  else
    match ← operandOf v, ← operandOf w with
    | some a, some b => Operand.relate r a b
    | _, _ => unlike
where
  unlike : Answer Value :=
    if !r.isEquality then
      .error (if v.hasTextCells || w.hasTextCells then .unsupportedCells else .unsupported)
    else
      match v, w with
      | .scalar _, .null | .null, .scalar _ => .ok (.bool (r = .ne))
      | .complexScalar _ _ _, .null | .null, .complexScalar _ _ _ => .ok (.bool (r = .ne))
      | _, _ => .ok (uniformTruth (meetingShape v w) (r = .ne))

/-! ## Relations in general -/

/-- The plain answer to a question of equality that is settled. -/
def settledEquality (r : Relation) (areEqual : Bool) : Answer Value :=
  if r.isEquality then .ok (.bool (areEqual == (r = .eq))) else .error .unsupported

/-- A relation with an undefined side. An undefined value that is lenient equals nothing else. -/
def relateUndefined (r : Relation) (v w : Value) : Answer Value := do
  if r.isEquality then
    match v, w with
    | .undefined a, .undefined b =>
      if a.lenient && b.lenient then settledEquality r true
      else .error (.undefinedUse (if a.lenient then b.message else a.message))
    | .undefined a, _ =>
      if a.lenient then settledEquality r false else .error (.undefinedUse a.message)
    | _, .undefined b =>
      if b.lenient then settledEquality r false else .error (.undefinedUse b.message)
    | _, _ => .error .unsupported
  else
    v.checkDefined
    w.checkDefined
    .error .unsupported

/-- Whether the value is undefined. -/
def isUndefined : Value → Bool
  | .undefined _ => true
  | _ => false

/-- A relation between two values whose members need not be looked at. A plain complex number
compares itself with a double like with a plain float. -/
def relateWhole (r : Relation) (v w : Value) : Answer Value :=
  if v.isUndefined || w.isUndefined then relateUndefined r v w
  else
    match v, w with
    | .complex _ _, .scalar (.double _) =>
      if r.isEquality then settledEquality r (v.sameQuantity w) else relateWithCells r v w
    | _, _ =>
      if v.hasCells || w.hasCells then relateWithCells r v w
      else
        match v, w with
        | .text s, .text t =>
          .ok (.bool (match r with
            | .eq => s = t
            | .ne => s ≠ t
            | .lt => s < t
            | .le => s < t || s = t
            | .gt => t < s
            | .ge => t < s || s = t))
        | .range a b c, .range a' b' c' => settledEquality r (sameRange a b c a' b' c')
        | .null, .null => settledEquality r true
        | .moduleRef m, .moduleRef n => settledEquality r (m.id = n.id)
        | .functionRef f, .functionRef g => settledEquality r (f = g)
        | .loop i _ _, .loop j _ _ => settledEquality r (i = j)
        | v, w =>
          match v.quantity?, w.quantity? with
          | some p, some q => .ok (.bool (r.holds p q))
          | _, _ => settledEquality r (v.sameQuantity w)

/-- A relation between two maps that are looked at as sets, by their sizes and the number of
members that they share. -/
def relateSets (r : Relation) (m n shared : Nat) : Bool :=
  match r with
  | .eq => m = n && shared = m
  | .ne => !(m = n && shared = m)
  | .lt => m < n && shared = m
  | .le => m ≤ n && shared = m
  | .gt => n < m && shared = n
  | .ge => n ≤ m && shared = n

/-- The number of keys that are keys of the other map as well. -/
def sharedKeys (xs ys : List (Value × Value)) : Nat := xs.countP fun e => Entries.has ys e.1

mutual

/-- The answer to whether a relation holds between two values. -/
def relate : Value → Relation → Value → Answer Value
  | .list xs, r, w =>
    match w with
    | .list ys =>
      if r.isEquality && xs.length ≠ ys.length then settledEquality r false
      else relateAll xs r ys
    | w => relateWhole r (.list xs) w.bare
  | .tuple xs, r, w =>
    match w with
    | .tuple ys => relateAll xs r ys
    | w => relateWhole r (.tuple xs) w.bare
  | .contribution xs, r, w =>
    match w with
    | .contribution ys =>
      if r.isEquality then do settledEquality r (← allEqual xs ys) else .error .unsupported
    | w => relateWhole r (.contribution xs) w.bare
  | .map kind xs, r, w =>
    match w with
    | .map _ ys =>
      if !r.isEquality then .error .unsupported
      else if xs.length ≠ ys.length then settledEquality r false
      else do settledEquality r (← entriesWithin xs ys)
    | w => relateWhole r (.map kind xs) w.bare
  | .view k (.map kind xs), r, w =>
    match w with
    | .view l other => do
      match k, l with
      | .keys, .keys =>
        let ys := other.entries
        .ok (.bool (relateSets r xs.length ys.length (sharedKeys xs ys)))
      | .items, .items =>
        let ys := other.entries
        let shared ←
          match r with
          | .gt | .ge => sharedEntries xs ys
          | _ => do
            if xs.length ≤ ys.length && (← entriesWithin xs ys) then .ok xs.length else .ok 0
        .ok (.bool (relateSets r xs.length ys.length shared))
      | _, _ => settledEquality r false
    | w => relateWhole r (.view k (.map kind xs)) w.bare
  | .singular _ v, r, w => relate v r w
  | v, r, w => relateWhole r v w.bare

/-- A relation between two sequences: the answer is that of the first members that are not equal, or
else that of the lengths. -/
def relateAll : List Value → Relation → List Value → Answer Value
  | [], r, ys => .ok (.bool (r.holdsNat 0 ys.length))
  | x :: xs, r, ys =>
    match ys with
    | [] => .ok (.bool (r.holdsNat (xs.length + 1) 0))
    | y :: ys => do
      let agree ← if isSame x y then .ok true else do (← relate x .eq y).truth
      if agree then relateAll xs r ys
      else
        match r with
        | .eq => .ok (.bool false)
        | .ne => .ok (.bool true)
        | r => relate x r y

/-- Whether two lists of values are equal member by member. -/
def allEqual : List Value → List Value → Answer Bool
  | [], ys => .ok ys.isEmpty
  | x :: xs, ys =>
    match ys with
    | [] => .ok false
    | y :: ys => do if ← (← relate x .eq y).truth then allEqual xs ys else .ok false

/-- Whether all entries are entries of the other map as well. -/
def entriesWithin : List (Value × Value) → List (Value × Value) → Answer Bool
  | [], _ => .ok true
  | (k, v) :: rest, ys => do
    let agree ←
      match ys.find? fun e => k.sameKey e.1 with
      | some e => if isSame v e.2 then (.ok true : Answer Bool) else do (← relate v .eq e.2).truth
      | none => .ok false
    if agree then entriesWithin rest ys else .ok false

/-- The number of entries that are entries of the other map as well. -/
def sharedEntries : List (Value × Value) → List (Value × Value) → Answer Nat
  | [], _ => .ok 0
  | (k, v) :: rest, ys => do
    let agree ←
      match ys.find? fun e => k.sameKey e.1 with
      | some e => if isSame v e.2 then (.ok true : Answer Bool) else do (← relate v .eq e.2).truth
      | none => .ok false
    let n ← sharedEntries rest ys
    .ok (if agree then n + 1 else n)

end

/-- Whether two values are equal. -/
def equal (v w : Value) : Answer Bool := do (← v.relate .eq w).truth

theorem equal_int (m n : Int) : (Value.int m).equal (.int n) = .ok (decide (m = n)) := by
  have h : ((m : Rat) = (n : Rat)) ↔ m = n := Rat.intCast_inj
  by_cases hmn : m = n <;>
    simp [equal, relate, relateWhole, isUndefined, hasCells, quantity?, Relation.holds,
      Quantity.equal, Quantity.ofInt, truth, bare, bind, Except.bind, h, hmn]

theorem equal_text (s t : String) : (Value.text s).equal (.text t) = .ok (decide (s = t)) := by
  by_cases h : s = t <;>
    simp [equal, relate, relateWhole, isUndefined, hasCells, truth, bare, bind, Except.bind, h]

/-- Whether two values are one and the same, or equal. -/
def agrees (v w : Value) : Answer Bool := if isSame v w then .ok true else v.equal w

/-- Whether a value comes before another one. -/
def less? (v w : Value) : Answer Bool := do (← v.relate .lt w).truth

end Value

end ShaderLoom
