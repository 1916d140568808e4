import ShaderLoom.Value.Agreement

/-!
# Truth, length and members of values

Zero, empty sequences and maps, and the absent value count as false. Sequences and maps have
members; the members of a map are its keys.
-/

namespace ShaderLoom

open Number

/-- A number of a numeric array as a value. -/
def cellValue (s : Scalar) : Value := .scalar s

namespace NumericArray

/-- The rows of an array along its first axis, if it has one. -/
def rows? (a : NumericArray) : Option (List Value) :=
  match a.shape with
  | [] => none
  | [_] => some (a.cells.map cellValue)
  | n :: shape =>
    let size := shape.foldl (· * ·) 1
    some <| (List.range n).map fun i =>
      .array ⟨a.cellType, shape, (a.cells.drop (i * size)).take size⟩

end NumericArray

namespace Value

/-- The entries of a map. -/
def entries : Value → List (Value × Value)
  | .map _ es => es
  | _ => []

/-- The members of a map that is looked at as a sequence. -/
def viewMembers (kind : ViewKind) (es : List (Value × Value)) : List Value :=
  match kind with
  | .keys => es.map (·.1)
  | .values => es.map (·.2)
  | .items => es.map fun e => .tuple [e.1, e.2]

/-- Whether a fixed-width number is different from zero. -/
def scalarTruth (s : Scalar) : Bool := !s.quantity.isZero

/-- Whether the value counts as true. An array of several numbers has no truth value. -/
def truth : Value → Answer Bool
  | .null => .ok false
  | .bool b => .ok b
  | .int n => .ok (n ≠ 0)
  | .float x => .ok (!(Quantity.ofDouble x).isZero)
  | .complex re im => .ok (!((Quantity.ofDouble re).isZero && (Quantity.ofDouble im).isZero))
  | .text s => .ok (s ≠ "")
  | .list xs => .ok (!xs.isEmpty)
  | .tuple xs => .ok (!xs.isEmpty)
  | .map _ es => .ok (!es.isEmpty)
  | .scalar s => .ok (scalarTruth s)
  | .complexScalar _ re im =>
    .ok (!((Quantity.ofDouble re).isZero && (Quantity.ofDouble im).isZero))
  | .array a =>
    match a.cells with
    | [s] => .ok (scalarTruth s)
    | _ => .error .invalid
  | .range a b c => .ok (rangeLength a b c ≠ 0)
  | .view _ owner => .ok (!owner.entries.isEmpty)
  | .undefined u => if u.lenient then .ok false else .error (.undefinedUse u.message)
  | .moduleRef _ => .ok true
  | .functionRef _ => .ok true
  | .contribution _ => .ok true
  | .method _ _ => .ok true
  | .loop _ _ n => .ok (n ≠ 0)
  | .singular _ v => v.truth

/-- The characters of a text as texts. -/
def charValues (s : String) : List Value := s.toList.map fun c => .text (String.singleton c)

/-- The members of a sequence or the keys of a map. -/
def members : Value → Answer (List Value)
  | .text s => .ok (charValues s)
  | .list xs => .ok xs
  | .tuple xs => .ok xs
  | .map _ es => .ok (es.map (·.1))
  | .range a b c => .ok (rangeItems a b c)
  | .view kind owner => .ok (viewMembers kind owner.entries)
  | .array a =>
    match a.rows? with
    | some rows => .ok rows
    | none => .error .unsupported
  | .undefined u => if u.lenient then .ok [] else .error (.undefinedUse u.message)
  | .singular _ v => v.members
  | _ => .error .unsupported

/-- The greatest length that is told. -/
def maxLength : Nat := Nat.pow 2 63 - 1

/-- Whether an integer can count members or positions, from the end or from the beginning. -/
def isCount (n : Int) : Bool := -(maxLength : Int) - 1 ≤ n && n ≤ maxLength

/-- The number of members. -/
def length : Value → Answer Nat
  | .text s => .ok s.length
  | .list xs => .ok xs.length
  | .tuple xs => .ok xs.length
  | .map _ es => .ok es.length
  | .range a b c =>
    let n := rangeLength a b c
    if maxLength < n then .error .overflow else .ok n
  | .view _ owner => .ok owner.entries.length
  | .array a =>
    match a.shape with
    | n :: _ => .ok n
    | [] => .error .unsupported
  | .undefined u => if u.lenient then .ok 0 else .error (.undefinedUse u.message)
  | .loop _ _ n => .ok n
  | .singular _ v => v.length
  | _ => .error .unsupported

/-- The value itself if it counts as true, and the other one if not. -/
def orElse (v other : Value) : Answer Value :=
  v.truth.map fun b => if b then v else other

end Value

namespace Value

/-- The entry that a pair is read as. -/
def pairOf (v : Value) : Answer (Value × Value) :=
  match v.members with
  | .ok [a, b] => if a.isHashable then .ok (a, b) else .error .unsupported
  | .ok _ => .error .invalid
  | .error f => .error f

/-- The entries that a value is read as: those of a map, or the pairs of a sequence. -/
def entriesOf (v : Value) : Answer (List (Value × Value)) :=
  match v with
  | .map _ es => .ok es
  | v => do
    let xs ← v.members
    xs.mapM pairOf

/-- The entries that the values of a list are read as, one by one, up to the first value that is no
pair, and how the reading ends. -/
def readPairs : List Value → List (Value × Value) × Answer Unit
  | [] => ([], .ok ())
  | x :: xs =>
    match x.pairOf with
    | .ok e =>
      let (es, outcome) := readPairs xs
      (e :: es, outcome)
    | .error f => ([], .error f)

/-- The entries that are read from the members of a value, if it has any. -/
def readMembers : Answer (List Value) → List (Value × Value) × Answer Unit
  | .ok xs => readPairs xs
  | .error f => ([], .error f)

/-- The entries that are read from a value before the reading ends, and how it ends. -/
def readEntries (v : Value) : List (Value × Value) × Answer Unit :=
  match v with
  | .map _ es => (es, .ok ())
  | v => readMembers v.members

theorem mapM_pairOf_eq (xs : List Value) :
    xs.mapM pairOf = (readPairs xs).2.map fun _ => (readPairs xs).1 := by
  induction xs with
  | nil => rfl
  | cons x xs ih =>
    rw [List.mapM_cons, readPairs]
    cases x.pairOf with
    | error f => rfl
    | ok e =>
      show (xs.mapM pairOf >>= fun es => pure (e :: es)) = _
      rw [ih]
      cases (readPairs xs).2 <;> rfl

/-- A value has entries if they can be read to the end. -/
theorem entriesOf_eq (v : Value) : v.entriesOf = v.readEntries.2.map fun _ => v.readEntries.1 := by
  have hmembers : ∀ members : Answer (List Value),
      (members >>= fun xs => xs.mapM pairOf) =
        (readMembers members).2.map fun _ => (readMembers members).1 := by
    intro members
    cases members with
    | error f => rfl
    | ok xs => exact mapM_pairOf_eq xs
  cases v with
  | map kind es => rfl
  | _ => exact hmembers _

end Value

end ShaderLoom
