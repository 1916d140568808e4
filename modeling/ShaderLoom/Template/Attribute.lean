import ShaderLoom.Template.Tree
import ShaderLoom.Value.Access
import ShaderLoom.Value.Arrays

/-!
# Attributes and items

An attribute is looked up among what a value has by its kind first and among its items then, an item
the other way round. What is found nowhere is undefined, and its message says what was looked for.
-/

namespace ShaderLoom.Template

open Number

/-- What shader modules say about themselves under a name. -/
abbrev ModuleFacts := ModuleRef → String → Option Value

/-- Modules that only say their names. -/
def ModuleFacts.nameOnly : ModuleFacts := fun m n =>
  if n = "name" then some (.text m.name) else none

/-! ## Undefined values -/

/-- How messages name the type of a value. -/
def typePhrase : Value → String
  | .null => "None"
  | v => v.typeName ++ " object"

/-- The undefined value for an item that was not found, where the key has a text. -/
def noElement (owner : Value) (key : String) : Value :=
  .undefined ⟨joinTexts "" [typePhrase owner, " has no element ", key], false⟩

/-- The undefined value for an attribute that was not found. -/
def noAttribute (owner : Value) (name : String) : Value :=
  .undefined ⟨joinTexts "" [Text.quoted (typePhrase owner), " has no attribute ", Text.quoted name],
    false⟩

/-- The undefined value for an item or an attribute that was not found. -/
def notFound (owner key : Value) : Value :=
  match key with
  | .text s => noAttribute owner s
  | k => noElement owner k.inspect

/-- The undefined value for a name that was not found. -/
def unknownName (n : String) : Value := .undefined ⟨s!"{Text.quoted n} is undefined", false⟩

/-! ## Attributes by kind -/

/-- The methods of texts. -/
def textMethods : List String :=
  ["upper", "lower", "capitalize", "strip", "lstrip", "rstrip", "replace", "split", "join",
    "startswith", "endswith", "find", "count", "isdigit"]

/-- The methods of maps. -/
def mapMethods : List String :=
  ["items", "keys", "values", "get", "pop", "copy", "update", "clear", "setdefault", "popitem"]

/-- The methods of lists. -/
def listMethods : List String := ["index", "count", "copy"]

/-- The slots of a contribution, in their sequence. -/
def contributionSlots : List String := ["kind", "stage", "name", "key", "content", "order"]

/-- The number that an integer is under a name. -/
def integerPart? (n : Int) (name : String) : Option Value :=
  if name = "real" || name = "numerator" then some (.int n)
  else if name = "imag" then some (.int 0)
  else if name = "denominator" then some (.int 1)
  else none

/-- The cell of a type that stands for zero. -/
def zeroCell : CellType → Scalar
  | .single => .single 0
  | .double => .double 0
  | .integer w => .integer w 0
  | .truth => .truth false

/-- What an array says about its cells under a name. -/
def layoutPart? (a : NumericArray) (name : String) : Option Value :=
  match name with
  | "shape" => some (.tuple (a.shape.map fun n : Nat => .int n))
  | "ndim" => some (.int a.shape.length)
  | "size" => some (.int a.cells.length)
  | "itemsize" => some (.int a.cellType.byteSize)
  | "nbytes" => some (.int (a.cells.length * a.cellType.byteSize))
  | "dtype" => some (.text a.cellType.name)
  | _ => none

/-- What an array has under a name. -/
def arrayPart? (a : NumericArray) (name : String) : Option Value :=
  match name with
  | "real" => some (.array a)
  | "imag" => some (.array { a with cells := a.cells.map fun _ => zeroCell a.cellType })
  | "T" => some (.array a.transposed)
  | name => layoutPart? a name

/-- What a fixed-width number has under a name. -/
def scalarPart? (s : Scalar) (name : String) : Option Value :=
  match name with
  | "real" | "T" => some (.scalar s)
  | "imag" => some (.scalar (zeroCell s.cellType))
  | name => layoutPart? (.ofScalar s) name

/-- What a complex number has under a name. -/
def complexPart? (re im : Value) (name : String) : Option Value :=
  if name = "real" then some re else if name = "imag" then some im else none

/-- A part of a fixed-width complex number. -/
def partOfComplex (isWide : Bool) (x : Float) : Value :=
  .scalar (if isWide then .double x else .single x.toFloat32)

/-- What a value has under a name by its kind. -/
def ownAttribute? (facts : ModuleFacts) (v : Value) (name : String) : Answer (Option Value) :=
  let methodOf (names : List String) : Answer (Option Value) :=
    .ok (if names.contains name then some (.method v name) else none)
  match v with
  | .text _ => methodOf textMethods
  | .map _ _ => methodOf mapMethods
  | .list _ => methodOf listMethods
  | .tuple _ => methodOf ["index", "count"]
  | .range start stop step =>
    .ok (match name with
      | "start" => some (.int start)
      | "stop" => some (.int stop)
      | "step" => some (.int step)
      | _ => none)
  | .bool b => .ok (integerPart? b.toInt name)
  | .int n => .ok (integerPart? n name)
  | .float x => .ok (complexPart? (.float x) (.float 0) name)
  | .complex re im => .ok (complexPart? (.float re) (.float im) name)
  | .scalar s => .ok (scalarPart? s name)
  | .complexScalar isWide re im =>
    .ok (complexPart? (partOfComplex isWide re) (partOfComplex isWide im) name)
  | .array a => .ok (arrayPart? a name)
  | .contribution slots => .ok ((contributionSlots.idxOf? name).bind fun i => slots[i]?)
  | .moduleRef m => .ok (facts m name)
  | .undefined u => .error (.undefinedUse u.message)
  | .singular _ v => ownAttribute? facts v name
  | _ => .ok none

/-! ## Look-ups -/

/-- The item of a value, if it has one. -/
def ownItem? (v key : Value) : Answer (Option Value) :=
  match v.item key with
  | .ok w => .ok (some w)
  | .error (.undefinedUse m) => .error (.undefinedUse m)
  | .error _ => .ok none

/-- The attribute of a value, or else its item under the name. -/
def attributeOf (facts : ModuleFacts) (v : Value) (name : String) : Answer Value := do
  match ← ownAttribute? facts v name with
  | some w => .ok w
  | none => .ok ((← ownItem? v (.text name)).getD (noAttribute v name))

/-- The item of a value, or else its attribute. -/
def itemOf (facts : ModuleFacts) (v key : Value) : Answer Value := do
  match ← ownItem? v key with
  | some w => .ok w
  | none =>
    match key with
    | .text name => .ok ((← ownAttribute? facts v name).getD (noAttribute v name))
    | _ => .ok (notFound v key)

/-- The part of a value that a slice selects where nothing but an undefined value stands for a part
that is not there. -/
def sliceOrUndefined (v start stop step : Value) : Answer Value :=
  match v.slice start stop step with
  | .error .unsupported | .error .missingIndex =>
    let parts := joinTexts ", " [start.inspect, stop.inspect, step.inspect]
    .ok (noElement v (joinTexts "" ["slice(", parts, ")"]))
  | r => r

end ShaderLoom.Template
