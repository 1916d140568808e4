import ShaderLoom.Number.Shortest

/-!
# Values

Options, defines, uniforms and template variables are dynamic: they are numbers, texts, lists,
tuples and maps, nested to any depth, fixed-width scalars and numeric arrays, and references to
shader modules and to functions. Template rendering adds the few values that only live inside of a
template, such as ranges, bound methods and undefined names. There a map can be changed, and whoever
holds it sees the change; such a map has an address. A value that is not equal to itself carries a
mark instead, so that it can be recognised.
-/

namespace ShaderLoom

/-- The widths of fixed-width integers. -/
inductive IntWidth where
  | int8
  | int16
  | int64
  | uint8
deriving DecidableEq

/-- The least and the greatest integer of a width. -/
def IntWidth.bounds : IntWidth → Int × Int
  | .int8 => (-128, 127)
  | .int16 => (-32768, 32767)
  | .int64 => (-9223372036854775808, 9223372036854775807)
  | .uint8 => (0, 255)

/-- The integer that a width stores for an integer: the one that agrees with it modulo the number
of patterns. -/
def IntWidth.wrap (w : IntWidth) (n : Int) : Int :=
  let (low, high) := w.bounds
  low + (n - low) % (high - low + 1)

/-- A number of a fixed width, as the cells of numeric arrays are. -/
inductive Scalar where
  /-- A float of 32 bits. -/
  | single (x : Float32)
  /-- A float of 64 bits. -/
  | double (x : Float)
  /-- An integer of a width. -/
  | integer (w : IntWidth) (n : Int)
  /-- A truth value. -/
  | truth (b : Bool)
deriving DecidableEq

/-- The types of cells that a numeric array can have. -/
inductive CellType where
  | single
  | double
  | integer (w : IntWidth)
  | truth
deriving DecidableEq

/-- The name of a type of cells. -/
def CellType.name : CellType → String
  | .single => "float32"
  | .double => "float64"
  | .integer .int8 => "int8"
  | .integer .int16 => "int16"
  | .integer .int64 => "int64"
  | .integer .uint8 => "uint8"
  | .truth => "bool"

/-- The type of a fixed-width number. -/
def Scalar.cellType : Scalar → CellType
  | .single _ => .single
  | .double _ => .double
  | .integer w _ => .integer w
  | .truth _ => .truth

/-- A rectangular array of numbers of one type, its cells in row-major order. -/
structure NumericArray where
  /-- The type of the cells. -/
  cellType : CellType
  /-- The lengths along the axes. -/
  shape : List Nat
  /-- The cells, the last axis varying fastest. -/
  cells : List Scalar
deriving DecidableEq

/-- The identity of a shader module, together with its name. -/
structure ModuleRef where
  /-- The position of the module among all modules created. -/
  id : Nat
  /-- The name of the module. -/
  name : String
deriving DecidableEq

/-- The identity of a function that was handed in. -/
structure FunctionRef where
  /-- A number that no other function has. -/
  id : Nat
deriving DecidableEq

/-- The three ways to look at a map as a sequence. -/
inductive ViewKind where
  | keys
  | values
  | items
deriving DecidableEq

/-- What can happen to a map. -/
inductive MapKind where
  /-- The map is a value like any other. -/
  | plain
  /-- The map cannot be changed and can serve as a key. -/
  | sealed
  /-- The map lives at an address, where it can be changed. -/
  | shared (address : Nat)
deriving DecidableEq

/-- A value without a definition. -/
structure Undefined where
  /-- What a message says about it. -/
  message : String
  /-- Whether it may be printed, as nothing at all. -/
  lenient : Bool
deriving DecidableEq

/-- A dynamic value. -/
inductive Value where
  /-- The absence of a value. -/
  | null
  | bool (b : Bool)
  | int (n : Int)
  | float (x : Float)
  | complex (re im : Float)
  | text (s : String)
  | list (items : List Value)
  | tuple (items : List Value)
  /-- A map in insertion order. -/
  | map (kind : MapKind) (entries : List (Value × Value))
  | scalar (s : Scalar)
  /-- A fixed-width complex number, whose parts have 64 bits each if it is wide and 32 if not. -/
  | complexScalar (isWide : Bool) (re im : Float)
  | array (a : NumericArray)
  | moduleRef (m : ModuleRef)
  | functionRef (f : FunctionRef)
  /-- A contribution of code to a shader, given by its six slots. -/
  | contribution (slots : List Value)
  /-- The integers from `start` up to or down to `stop`, which is left out. -/
  | range (start stop step : Int)
  /-- A map that is looked at as a sequence. -/
  | view (kind : ViewKind) (owner : Value)
  | method (owner : Value) (name : String)
  | undefined (u : Undefined)
  /-- The loop with the given number, with its position and its length. -/
  | loop (id index length : Nat)
  /-- A value that is not equal to itself, with a mark by which it is recognised. -/
  | singular (mark : Nat) (v : Value)

instance : Inhabited Value := ⟨.null⟩

/-- The entries of a map, in insertion order. -/
abbrev Entries := List (Value × Value)

/-- Why an operation on values has no result. -/
inductive Fault where
  /-- The operation is not supported by values of such kinds. -/
  | unsupported
  /-- The operation is not supported by cells of such types. -/
  | unsupportedCells
  /-- The value is of the right kind, but cannot be accepted. -/
  | invalid
  /-- A key is not in a map. -/
  | missingKey
  /-- The value has no such attribute. -/
  | missingAttribute
  /-- A position is outside of a sequence. -/
  | missingIndex
  /-- The result is too large. -/
  | overflow
  /-- A division by zero. -/
  | zeroDivision
  /-- The nesting is too deep. -/
  | tooDeep
  /-- A template asked for a filter or a test that does not exist. -/
  | unknownOperation
  /-- A filter was given a word that it does not know. -/
  | refusedWord
  /-- An undefined value was used. -/
  | undefinedUse (message : String)
  /-- A sealed map was to be changed. -/
  | sealedMap
  /-- A map was changed while its members were gone through. -/
  | changedMap
  /-- A constant has no spelling that could be read. -/
  | unspellable
  /-- Code cannot be made of a template although its words are in order. -/
  | illFormed
deriving DecidableEq

namespace Value

/-- Whether the value is a plain text. -/
def isText : Value → Bool
  | .text _ => true
  | _ => false

/-- The text of a plain text. -/
def text? : Value → Option String
  | .text s => some s
  | _ => none

/-- Whether the value is a truth value of either representation. -/
def isTruth : Value → Bool
  | .bool _ => true
  | .scalar (.truth _) => true
  | _ => false

/-- The name of the type of a value, as messages give it. -/
def typeName : Value → String
  | .null => "NoneType"
  | .bool _ => "bool"
  | .int _ => "int"
  | .float _ => "float"
  | .complex _ _ => "complex"
  | .text _ => "str"
  | .list _ => "list"
  | .tuple _ => "tuple"
  | .map .sealed _ => "pyshadertools.utils.ReadOnlyDict"
  | .map _ _ => "dict"
  | .scalar s => "numpy." ++ s.cellType.name
  | .complexScalar isWide _ _ => if isWide then "numpy.complex128" else "numpy.complex64"
  | .array _ => "numpy.ndarray"
  | .moduleRef _ => "pyshadertools.modules._base.ShaderModule"
  | .functionRef _ => "function"
  | .contribution _ => "pyshadertools.injection.Injection"
  | .range _ _ _ => "range"
  | .view .keys _ => "dict_keys"
  | .view .values _ => "dict_values"
  | .view .items _ => "dict_items"
  | .method .null _ => "type"
  | .method _ _ => "builtin_function_or_method"
  | .undefined _ => "jinja2.runtime.StrictUndefined"
  | .loop _ _ _ => "jinja2.runtime.LoopContext"
  | .singular _ v => v.typeName

/-- The value without its mark. -/
def bare : Value → Value
  | .singular _ v => v
  | v => v

end Value

/-- The quantity of a fixed-width number. -/
def Scalar.quantity : Scalar → Number.Quantity
  | .single x => .ofSingle x
  | .double x => .ofDouble x
  | .integer _ n => .ofInt n
  | .truth b => .ofInt b.toInt

/-- The plain value of a fixed-width number. -/
def Scalar.item : Scalar → Value
  | .single x => .float x.toFloat
  | .double x => .float x
  | .integer _ n => .int n
  | .truth b => .bool b

namespace Value

/-- The exact quantity of a real number of any representation. -/
def quantity? : Value → Option Number.Quantity
  | .bool b => some (.ofInt b.toInt)
  | .int n => some (.ofInt n)
  | .float x => some (.ofDouble x)
  | .scalar s => some s.quantity
  | .singular _ v => v.quantity?
  | _ => none

/-- Whether the value is a real number other than a truth value, and finite. -/
def isFiniteNumber : Value → Bool
  | .int _ => true
  | .float x => (Number.Quantity.ofDouble x).isFinite
  | .scalar (.truth _) => false
  | .scalar s => s.quantity.isFinite
  | _ => false

/-- Whether the value is a number other than a truth value: real, complex or of a fixed width. -/
def isNumber : Value → Bool
  | .int _ => true
  | .float _ => true
  | .complex _ _ => true
  | .scalar (.truth _) => false
  | .scalar _ => true
  | .complexScalar _ _ _ => true
  | .singular _ v => v.isNumber
  | _ => false

@[simp] theorem isFiniteNumber_int (n : Int) : (Value.int n).isFiniteNumber = true := rfl

@[simp] theorem isFiniteNumber_bool (b : Bool) : (Value.bool b).isFiniteNumber = false := rfl

theorem isNumber_of_isFiniteNumber {v : Value} (h : v.isFiniteNumber = true) :
    v.isNumber = true := by
  cases v with
  | scalar s => cases s <;> simp_all [isFiniteNumber, isNumber]
  | _ => simp_all [isFiniteNumber, isNumber]

end Value

end ShaderLoom
