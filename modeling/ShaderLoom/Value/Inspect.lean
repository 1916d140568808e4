import ShaderLoom.Value.ArrayText
import ShaderLoom.Text.Quoted

/-!
# Showing values

`Value.display` is the text that a value is printed as, and `Value.inspect` the text that messages
and the members of lists show: texts are quoted there, and fixed-width numbers name their type.
-/

namespace ShaderLoom

open Number

namespace Value

/-- Drop the fraction of a float's text if it is zero. -/
def withoutPointZero (s : String) : String :=
  match s.toList.reverse with
  | '0' :: '.' :: rest => String.ofList rest.reverse
  | _ => s

/-- The text of a complex number; a real part of positive zero is left out. -/
def complexText (re im : Float) : String :=
  let imText := withoutPointZero (doubleText im)
  if (Quantity.ofDouble re).isZero && !isNegativeDouble re then imText ++ "j"
  else
    let mark := if imText.startsWith "-" then "" else "+"
    joinTexts "" ["(", withoutPointZero (doubleText re), mark, imText, "j)"]

/-- The text of a truth value. -/
def truthText (b : Bool) : String := if b then "True" else "False"

/-- The text that a fixed-width number is printed as. -/
def scalarText : Scalar → String
  | .single x => singleText x
  | .double x => doubleText x
  | .integer _ n => intText n
  | .truth b => truthText b

/-- The text of a fixed-width complex number. -/
def complexScalarText (isWide : Bool) (re im : Float) : String :=
  if isWide then complexText re im
  else
    let partText (x : Float) := withoutPointZero (singleText x.toFloat32)
    let imText := partText im
    if (Quantity.ofDouble re).isZero && !isNegativeDouble re then imText ++ "j"
    else
      let mark := if imText.startsWith "-" then "" else "+"
      joinTexts "" ["(", partText re, mark, imText, "j)"]

/-- A text between parentheses, which it may already have. -/
def parenthesised (s : String) : String :=
  if s.startsWith "(" then s else joinTexts "" ["(", s, ")"]

/-- The text of a fixed-width number with its type. -/
def scalarInspect : Scalar → String
  | .truth b => joinTexts "" ["np.", truthText b, "_"]
  | s => joinTexts "" ["np.", s.cellType.name, "(", scalarText s, ")"]

/-- The name of a view of a map. -/
def viewName : ViewKind → String
  | .keys => "dict_keys"
  | .values => "dict_values"
  | .items => "dict_items"

/-- The text of a range. -/
def rangeText (start stop step : Int) : String :=
  let ends := [intText start, intText stop] ++ if step = 1 then [] else [intText step]
  joinTexts "" ["range(", joinTexts ", " ends, ")"]

/-- The text of a sequence of member texts as a tuple; one member is followed by a comma. -/
def tupleText : List String → String
  | [one] => joinTexts "" ["(", one, ",)"]
  | parts => joinTexts "" ["(", joinTexts ", " parts, ")"]

mutual

/-- The text that messages show for a value. -/
def inspect : Value → String
  | .null => "None"
  | .bool b => truthText b
  | .int n => intText n
  | .float x => doubleText x
  | .complex re im => complexText re im
  | .text s => Text.quoted s
  | .list xs => joinTexts "" ["[", joinTexts ", " (inspectAll xs), "]"]
  | .tuple xs => tupleText (inspectAll xs)
  | .map _ es => joinTexts "" ["\x7b", joinTexts ", " (inspectEntries es), "\x7d"]
  | .scalar s => scalarInspect s
  | .complexScalar isWide re im =>
    joinTexts "" ["np.", if isWide then "complex128" else "complex64",
      parenthesised (complexScalarText isWide re im)]
  | .array a => a.inspect
  | .moduleRef m => joinTexts "" ["<ShaderModule ", Text.quoted m.name, " at 0xADDR>"]
  | .functionRef _ => "<function at 0xADDR>"
  | .contribution xs =>
    match inspectAll xs with
    | [_, _, _, key, _, order] => joinTexts "" ["<Injection ", key, " order=", order, ">"]
    | parts => joinTexts "" ["<Injection ", tupleText parts, ">"]
  | .range a b c => rangeText a b c
  | .view k (.map _ es) =>
    joinTexts "" [viewName k, "([", joinTexts ", " (inspectMembers k es), "])"]
  | .view k _ => joinTexts "" [viewName k, "([])"]
  | .method .null name => joinTexts "" ["<class '", name, "'>"]
  | .method owner name =>
    joinTexts "" ["<built-in method ", name, " of ", owner.typeName, " object at 0xADDR>"]
  | .undefined _ => "Undefined"
  | .loop _ i n => joinTexts "" ["<LoopContext ", intText i, "/", intText n, ">"]
  | .singular _ v => inspect v

/-- The texts that messages show for the members of a sequence. -/
def inspectAll : List Value → List String
  | [] => []
  | x :: xs => inspect x :: inspectAll xs

/-- The texts that messages show for the entries of a map. -/
def inspectEntries : List (Value × Value) → List String
  | [] => []
  | (k, v) :: rest => joinTexts ": " [inspect k, inspect v] :: inspectEntries rest

/-- The texts that messages show for the members of a map that is looked at as a sequence. -/
def inspectMembers (kind : ViewKind) : List (Value × Value) → List String
  | [] => []
  | (k, v) :: rest =>
    (match kind with
      | .keys => inspect k
      | .values => inspect v
      | .items => joinTexts "" ["(", inspect k, ", ", inspect v, ")"]) ::
        inspectMembers kind rest

end

/-- The most digits that a printed integer may have. -/
def maxPrintedDigits : Nat := 4300

/-- Whether an integer is not too long to be printed. -/
def isPrintableInt (n : Int) : Bool :=
  n.natAbs.log2 < 3 * maxPrintedDigits || n.natAbs < Nat.pow 10 maxPrintedDigits

mutual

/-- Whether all integers in a value are not too long to be printed. -/
def isPrintable : Value → Bool
  | .int n => isPrintableInt n
  | .list xs => allPrintable xs
  | .tuple xs => allPrintable xs
  | .contribution xs => allPrintable xs
  | .map _ es => entriesPrintable es
  | .view _ owner => isPrintable owner
  | .range a b c => isPrintableInt a && isPrintableInt b && isPrintableInt c
  | .singular _ v => isPrintable v
  | _ => true

/-- Whether all integers in a sequence are not too long to be printed. -/
def allPrintable : List Value → Bool
  | [] => true
  | x :: xs => isPrintable x && allPrintable xs

/-- Whether all integers in the entries of a map are not too long to be printed. -/
def entriesPrintable : List (Value × Value) → Bool
  | [] => true
  | (k, v) :: rest => isPrintable k && isPrintable v && entriesPrintable rest

end

/-- The text of an integer that is not too long to be printed. -/
def printedInt (n : Int) : Answer String :=
  if isPrintableInt n then .ok (intText n) else .error .invalid

/-- The text that messages show for a value, if no integer in it is too long. -/
def inspected (v : Value) : Answer String :=
  if v.isPrintable then .ok v.inspect else .error .invalid

/-- The text that a value is printed as. An undefined value cannot be printed unless it is
lenient. -/
def display : Value → Answer String
  | .text s => .ok s
  | .int n => printedInt n
  | .scalar s => .ok (scalarText s)
  | .complexScalar isWide re im => .ok (complexScalarText isWide re im)
  | .array a =>
    match a.shape, a.cells with
    | [], [s] => .ok (scalarText s)
    | _, _ => .ok a.rowsText
  | .undefined u => if u.lenient then .ok "" else .error (.undefinedUse u.message)
  | .singular _ v => v.display
  | v => v.inspected

/-- The text that a value is printed as within a message: fixed-width numbers are printed as plain
ones there. -/
def embedded : Value → Answer String
  | .scalar s => s.item.display
  | .array a =>
    match a.shape, a.cells with
    | [], [s] => s.item.display
    | _, _ => (Value.array a).display
  | v => v.display

@[simp] theorem display_text (s : String) : (Value.text s).display = .ok s := rfl

end Value

end ShaderLoom
