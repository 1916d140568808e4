import ShaderLoom.Template.Method
import ShaderLoom.Template.Rounding
import ShaderLoom.Value.Sorting

/-!
# Filters

A filter turns a value into another one. It has parameters with defaults. Filters on texts take the
printed form of whatever they are given; filters on sequences can look at an attribute of each
member, which is given by a path.
-/

namespace ShaderLoom.Template

open Number

/-! ## Paths -/

/-- A path of attributes and positions. -/
abbrev Path := List Value

/-- A part of a path: a position if it is made of digits, and a name if not. -/
def pathPart (cs : List Char) : Answer Value :=
  if cs ≠ [] && cs.all Text.isDigitLike then
    match readInt? cs with
    | some n => .ok (.int n)
    | none => .error .invalid
  else .ok (charsValue cs)

/-- The path that a value stands for: the parts of a text between dots, and no parts at all for the
absent value. -/
def Path.ofValue : Value → Answer Path
  | .null => .ok []
  | .text s => (Text.splitOn '.' s.toList).mapM pathPart
  | k => .ok [k]

/-- The paths that a value stands for: a text can hold several, separated by commas. -/
def Path.several : Value → Answer (List Path)
  | .text s => (Text.splitOn ',' s.toList).mapM fun cs => Path.ofValue (charsValue cs)
  | k => do .ok [← Path.ofValue k]

/-- What a path leads to. -/
def Path.follow (facts : ModuleFacts) (path : Path) (v : Value) : Answer Value :=
  path.foldlM (itemOf facts) v

/-! ## Sequences -/

/-- What a value is compared by: a text without regard to case unless case counts. -/
def caseKey (caseCounts : Bool) (v : Value) : Value :=
  match v with
  | .text s => if caseCounts then v else charsValue (Text.lower s.toList)
  | v => v

/-- Whether an argument asks for a falling sequence: an integer other than zero does. -/
def isFalling (v : Value) : Answer Bool :=
  match v.index? with
  | some n => if n.natAbs < Nat.pow 2 31 then .ok (n ≠ 0) else .error .overflow
  | none => .error .unsupported

/-- Sort the members of a value by what paths lead to. Members that are alike keep their
sequence. -/
def sortFilter (facts : ModuleFacts) (v falling caseSensitive place : Value) : Answer Value := do
  let caseCounts ← caseSensitive.truth
  let paths ← Path.several place
  let xs ← v.members
  let falls ← isFalling falling
  let keyed ← xs.mapM fun x => do
    let keys ← paths.mapM fun p => do .ok (caseKey caseCounts (← p.follow facts x))
    .ok (Value.list keys, x)
  let sorted ← sortByValue (·.1) (if falls then keyed.reverse else keyed)
  let result := sorted.map (·.2)
  .ok (.list (if falls then result.reverse else result))

/-- The extreme member of a sequence, the first one if several are extreme. -/
def extremeFilter (facts : ModuleFacts) (isBetter : Relation) (v caseSensitive place : Value) :
    Answer Value := do
  match ← v.members with
  | [] => .ok (.undefined ⟨"No aggregated item, sequence was empty.", false⟩)
  | x :: xs => do
    let caseCounts ← caseSensitive.truth
    let path ← Path.ofValue place
    let key (x : Value) : Answer Value := do .ok (caseKey caseCounts (← path.follow facts x))
    let best ← xs.foldlM (fun (best : Value × Value) x => do
      let k ← key x
      if ← (← k.relate isBetter best.1).truth then .ok (k, x) else .ok best) (← key x, x)
    .ok best.2

/-- Join the printed forms of the members of a value. -/
def joinFilter (facts : ModuleFacts) (v separator place : Value) : Answer Value := do
  match place with
  | .null => do
    let sep ← separator.display
    .ok (.text (joinTexts sep (← (← v.members).mapM Value.display)))
  | place => do
    let path ← Path.ofValue place
    let xs ← v.members
    let sep ← separator.display
    .ok (.text (joinTexts sep (← xs.mapM fun x => do (← path.follow facts x).display)))

/-- Add the members of a value up. -/
def sumFilter (facts : ModuleFacts) (v place start : Value) : Answer Value := do
  let path ← Path.ofValue place
  let xs ← v.members
  if start.isText then .error .unsupported
  else xs.foldlM (fun total x => do total.add (← path.follow facts x)) start

/-! ## Texts -/

/-- The characters of the printed form of a value. -/
def printedChars (v : Value) : Answer (List Char) := v.display.map (·.toList)

/-- Replace a text in the printed form of a value, at most as often as a count says. -/
def replaceFilter (v old new count : Value) : Answer Value := do
  let cs ← printedChars v
  let target ← printedChars old
  let substitute ← printedChars new
  let limit ←
    match count with
    | .null => (.ok (cs.length + 1) : Answer Nat)
    | c => limitOf c cs
  .ok (charsValue (Text.replaceUpTo limit target substitute cs))

/-- The default for an undefined value, and for one that counts as false if this is asked for. -/
def defaultFilter (v default replacesFalse : Value) : Answer Value :=
  match v with
  | .undefined _ => .ok default
  | v => do if ← replacesFalse.truth then v.orElse default else .ok v

/-! ## All filters -/

/-- The parameters of each filter, with their defaults. -/
def filterParameters : List (String × List (String × Option Value)) :=
  let collection : List (String × Option Value) :=
    [("case_sensitive", some (.bool false)), ("attribute", some .null)]
  let default : List (String × Option Value) :=
    [("default_value", some (.text "")), ("boolean", some (.bool false))]
  [("upper", []), ("lower", []), ("capitalize", []), ("string", []), ("length", []), ("count", []),
    ("abs", []), ("list", []), ("first", []), ("last", []), ("reverse", []),
    ("trim", [("chars", some .null)]),
    ("join", [("d", some (.text "")), ("attribute", some .null)]),
    ("replace", [("old", none), ("new", none), ("count", some .null)]),
    ("int", [("default", some (.int 0)), ("base", some (.int 10))]),
    ("float", [("default", some (.float 0))]),
    ("round", [("precision", some (.int 0)), ("method", some (.text "common"))]),
    ("sort", ("reverse", some (.bool false)) :: collection),
    ("min", collection), ("max", collection),
    ("sum", [("attribute", some .null), ("start", some (.int 0))]),
    ("default", default), ("d", default)]

/-- Whether there is a filter with a name. -/
def isFilter (name : String) : Bool := (filterParameters.lookup name).isSome

/-- Apply a filter to a value and the values of its parameters. -/
def applyFilter (facts : ModuleFacts) (name : String) (v : Value) (ps : List Value) :
    Answer Value :=
  match name, ps with
  | "upper", _ => do .ok (charsValue (Text.upper (← printedChars v)))
  | "lower", _ => do .ok (charsValue (Text.lower (← printedChars v)))
  | "capitalize", _ => do .ok (charsValue (capitalized (← printedChars v)))
  | "string", _ => do .ok (charsValue (← printedChars v))
  | "length", _ => v.length.map fun n : Nat => .int n
  | "count", _ => v.length.map fun n : Nat => .int n
  | "abs", _ => v.absolute
  | "list", _ => v.members.map .list
  | "first", _ => do
    .ok ((← v.members).headD (.undefined ⟨"No first item, sequence was empty.", false⟩))
  | "last", _ => do
    .ok ((← v.members).getLast?.getD (.undefined ⟨"No last item, sequence was empty.", false⟩))
  | "reverse", _ =>
    match v with
    | .text s => .ok (charsValue s.toList.reverse)
    | v => do .ok (.list (← v.members).reverse)
  | "trim", [chars] => do
    let cs ← printedChars v
    .ok (charsValue (trimBy (← trimTest chars) true true cs))
  | "join", [separator, place] => joinFilter facts v separator place
  | "replace", [old, new, count] => replaceFilter v old new count
  | "int", [default, base] => intFilter v default base
  | "float", [default] => floatFilter v default
  | "round", [precision, method] => roundFilter v precision method
  | "sort", [falling, caseSensitive, place] => sortFilter facts v falling caseSensitive place
  | "min", [caseSensitive, place] => extremeFilter facts .lt v caseSensitive place
  | "max", [caseSensitive, place] => extremeFilter facts .gt v caseSensitive place
  | "sum", [place, start] => sumFilter facts v place start
  | "default", [default, replacesFalse] => defaultFilter v default replacesFalse
  | "d", [default, replacesFalse] => defaultFilter v default replacesFalse
  | _, _ => .error .unsupported

/-- What comes of a filter or a test that does not exist; it knows no named arguments. -/
def unknownOperation {α : Type} (a : CallArguments) : Answer α :=
  if a.named.isEmpty then .error .unknownOperation else .error .unsupported

/-- Apply a filter by its name to a value and arguments. -/
def filterValue (facts : ModuleFacts) (name : String) (v : Value) (a : CallArguments) :
    Answer Value :=
  match filterParameters.lookup name with
  | none => unknownOperation a
  | some parameters => do applyFilter facts name v (← a.bind parameters)

end ShaderLoom.Template
