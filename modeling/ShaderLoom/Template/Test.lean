import ShaderLoom.Template.Filter

/-!
# Tests

A test answers a question about a value. The answer is a truth value, except that a comparison of
arrays is answered cell by cell.
-/

namespace ShaderLoom.Template

/-- Compare two values. -/
def Comparison.apply (c : Comparison) (v w : Value) : Answer Value :=
  match c with
  | .relation r => v.relate r w
  | .within => (w.holds v).map .bool
  | .notWithin => (w.holds v).map fun b => .bool !b

/-- Whether the remainder of a division by a number is a given one. -/
def remainderIs (v divisor : Value) (n : Int) : Answer Value := do
  (← v.arith .mod divisor).relate .eq (.int n)

/-- Whether a text has letters, and all of them in one case. -/
def isCased (map : List Char → List Char) (v : Value) : Answer Bool := do
  let cs ← printedChars v
  .ok (map cs == cs && (Text.upper cs != cs || Text.lower cs != cs))

/-- Whether the value has members at positions or under keys, and a length. -/
def isSequence : Value → Bool
  | .undefined u => u.lenient
  | .view _ _ => false
  | .loop _ _ _ => false
  | v => v.length.isOk

/-- Whether the value has members. -/
def isIterable : Value → Answer Bool
  | .undefined u => if u.lenient then .ok true else .error (.undefinedUse u.message)
  | .range _ _ _ => .ok true
  | .loop _ _ _ => .ok true
  | v => .ok v.members.isOk

/-- Whether the value can be called. -/
def isCallable : Value → Bool
  | .method _ _ => true
  | .functionRef _ => true
  | .undefined _ => true
  | _ => false

/-- The tests without parameters that look at the kind of a value. -/
def kindTests : List (String × (Value → Bool)) :=
  [("defined", fun v => !v.isUndefined), ("undefined", Value.isUndefined),
    ("none", fun | .null => true | _ => false), ("boolean", fun | .bool _ => true | _ => false),
    ("true", fun | .bool b => b | _ => false), ("false", fun | .bool b => !b | _ => false),
    ("integer", fun | .int _ => true | _ => false),
    ("float", fun v => match v.bare with
      | .float _ => true
      | .scalar (.double _) => true
      | _ => false),
    ("number", fun v => match v with | .bool _ => true | v => v.isNumber),
    ("string", Value.isText), ("mapping", fun | .map _ _ => true | _ => false),
    ("sequence", isSequence), ("callable", isCallable),
    ("filter", fun | .text s => isFilter s | _ => false)]

/-- The names of the other tests with their parameters. -/
def testParameters : List (String × List (String × Option Value)) :=
  [("iterable", []), ("odd", []), ("even", []), ("upper", []), ("lower", []),
    ("divisibleby", [("num", none)]), ("in", [("seq", none)])]

/-- The tests that compare a value with another one. -/
def comparisonTests : List (String × Relation) :=
  [("eq", .eq), ("equalto", .eq), ("ne", .ne), ("lt", .lt), ("lessthan", .lt), ("le", .le),
    ("gt", .gt), ("greaterthan", .gt), ("ge", .ge)]

/-- Whether there is a test with a name. -/
def isTest (name : String) : Bool :=
  (kindTests.lookup name).isSome || (testParameters.lookup name).isSome ||
    (comparisonTests.lookup name).isSome

/-- Answer a test about a value and the values of its parameters. -/
def applyTest (name : String) (v : Value) (ps : List Value) : Answer Value :=
  match name, ps with
  | "iterable", _ => (isIterable v).map .bool
  | "odd", _ => remainderIs v (.int 2) 1
  | "even", _ => remainderIs v (.int 2) 0
  | "upper", _ => (isCased Text.upper v).map .bool
  | "lower", _ => (isCased Text.lower v).map .bool
  | "divisibleby", [n] => remainderIs v n 0
  | "in", [w] => Comparison.within.apply v w
  | _, _ => .error .unsupported

/-- Answer a test by its name about a value and arguments. -/
def testValue (name : String) (v : Value) (a : CallArguments) : Answer Value :=
  match kindTests.lookup name with
  | some p => do
    let _ ← a.bind []
    .ok (.bool (p v))
  | none =>
    match comparisonTests.lookup name with
    | some r =>
      match a.named, a.args with
      | [], [w] => v.relate r w
      | _, _ => .error .unsupported
    | none =>
      match testParameters.lookup name with
      | some parameters => do applyTest name v (← a.bind parameters)
      | none => unknownOperation a

end ShaderLoom.Template
