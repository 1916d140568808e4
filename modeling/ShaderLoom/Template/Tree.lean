import ShaderLoom.Value.Arithmetic

/-!
# The structure of templates

A template is a sequence of nodes: plain text, printed expressions and statements. Expressions are
built of constants, names, operators, attributes, items, calls, filters and tests.
-/

namespace ShaderLoom.Template

/-- The comparisons. -/
inductive Comparison where
  | relation (r : Relation)
  | within
  | notWithin
deriving DecidableEq

/-- The operators with one operand. -/
inductive UnaryOp where
  | neg
  | pos
deriving DecidableEq

/-- An expression. -/
inductive Expr where
  | constant (v : Value)
  /-- A constant that fails whenever it is asked for. -/
  | failing (f : Fault)
  /-- A name with the line that it stands on. -/
  | name (n : String) (line : Nat)
  | list (items : List Expr)
  | tuple (items : List Expr)
  | dict (entries : List (Expr × Expr))
  | unary (op : UnaryOp) (e : Expr)
  | arith (op : ArithOp) (a b : Expr)
  /-- The printed forms of the parts, joined. -/
  | concat (parts : List Expr)
  | not (e : Expr)
  | and (a b : Expr)
  | or (a b : Expr)
  /-- A chain of comparisons, each with the operand before it. -/
  | compare (first : Expr) (others : List (Comparison × Expr))
  /-- One of two values; without the second one the value may be missing. -/
  | choice (test yes : Expr) (no : Option Expr) (line : Nat)
  | attribute (e : Expr) (name : String)
  | item (e key : Expr)
  /-- The bounds and the step of a slice, in place of the key of an item. -/
  | slice (start stop step : Expr)
  /-- A call; a positional argument may be marked as a sequence of arguments, and a named one
  without a name is a map of arguments. -/
  | call (f : Expr) (args : List (Bool × Expr)) (named : List (Option String × Expr))
  | filter (e : Expr) (name : String) (args : List (Bool × Expr))
      (named : List (Option String × Expr)) (line : Nat)
  | test (e : Expr) (name : String) (args : List (Bool × Expr))
      (named : List (Option String × Expr)) (line : Nat)

instance : Inhabited Expr := ⟨.constant .null⟩

/-- What a value is assigned to. -/
inductive Target where
  /-- A name with the line that it stands on. -/
  | name (n : String) (line : Nat)
  | tuple (targets : List Target)
  /-- An attribute of a named value. -/
  | attribute (owner name : String)

instance : Inhabited Target := ⟨.tuple []⟩

/-- A filter without the value that it is applied to. -/
structure FilterCall where
  name : String
  args : List (Bool × Expr)
  named : List (Option String × Expr)
  line : Nat

/-- A part of a template. -/
inductive Node where
  | text (s : String)
  | print (e : Expr)
  /-- The body of the first test that holds, or else the last body. -/
  | branch (branches : List (Expr × List Node)) (otherwise : List Node)
  /-- The body for each member that passes the test, or else the other body. The body can ask for
  the state of the loop if `hasState` says so. -/
  | each (target : Target) (members : Expr) (test : Option Expr) (hasState : Bool)
      (body otherwise : List Node)
  | assign (target : Target) (e : Expr)
  /-- The rendered body, filtered, is assigned. -/
  | capture (target : Target) (filters : List FilterCall) (body : List Node)
  /-- The rendered body, filtered, is printed. -/
  | filtered (filters : List FilterCall) (body : List Node)
  /-- The body with local names. -/
  | scoped (bindings : List (Target × Expr)) (body : List Node)
  /-- Another template, or the first of several that is found. -/
  | snippet (template : Expr) (ignoreMissing withContext : Bool)

instance : Inhabited Node := ⟨.text ""⟩

/-- The word by which messages name the kind of an expression. -/
def Expr.kindName : Expr → String
  | .constant _ => "const"
  | .failing _ => "const"
  | .name _ _ => "name"
  | .list _ => "list"
  | .tuple _ => "tuple"
  | .dict _ => "dict"
  | .unary .neg _ => "neg"
  | .unary .pos _ => "pos"
  | .arith .add _ _ => "add"
  | .arith .sub _ _ => "sub"
  | .arith .mul _ _ => "mul"
  | .arith .div _ _ => "div"
  | .arith .floorDiv _ _ => "floordiv"
  | .arith .mod _ _ => "mod"
  | .arith .pow _ _ => "pow"
  | .concat _ => "concat"
  | .not _ => "not"
  | .and _ _ => "and"
  | .or _ _ => "or"
  | .compare _ _ => "compare"
  | .choice _ _ _ _ => "condexpr"
  | .attribute _ _ => "getattr"
  | .item _ _ => "getitem"
  | .slice _ _ _ => "slice"
  | .call _ _ _ => "call"
  | .filter _ _ _ _ _ => "filter"
  | .test _ _ _ _ _ => "test"

/-- The target that an expression is, if it is one. -/
def Expr.target? : Expr → Option Target
  | .name n line => some (.name n line)
  | .tuple items => (targets? items).map .tuple
  | .attribute (.name owner _) n => some (.attribute owner n)
  | _ => none
where
  targets? : List Expr → Option (List Target)
    | [] => some []
    | e :: es =>
      match e.target?, targets? es with
      | some t, some ts => some (t :: ts)
      | _, _ => none

end ShaderLoom.Template
