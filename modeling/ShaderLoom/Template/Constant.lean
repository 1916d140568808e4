import ShaderLoom.Template.Test

/-!
# Constant expressions

An expression without names and calls has its value before a template is rendered. Not every such
expression has one: most operations that fail are left for the rendering, where they may never be
reached, while a failure to put a sequence, a map, a text or a decision together is a failure of the
template itself.
-/

namespace ShaderLoom.Template

/-- Why an expression has no constant value. -/
inductive NotConstant where
  /-- The expression has to be evaluated when the template is rendered. -/
  | delayed
  /-- The expression fails. -/
  | failed (f : Fault)

/-- A constant value, if there is one. -/
abbrev Constant := Except NotConstant

/-- An operation whose failure is a failure of the template. -/
def firmly {α : Type} : Answer α → Constant α
  | .ok a => .ok a
  | .error f => .error (.failed f)

/-- An operation whose failure is left for the rendering. -/
def gently {α : Type} : Answer α → Constant α
  | .ok a => .ok a
  | .error _ => .error .delayed

/-- A constant value whose failure is left for the rendering. -/
def Constant.gentle {α : Type} : Constant α → Constant α
  | .ok a => .ok a
  | .error _ => .error .delayed

/-- An operand with a sign. -/
def UnaryOp.apply (op : UnaryOp) (v : Value) : Answer Value :=
  match op with
  | .neg => v.negate
  | .pos => v.plus

/-- The entries of a map that is written down; later ones win. -/
def writtenEntries (es : Entries) : Answer Entries := do
  es.forM fun e => e.1.needKey
  .ok (Entries.ofList es)

/-- The map that is given as a map of named arguments. -/
def namedArguments (v : Value) : Answer (List (String × Value)) :=
  match v with
  | .map _ es => es.mapM fun e => do .ok (← needText e.1, e.2)
  | _ => .error .unsupported

/-- Put a named argument in place of an earlier one of the same name. -/
def putNamed (all : List (String × Value)) (e : String × Value) : List (String × Value) :=
  if all.any (·.1 = e.1) then all.map fun old => if old.1 = e.1 then e else old else all ++ [e]

mutual

/-- The constant value of an expression. -/
def Expr.constant? : Expr → Constant Value
  | .constant v => .ok v
  | .failing _ => .error .delayed
  | .name _ _ => .error .delayed
  | .list es => do .ok (.list (← constantAll es))
  | .tuple es => do .ok (.tuple (← constantAll es))
  | .dict es => do .ok (.map .plain (← firmly (writtenEntries (← constantPairs es))))
  | .unary op e => do gently (op.apply (← e.constant?.gentle))
  | .arith op a b => do
    let v ← a.constant?.gentle
    gently (v.arith op (← b.constant?.gentle))
  | .concat es => do .ok (.text (joinTexts "" (← constantTexts es)))
  | .not e => do
    let v ← e.constant?.gentle
    gently (v.truth.map fun b => .bool !b)
  | .and a b => do
    let v ← a.constant?
    if ← firmly v.truth then b.constant? else .ok v
  | .or a b => do
    let v ← a.constant?
    if ← firmly v.truth then .ok v else b.constant?
  | .compare e es => do
    let v ← e.constant?
    (constantChain v es).gentle
  | .choice test yes no _ => do
    let v ← test.constant?
    if ← firmly v.truth then yes.constant? else constantOption no
  | .attribute e n => do gently (attributeOf .nameOnly (← e.constant?.gentle) n)
  | .item e (.slice a b c) => do
    let v ← e.constant?.gentle
    let start ← a.constant?.gentle
    let stop ← b.constant?.gentle
    gently (sliceOrUndefined v start stop (← c.constant?.gentle))
  | .item e k => do
    let v ← e.constant?.gentle
    gently (itemOf .nameOnly v (← k.constant?.gentle))
  | .slice _ _ _ => .error .delayed
  | .call _ _ _ => .error .delayed
  | .filter e n args named _ => do
    if !isFilter n then .error .delayed
    else
      let args ← constantArgs args
      let named ← constantNamed named []
      gently (filterValue .nameOnly n (← e.constant?) ⟨args, named⟩)
  | .test e n args named _ => do
    if !isTest n then .error .delayed
    else
      let args ← constantArgs args
      let named ← constantNamed named []
      gently (testValue n (← e.constant?) ⟨args, named⟩)

/-- The constant values of expressions. -/
def constantAll : List Expr → Constant (List Value)
  | [] => .ok []
  | e :: es => do
    let v ← e.constant?
    .ok (v :: (← constantAll es))

/-- The constant values of keys and values. -/
def constantPairs : List (Expr × Expr) → Constant Entries
  | [] => .ok []
  | (k, e) :: es => do
    let key ← k.constant?
    let v ← e.constant?
    .ok ((key, v) :: (← constantPairs es))

/-- The printed forms of the constant values of expressions. -/
def constantTexts : List Expr → Constant (List String)
  | [] => .ok []
  | e :: es => do
    let s ← firmly (← e.constant?).display
    .ok (s :: (← constantTexts es))

/-- The constant value of a chain of comparisons. -/
def constantChain (left : Value) : List (Comparison × Expr) → Constant Value
  | [] => .ok left
  | (c, e) :: rest => do
    let right ← e.constant?
    let result ← gently (c.apply left right)
    if ← gently result.truth then
      match rest with
      | [] => .ok result
      | rest => constantChain right rest
    else .ok (.bool false)

/-- The constant value of an expression that may be left out. -/
def constantOption : Option Expr → Constant Value
  | none => .error .delayed
  | some e => e.constant?

/-- The constant values of positional arguments. -/
def constantArgs : List (Bool × Expr) → Constant (List Value)
  | [] => .ok []
  | (isSpread, e) :: rest => do
    let vs ← if isSpread then do gently (← e.constant?.gentle).members else do .ok [← e.constant?]
    .ok (vs ++ (← constantArgs rest))

/-- The constant values of named arguments; later ones win. -/
def constantNamed :
    List (Option String × Expr) → List (String × Value) → Constant (List (String × Value))
  | [], all => .ok all
  | (some n, e) :: rest, all => do constantNamed rest (putNamed all (n, ← e.constant?))
  | (none, e) :: rest, all => do
    let given ← gently (namedArguments (← e.constant?.gentle))
    constantNamed rest (given.foldl putNamed all)

end

mutual

/-- Whether a constant value can stand in an expression: it is made of plain numbers, texts, ranges,
sequences and maps. -/
def isWritable : Value → Bool
  | .null => true
  | .bool _ => true
  | .int _ => true
  | .float _ => true
  | .complex _ _ => true
  | .text _ => true
  | .range _ _ _ => true
  | .list xs => allWritable xs
  | .tuple xs => allWritable xs
  | .map .plain es => entriesWritable es
  | _ => false

/-- Whether constant values can stand in an expression. -/
def allWritable : List Value → Bool
  | [] => true
  | x :: xs => isWritable x && allWritable xs

/-- Whether constant entries can stand in an expression. -/
def entriesWritable : List (Value × Value) → Bool
  | [] => true
  | (k, v) :: es => isWritable k && isWritable v && entriesWritable es

end

theorem constant?_name (n : String) (line : Nat) :
    (Expr.name n line).constant? = .error .delayed := by
  simp [Expr.constant?]

end ShaderLoom.Template
