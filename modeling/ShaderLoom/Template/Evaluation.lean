import ShaderLoom.Template.Loop
import ShaderLoom.Template.Test
import ShaderLoom.Template.Constant

/-!
# Evaluating expressions

Operands are evaluated from left to right, and only those that are needed. Values that come out of
an evaluation are settled.
-/

namespace ShaderLoom.Template

/-- What does not change while a template is rendered. -/
structure Setting where
  /-- The name of the template, if it has one. -/
  name : Option String
  facts : ModuleFacts
  functions : CallableFunctions
  tester : Tester

/-- A choice without a second value, whose test failed. -/
def failedChoice (templateName : Option String) (line : Nat) : Value :=
  let place :=
    match templateName with
    | some n => s!"line {line} in {Text.quoted n}"
    | none => s!"line {line}"
  .undefined ⟨joinTexts "" ["the inline if-expression on ", place,
    " evaluated to false and no else section was defined."], true⟩

/-- The value of a name. -/
def lookupName (n : String) : Render Value := do
  return ((← currentScope).find? n).getD (unknownName n)

namespace Setting

/-- A value that is ready for an operation. -/
def use (setting : Setting) (v : Value) : Render Value := Template.use setting.tester v

/-- Whether a value counts as true. -/
def truth (setting : Setting) (v : Value) : Render Bool := do (← setting.use v).truth

/-- The printed form of a value. -/
def display (setting : Setting) (v : Value) : Render String := do (← setting.use v).display

/-- The attribute of a value. -/
def attributeAt (setting : Setting) (v : Value) (name : String) : Render Value := do
  match v with
  | .loop id _ _ => do
    match ← loopAttribute setting.tester id name with
    | some w => return w
    | none => return noAttribute v name
  | v => give (attributeOf setting.facts (← setting.use v) name)

/-- The item of a value. -/
def item (setting : Setting) (v key : Value) : Render Value := do
  match v, key with
  | .loop id _ _, .text name => setting.attributeAt (.loop id 0 0) name
  | v, key => do
    let v ← setting.use v
    give (itemOf setting.facts v (← setting.use key))

/-- Call a value with arguments. -/
def call (setting : Setting) (f : Value) (a : CallArguments) : Render Value := do
  match f with
  | .method (.map (.shared address) es) name => do
    let map ← setting.use (.map (.shared address) es)
    let outcome ← callMap map name a
    outcome.changed.forM (refill address)
    keep outcome.result
  | .method (.loop id _ _) "cycle" => do
    let v ← cycled id a.args
    keep v
  | f => give (callValue setting.functions (← setting.use f) a)

/-- The arguments that a value gives one by one. -/
def spread (setting : Setting) (v : Value) : Render (List Value) := do
  let vs ← ((← setting.use v).members : Answer (List Value))
  vs.mapM keep

/-- The named arguments that a value gives. -/
def spreadNamed (setting : Setting) (v : Value) : Render (List (String × Value)) := do
  let es ← (namedArguments (← setting.use v) : Answer (List (String × Value)))
  es.mapM fun e => do return (e.1, ← keep e.2)

/-- Arguments that are ready for a call; no name is given twice. -/
def arguments (setting : Setting) (args : List Value) (named : List (String × Value)) :
    Render CallArguments := do
  if (named.map (·.1)).eraseDups.length = named.length then
    let args ← args.mapM setting.use
    let named ← named.mapM fun e => do return (e.1, ← setting.use e.2)
    return ⟨args, named⟩
  else interrupt (.fault .unsupported)

end Setting

mutual

/-- The value of an expression. -/
def eval (setting : Setting) : Expr → Render Value
  | .constant v => keep v
  | .failing f => interrupt (.fault f)
  | .name n _ => lookupName n
  | .list es => do return .list (← evalAll setting es)
  | .tuple es => do return .tuple (← evalAll setting es)
  | .dict es => do
    let es ← evalPairs setting es
    let keys ← es.mapM fun e => setting.use e.1
    keys.forM fun k => (k.needKey : Answer Unit)
    keep (.map .plain (Entries.ofList es))
  | .unary op e => do
    let v ← eval setting e
    give (op.apply (← setting.use v))
  | .arith op a b => do
    let v ← eval setting a
    let w ← eval setting b
    let v ← setting.use v
    give (v.arith op (← setting.use w))
  | .concat es => do
    let vs ← evalAll setting es
    let texts ← vs.mapM setting.display
    return .text (joinTexts "" texts)
  | .not e => do
    let v ← eval setting e
    let b ← setting.truth v
    return .bool !b
  | .and a b => do
    let v ← eval setting a
    if ← setting.truth v then eval setting b else return v
  | .or a b => do
    let v ← eval setting a
    if ← setting.truth v then return v else eval setting b
  | .compare e es => do
    let v ← eval setting e
    evalChain setting v es
  | .choice test yes no line => do
    let v ← eval setting test
    if ← setting.truth v then eval setting yes
    else evalOption setting (failedChoice setting.name line) no
  | .attribute e n => do
    let v ← eval setting e
    setting.attributeAt v n
  | .item e (.slice a b c) => do
    let v ← eval setting e
    let start ← eval setting a
    let stop ← eval setting b
    let step ← eval setting c
    let v ← setting.use v
    give (v.slice start stop step)
  | .item e k => do
    let v ← eval setting e
    let key ← eval setting k
    setting.item v key
  | .slice _ _ _ => interrupt (.fault .unsupported)
  | .call f args named => do
    let callee ← eval setting f
    let args ← evalArgs setting args
    let named ← evalNamed setting named
    setting.call callee (← setting.arguments args named)
  | .filter e n args named _ => do
    let v ← eval setting e
    let args ← evalArgs setting args
    let named ← evalNamed setting named
    let a ← setting.arguments args named
    give (filterValue setting.facts n (← setting.use v) a)
  | .test e n args named _ => do
    let v ← eval setting e
    let args ← evalArgs setting args
    let named ← evalNamed setting named
    let a ← setting.arguments args named
    give (testValue n (← setting.use v) a)

/-- The values of expressions. -/
def evalAll (setting : Setting) : List Expr → Render (List Value)
  | [] => return []
  | e :: es => do
    let v ← eval setting e
    return v :: (← evalAll setting es)

/-- The values of keys and values. -/
def evalPairs (setting : Setting) : List (Expr × Expr) → Render Entries
  | [] => return []
  | (k, e) :: es => do
    let key ← eval setting k
    let v ← eval setting e
    return (key, v) :: (← evalPairs setting es)

/-- The values of positional arguments. -/
def evalArgs (setting : Setting) : List (Bool × Expr) → Render (List Value)
  | [] => return []
  | (isSpread, e) :: es => do
    let v ← eval setting e
    let vs ← if isSpread then setting.spread v else pure [v]
    return vs ++ (← evalArgs setting es)

/-- The values of named arguments. -/
def evalNamed (setting : Setting) : List (Option String × Expr) → Render (List (String × Value))
  | [] => return []
  | (n?, e) :: es => do
    let v ← eval setting e
    let given ←
      match n? with
      | some n => pure [(n, v)]
      | none => setting.spreadNamed v
    return given ++ (← evalNamed setting es)

/-- The value of an expression that may be left out. -/
def evalOption (setting : Setting) (default : Value) : Option Expr → Render Value
  | none => return default
  | some e => eval setting e

/-- The value of a chain of comparisons: the first one that does not hold, or the last one. -/
def evalChain (setting : Setting) (left : Value) : List (Comparison × Expr) → Render Value
  | [] => return left
  | (c, e) :: es => do
    let right ← eval setting e
    let v ← setting.use left
    let result ← give (c.apply v (← setting.use right))
    match es with
    | [] => return result
    | es => do if ← setting.truth result then evalChain setting right es else return result

end

/-- The same setting, with tests of loops evaluated that are nested up to a depth. -/
def Setting.withTests (setting : Setting) : Nat → Setting
  | 0 => { setting with tester := fun _ => interrupt (.fault .tooDeep) }
  | depth + 1 => { setting with tester := fun e => eval (setting.withTests depth) e }

end ShaderLoom.Template
