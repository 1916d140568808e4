import ShaderLoom.Template.Constant
import ShaderLoom.Template.Naming
import ShaderLoom.Template.Depth
import ShaderLoom.Template.Fault

/-!
# Preparing templates

Before a template is rendered, the constants in it are worked out, and the filters and tests that it
asks for are looked up, except where a condition may guard them. A constant that cannot be worked
out is left for the rendering. A constant has to have a spelling: numbers without one fail as soon
as they are needed, and integers may only have so many digits. Expressions may only be so deep.
-/

namespace ShaderLoom.Template

/-- Preparation of a template. The flag says whether its words are in order and code can be made of
it; if not, this is only found at the end. -/
abbrev Prepare := StateT Bool (Except RenderFault)

/-- Note that no code can be made of the template. -/
def refuse : Prepare Unit := set false

/-! ## Folding -/

/-- The constant that an expression can be replaced by, if there is one. -/
def Expr.writable? (e : Expr) : Except RenderFault (Option Value) :=
  match e.constant? with
  | .ok v => .ok (if isWritable v then some v else none)
  | .error .delayed => .ok none
  | .error (.failed f) => .error (.fault f)

/-- An expression, or the constant that it can be replaced by. -/
def Expr.replaced (e : Expr) : Except RenderFault Expr := do
  .ok (((← e.writable?).map .constant).getD e)

mutual

/-- Replace all parts of an expression that are constants. -/
def Expr.fold : Expr → Except RenderFault Expr
  | .constant v => .ok (.constant v)
  | .failing f => .ok (.failing f)
  | .name n line => .ok (.name n line)
  | .list es => do (Expr.list (← foldAll es)).replaced
  | .tuple es => do (Expr.tuple (← foldAll es)).replaced
  | .dict es => do (Expr.dict (← foldPairs es)).replaced
  | .unary op e => do (Expr.unary op (← e.fold)).replaced
  | .arith op a b => do
    let a ← a.fold
    (Expr.arith op a (← b.fold)).replaced
  | .concat es => do (Expr.concat (← foldAll es)).replaced
  | .not e => do (Expr.not (← e.fold)).replaced
  | .and a b => do
    let a ← a.fold
    (Expr.and a (← b.fold)).replaced
  | .or a b => do
    let a ← a.fold
    (Expr.or a (← b.fold)).replaced
  | .compare e es => do
    let e ← e.fold
    (Expr.compare e (← foldChain es)).replaced
  | .choice test yes no line => do
    let test ← test.fold
    let yes ← yes.fold
    (Expr.choice test yes (← foldOption no) line).replaced
  | .attribute e n => do (Expr.attribute (← e.fold) n).replaced
  | .item e k => do
    let e ← e.fold
    (Expr.item e (← k.fold)).replaced
  | .slice a b c => do
    let a ← a.fold
    let b ← b.fold
    .ok (.slice a b (← c.fold))
  | .call f args named => do
    let f ← f.fold
    let args ← foldArgs args
    .ok (.call f args (← foldNamed named))
  | .filter e n args named line => do
    let e ← e.fold
    let args ← foldArgs args
    (Expr.filter e n args (← foldNamed named) line).replaced
  | .test e n args named line => do
    let e ← e.fold
    let args ← foldArgs args
    (Expr.test e n args (← foldNamed named) line).replaced

/-- Replace the constants in expressions. -/
def foldAll : List Expr → Except RenderFault (List Expr)
  | [] => .ok []
  | e :: es => do
    let e ← e.fold
    .ok (e :: (← foldAll es))

/-- Replace the constants in keys and values. -/
def foldPairs : List (Expr × Expr) → Except RenderFault (List (Expr × Expr))
  | [] => .ok []
  | (k, e) :: es => do
    let k ← k.fold
    let e ← e.fold
    .ok ((k, e) :: (← foldPairs es))

/-- Replace the constants in a chain of comparisons. -/
def foldChain : List (Comparison × Expr) → Except RenderFault (List (Comparison × Expr))
  | [] => .ok []
  | (c, e) :: es => do
    let e ← e.fold
    .ok ((c, e) :: (← foldChain es))

/-- Replace the constants in an expression that may be left out. -/
def foldOption : Option Expr → Except RenderFault (Option Expr)
  | none => .ok none
  | some e => do .ok (some (← e.fold))

/-- Replace the constants in positional arguments. -/
def foldArgs : List (Bool × Expr) → Except RenderFault (List (Bool × Expr))
  | [] => .ok []
  | (isSpread, e) :: es => do
    let e ← e.fold
    .ok ((isSpread, e) :: (← foldArgs es))

/-- Replace the constants in named arguments. -/
def foldNamed : List (Option String × Expr) → Except RenderFault (List (Option String × Expr))
  | [] => .ok []
  | (n, e) :: es => do
    let e ← e.fold
    .ok ((n, e) :: (← foldNamed es))

end

/-! ## Expressions -/

/-- Whether the expression applies an operation, so that it may be replaced by a constant. -/
def Expr.isOperation : Expr → Bool
  | .unary _ _ | .arith _ _ _ | .concat _ | .not _ | .and _ _ | .or _ _ | .compare _ _ => true
  | .choice _ _ _ _ | .attribute _ _ | .item _ _ | .call _ _ _ => true
  | .filter _ _ _ _ _ | .test _ _ _ _ _ => true
  | _ => false

/-- Whether all floats in a constant can be spelled. -/
def isSpellable (x : Float) : Bool := (Number.Quantity.ofDouble x).isFinite

mutual

/-- Whether all floats in a value can be spelled. -/
def hasSpelling : Value → Bool
  | .float x => isSpellable x
  | .complex re im => isSpellable re && isSpellable im
  | .list xs => allSpelled xs
  | .tuple xs => allSpelled xs
  | .map _ es => entriesSpelled es
  | _ => true

/-- Whether all floats in values can be spelled. -/
def allSpelled : List Value → Bool
  | [] => true
  | x :: xs => hasSpelling x && allSpelled xs

/-- Whether all floats in entries can be spelled. -/
def entriesSpelled : List (Value × Value) → Bool
  | [] => true
  | (k, v) :: es => hasSpelling k && hasSpelling v && entriesSpelled es

end

/-- A constant as it stands in a prepared template. -/
def spelled (v : Value) : Prepare Expr :=
  if !v.isPrintable then throw (.fault .invalid)
  else return if hasSpelling v then .constant v else .failing .unspellable

/-- The number that a negative number is the opposite of. -/
def opposite? : Expr → Option Expr
  | .constant (.int n) => if n < 0 then some (.constant (.int (-n))) else none
  | .constant (.float x) =>
    if Number.isNegativeDouble x then some (.constant (.float (-x))) else none
  | _ => none

/-- An operation on prepared operands. A sign binds less strongly than a power, also the sign of a
negative constant. -/
def arithPrepared (op : ArithOp) (a b : Expr) : Expr :=
  match op, opposite? a with
  | .pow, some p => .unary .neg (.arith .pow p b)
  | op, _ => .arith op a b

/-- Complain about a filter or a test that does not exist, unless a condition guards it. -/
def needOperation (isGuarded exists? : Bool) (kind name : String) (line : Nat) : Prepare Unit :=
  if isGuarded || exists? then return ()
  else throw (.malformed s!"No {kind} named {Text.quoted name}." line)

mutual

/-- Prepare an expression. The flag says whether a condition guards it. -/
def Expr.prepare (isGuarded : Bool) (e : Expr) : Prepare Expr := do
  match if e.isOperation then e.fold else .ok e with
  | .error f => throw f
  | .ok (.constant v) => spelled v
  | .ok _ =>
    match e with
    | .constant v => spelled v
    | .failing f => return .failing f
    | .name n line => return .name n line
    | .list es => return .list (← prepareAll isGuarded es)
    | .tuple es => return .tuple (← prepareAll isGuarded es)
    | .dict es => return .dict (← preparePairs isGuarded es)
    | .unary op e => return .unary op (← e.prepare isGuarded)
    | .arith op a b =>
      let a ← a.prepare isGuarded
      return arithPrepared op a (← b.prepare isGuarded)
    | .concat es => return .concat (← prepareAll isGuarded es)
    | .not e => return .not (← e.prepare isGuarded)
    | .and a b =>
      let a ← a.prepare isGuarded
      return .and a (← b.prepare isGuarded)
    | .or a b =>
      let a ← a.prepare isGuarded
      return .or a (← b.prepare isGuarded)
    | .compare e es =>
      let e ← e.prepare isGuarded
      return .compare e (← prepareChain isGuarded es)
    | .choice test yes no line =>
      let yes ← yes.prepare true
      let test ← test.prepare true
      return .choice test yes (← prepareOption true no) line
    | .attribute e n => return .attribute (← e.prepare isGuarded) n
    | .item e (.slice a b c) =>
      let e ← e.prepare isGuarded
      let a ← a.prepare isGuarded
      let b ← b.prepare isGuarded
      return .item e (.slice a b (← c.prepare isGuarded))
    | .item e k =>
      let e ← e.prepare isGuarded
      return .item e (← k.prepare isGuarded)
    | .slice a b c =>
      refuse
      return .slice a b c
    | .call f args named =>
      let f ← f.prepare isGuarded
      let args ← prepareArgs isGuarded args
      return .call f args (← prepareNamed isGuarded named)
    | .filter e n args named line =>
      needOperation isGuarded (isFilter n) "filter" n line
      let e ← e.prepare isGuarded
      let args ← prepareArgs isGuarded args
      return .filter e n args (← prepareNamed isGuarded named) line
    | .test e n args named line =>
      needOperation isGuarded (isTest n) "test" n line
      let e ← e.prepare isGuarded
      let args ← prepareArgs isGuarded args
      return .test e n args (← prepareNamed isGuarded named) line

/-- Prepare expressions. -/
def prepareAll (isGuarded : Bool) : List Expr → Prepare (List Expr)
  | [] => return []
  | e :: es => do
    let e ← e.prepare isGuarded
    return e :: (← prepareAll isGuarded es)

/-- Prepare keys and values. -/
def preparePairs (isGuarded : Bool) : List (Expr × Expr) → Prepare (List (Expr × Expr))
  | [] => return []
  | (k, e) :: es => do
    let k ← k.prepare isGuarded
    let e ← e.prepare isGuarded
    return (k, e) :: (← preparePairs isGuarded es)

/-- Prepare a chain of comparisons. -/
def prepareChain (isGuarded : Bool) :
    List (Comparison × Expr) → Prepare (List (Comparison × Expr))
  | [] => return []
  | (c, e) :: es => do
    let e ← e.prepare isGuarded
    return (c, e) :: (← prepareChain isGuarded es)

/-- Prepare an expression that may be left out. -/
def prepareOption (isGuarded : Bool) : Option Expr → Prepare (Option Expr)
  | none => return none
  | some e => return some (← e.prepare isGuarded)

/-- Prepare positional arguments. -/
def prepareArgs (isGuarded : Bool) : List (Bool × Expr) → Prepare (List (Bool × Expr))
  | [] => return []
  | (isSpread, e) :: es => do
    let e ← e.prepare isGuarded
    return (isSpread, e) :: (← prepareArgs isGuarded es)

/-- Prepare named arguments, each of which has a name of its own. -/
def prepareNamed (isGuarded : Bool) :
    List (Option String × Expr) → Prepare (List (Option String × Expr))
  | [] => return []
  | (n, e) :: es => do
    if n.isSome && es.any (·.1 = n) then refuse
    let e ← e.prepare isGuarded
    return (n, e) :: (← prepareNamed isGuarded es)

end

/-! ## Nodes -/

/-- Work the constants of filters out before they are looked up. -/
def foldFilters : List FilterCall → Except RenderFault Unit
  | [] => .ok ()
  | f :: fs => do
    let _ ← foldArgs f.args
    let _ ← foldNamed f.named
    foldFilters fs

/-- Prepare the filters of a body. The last one is looked up first. -/
def prepareFilters (fs : List FilterCall) : Prepare (List FilterCall) := do
  match foldFilters fs with
  | .error f => throw f
  | .ok _ =>
    for f in fs.reverse do
      needOperation false (isFilter f.name) "filter" f.name f.line
    fs.mapM fun f => do
      let args ← prepareArgs false f.args
      return { f with args, named := ← prepareNamed false f.named }

/-- Refuse an expression that is too deep. -/
def needLevels (e : Expr) (limit : Nat) : Prepare Unit :=
  if limit < e.levels then throw (.fault .tooDeep) else return ()

/-- Prepare an expression of a node. -/
def Expr.prepareWhole (isGuarded : Bool) (e : Expr) : Prepare Expr := do
  needLevels e maxLevels
  let e ← e.prepare isGuarded
  if maxWrittenLevels + 1 < e.levels then refuse
  return e

/-- The printed form of an expression that is a constant. -/
def Expr.printed? (e : Expr) : Option String :=
  match e.constant? with
  | .ok v => v.display.toOption
  | .error _ => none

/-- Prepare an expression that is printed: it becomes text if it is a constant. -/
def Expr.preparePrinted (isGuarded : Bool) (e : Expr) : Prepare Node := do
  needLevels e maxConstantLevels
  match e.printed? with
  | some s => return .text s
  | none =>
    let e ← e.prepareWhole isGuarded
    if maxWrittenLevels < e.levels then refuse
    return .print e

/-- Complain about an assignment to the name of the state of a loop. -/
def needOwnLoop (stores : List (String × Nat)) : Prepare Unit :=
  match stores.lookup "loop" with
  | none => return ()
  | some line =>
    throw (.malformed "Can't assign to special loop variable in for-loop" line)

mutual

/-- Prepare a node. The flag says whether a condition guards it. -/
def Node.prepare (isGuarded : Bool) : Node → Prepare Node
  | .text s => return .text s
  | .print e => e.preparePrinted isGuarded
  | .branch bs otherwise => do
    let bs ← prepareBranches bs
    return .branch bs (← prepareNodes true otherwise)
  | .each target members test hasState body otherwise => do
    let test ←
      match test with
      | some e => do pure (some (← e.prepareWhole false))
      | none => pure none
    needOwnLoop (target.stores ++ storesOfNodes body ++ storesOfNodes otherwise)
    let members ← members.prepareWhole isGuarded
    let body ← prepareNodes false body
    return .each target members test hasState body (← prepareNodes false otherwise)
  | .assign target e => return .assign target (← e.prepareWhole isGuarded)
  | .capture target fs body => do
    let body ← prepareNodes false body
    return .capture target (← prepareFilters fs) body
  | .filtered fs body => do
    let body ← prepareNodes false body
    return .filtered (← prepareFilters fs) body
  | .scoped bs body => do
    let bs ← bs.mapM fun b => return (b.1, ← b.2.prepareWhole isGuarded)
    return .scoped bs (← prepareNodes false body)
  | .snippet e ignoreMissing withContext =>
    return .snippet (← e.prepareWhole isGuarded) ignoreMissing withContext

/-- Prepare nodes. -/
def prepareNodes (isGuarded : Bool) : List Node → Prepare (List Node)
  | [] => return []
  | n :: ns => do
    let n ← n.prepare isGuarded
    return n :: (← prepareNodes isGuarded ns)

/-- Prepare the branches of a conditional statement. -/
def prepareBranches : List (Expr × List Node) → Prepare (List (Expr × List Node))
  | [] => return []
  | (test, body) :: bs => do
    let test ← test.prepareWhole true
    let body ← prepareNodes true body
    return (test, body) :: (← prepareBranches bs)

end

/-- Prepare a template. -/
def prepareTemplate (nodes : List Node) : Except RenderFault (List Node) := do
  let (nodes, isInOrder) ← (prepareNodes false nodes).run true
  if isInOrder ∧ loopsOfNodes nodes ≤ maxLoops then .ok nodes else .error (.fault .illFormed)

end ShaderLoom.Template
