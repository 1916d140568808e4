import ShaderLoom.Template.Tree
import ShaderLoom.Template.Parsing
import ShaderLoom.Text.NormalForm

/-!
# Reading expressions

The operators in ascending strength: the choice between two values, `or`, `and`, `not`,
comparisons, addition and subtraction, joining of texts, multiplication and division, powers,
signs. A sign binds more strongly than a power, and powers associate to the left. Attributes,
items and calls follow their operand directly, filters and tests come last. Every loop is bounded
by the number of tokens left.
-/

namespace ShaderLoom.Template

open Parse

/-- Words of an operator. -/
def word (n : String) : Lexeme := .name n

/-! ## Operators between operands -/

/-- Operands with operators between them, grouped to the left. -/
def chain (operand : Parse Expr) (op? : Lexeme → Option (Expr → Expr → Expr)) :
    Nat → Expr → Parse Expr
  | 0, left => return left
  | fuel + 1, left => do
    match op? (← lexeme) with
    | some make =>
      let _ ← advance
      let right ← operand
      chain operand op? fuel (make left right)
    | none => return left

/-- Operands with operators of one strength between them. -/
def leftAssociative (operand : Parse Expr) (op? : Lexeme → Option (Expr → Expr → Expr)) :
    Parse Expr := do
  let first ← operand
  chain operand op? (← remaining) first

/-- The operator of powers. -/
def powerOp? : Lexeme → Option (Expr → Expr → Expr)
  | .operator "**" => some (.arith .pow)
  | _ => none

/-- The operators of multiplication and division. -/
def productOp? : Lexeme → Option (Expr → Expr → Expr)
  | .operator "*" => some (.arith .mul)
  | .operator "/" => some (.arith .div)
  | .operator "//" => some (.arith .floorDiv)
  | .operator "%" => some (.arith .mod)
  | _ => none

/-- The operators of addition and subtraction. -/
def sumOp? : Lexeme → Option (Expr → Expr → Expr)
  | .operator "+" => some (.arith .add)
  | .operator "-" => some (.arith .sub)
  | _ => none

/-- The parts of a joined text after the first one. -/
def concatParts (operand : Parse Expr) : Nat → Parse (List Expr)
  | 0 => return []
  | fuel + 1 => do
    if ← skipIf (.operator "~") then
      let part ← operand
      return part :: (← concatParts operand fuel)
    else return []

/-- Parts of a joined text. -/
def concatExpr (operand : Parse Expr) : Parse Expr := do
  let first ← operand
  let others ← concatParts operand (← remaining)
  return if others.isEmpty then first else .concat (first :: others)

/-- Sums of joined texts of products of powers. -/
def sumExpr (operand : Parse Expr) : Parse Expr :=
  leftAssociative (concatExpr (leftAssociative (leftAssociative operand powerOp?) productOp?))
    sumOp?

/-- The comparisons that are operators. -/
def comparisonOp? : Lexeme → Option Comparison
  | .operator "==" => some (.relation .eq)
  | .operator "!=" => some (.relation .ne)
  | .operator "<" => some (.relation .lt)
  | .operator "<=" => some (.relation .le)
  | .operator ">" => some (.relation .gt)
  | .operator ">=" => some (.relation .ge)
  | _ => none

/-- The comparison at the current token, which is skipped. -/
def comparison? : Parse (Option Comparison) := do
  match comparisonOp? (← lexeme) with
  | some c =>
    let _ ← advance
    return some c
  | none =>
    if ← skipIf (word "in") then return some .within
    else if ← at? (word "not") then
      if (← look) = word "in" then
        let _ ← advance
        let _ ← advance
        return some .notWithin
      else return none
    else return none

/-- The operands of a chain of comparisons after the first one. -/
def comparisons (operand : Parse Expr) : Nat → Parse (List (Comparison × Expr))
  | 0 => return []
  | fuel + 1 => do
    match ← comparison? with
    | some c =>
      let e ← operand
      return (c, e) :: (← comparisons operand fuel)
    | none => return []

/-- A chain of comparisons. -/
def compareExpr (operand : Parse Expr) : Parse Expr := do
  let first ← sumExpr operand
  let others ← comparisons (sumExpr operand) (← remaining)
  return if others.isEmpty then first else .compare first others

/-- A comparison with any number of negations before it. -/
def notExpr (operand : Parse Expr) : Nat → Parse Expr
  | 0 => compareExpr operand
  | fuel + 1 => do
    if ← skipIf (word "not") then return .not (← notExpr operand fuel)
    else compareExpr operand

/-- The operator between negations. -/
def andOp? : Lexeme → Option (Expr → Expr → Expr)
  | .name "and" => some .and
  | _ => none

/-- The operator between conjunctions. -/
def orOp? : Lexeme → Option (Expr → Expr → Expr)
  | .name "or" => some .or
  | _ => none

/-- An expression without a choice at its top. -/
def orExpr (operand : Parse Expr) : Parse Expr := do
  let fuel ← remaining
  leftAssociative (leftAssociative (notExpr operand fuel) andOp?) orOp?

mutual

/-- The choices after an expression. -/
def choices (operand : Parse Expr) : Nat → Nat → Expr → Parse Expr
  | 0, _, e => return e
  | fuel + 1, line, e => do
    if ← skipIf (word "if") then
      let test ← orExpr operand
      let no ←
        if ← skipIf (word "else") then do pure (some (← choiceExpr operand fuel)) else pure none
      choices operand fuel (← Parse.line) (.choice test e no line)
    else return e

/-- An expression, possibly with choices. -/
def choiceExpr (operand : Parse Expr) : Nat → Parse Expr
  | 0 => orExpr operand
  | fuel + 1 => do
    let line ← Parse.line
    let e ← orExpr operand
    choices operand fuel line e

end

/-- An expression. -/
def fullExpr (operand : Parse Expr) : Parse Expr := do choiceExpr operand (2 * (← remaining) + 2)

/-! ## Sequences -/

/-- Whether a tuple ends at the current token. -/
def atTupleEnd (ends : List Lexeme) : Parse Bool :=
  atAny ([.variableEnd, .blockEnd, .operator ")"] ++ ends)

/-- The members of a tuple, and whether there was a comma. -/
def tupleItems (member : Parse Expr) (ends : List Lexeme) : Nat → Bool → Parse (List Expr × Bool)
  | 0, _ => return ([], false)
  | fuel + 1, isFirst => do
    if !isFirst then let _ ← expect (.operator ",")
    if ← atTupleEnd ends then return ([], false)
    else
      let e ← member
      if ← at? (.operator ",") then
        let (es, _) ← tupleItems member ends fuel false
        return (e :: es, true)
      else return ([e], false)

/-- One expression, or a tuple of several that are separated by commas. -/
def tupleExpr (member : Parse Expr) (ends : List Lexeme) (inParentheses : Bool) : Parse Expr := do
  let (items, isTuple) ← tupleItems member ends ((← remaining) + 1) true
  if isTuple then return .tuple items
  else
    match items with
    | e :: _ => return e
    | [] =>
      if inParentheses then return .tuple []
      else fail s!"Expected an expression, got {Text.quoted (← lexeme).description}"

/-- Members up to a closing bracket, separated by commas; a comma may come last. -/
def bracketed {α : Type} (member : Parse α) (close : Lexeme) : Nat → Bool → Parse (List α)
  | 0, _ => return []
  | fuel + 1, isFirst => do
    if ← at? close then return []
    else
      if !isFirst then let _ ← expect (.operator ",")
      if ← at? close then return []
      else
        let a ← member
        return a :: (← bracketed member close fuel false)

/-- A list between brackets. -/
def listExpr (expr : Parse Expr) : Parse Expr := do
  let _ ← expect (.operator "[")
  let items ← bracketed expr (.operator "]") (← remaining) true
  let _ ← expect (.operator "]")
  return .list items

/-- A key and a value of a map. -/
def pairExpr (expr : Parse Expr) : Parse (Expr × Expr) := do
  let key ← expr
  let _ ← expect (.operator ":")
  return (key, ← expr)

/-- A map between braces. -/
def dictExpr (expr : Parse Expr) : Parse Expr := do
  let _ ← expect (.operator "\x7b")
  let entries ← bracketed (pairExpr expr) (.operator "\x7d") (← remaining) true
  let _ ← expect (.operator "\x7d")
  return .dict entries

/-- Quoted texts that follow a quoted text directly; they are joined. -/
def moreStrings : Nat → Parse String
  | 0 => return ""
  | fuel + 1 => do
    match ← lexeme with
    | .string s =>
      let _ ← advance
      return s ++ (← moreStrings fuel)
    | _ => return ""

/-- The constant that a name stands for. -/
def namedConstant? : String → Option Value
  | "true" => some (.bool true)
  | "True" => some (.bool true)
  | "false" => some (.bool false)
  | "False" => some (.bool false)
  | "none" => some .null
  | "None" => some .null
  | _ => none

/-- A constant, a name, or something between brackets. -/
def primary (expr : Parse Expr) : Parse Expr := do
  let t ← current
  match t.lexeme with
  | .name n =>
    let _ ← advance
    return match namedConstant? n with
      | some v => .constant v
      | none => .name n t.line
  | .string _ => return .constant (.text (← moreStrings (← remaining)))
  | .integer n =>
    let _ ← advance
    return .constant (.int n)
  | .float x =>
    let _ ← advance
    return .constant (.float x)
  | .operator "(" =>
    let _ ← advance
    let e ← tupleExpr expr [] true
    let _ ← expect (.operator ")")
    return e
  | .operator "[" => listExpr expr
  | .operator "\x7b" => dictExpr expr
  | l => failAt t.line s!"unexpected {Text.quoted l.description}"

/-! ## What follows an operand -/

/-- A bound of a slice, which may be left out. -/
def sliceBound (expr : Parse Expr) : Parse Expr := do
  if ← atAny [.operator ":", .operator "]", .operator ","] then return .constant .null else expr

/-- The key of an item, or a slice. -/
def subscript (expr : Parse Expr) : Parse Expr := do
  let start? ←
    if ← at? (.operator ":") then pure none else do pure (some (← expr))
  if ← skipIf (.operator ":") then
    let stop ← sliceBound expr
    let step ← if ← skipIf (.operator ":") then sliceBound expr else pure (.constant .null)
    return .slice (start?.getD (.constant .null)) stop step
  else return start?.getD (.constant .null)

/-- The keys between the brackets of an item. -/
def subscripts (expr : Parse Expr) : Nat → Bool → Parse (List Expr)
  | 0, _ => return []
  | fuel + 1, isFirst => do
    if ← at? (.operator "]") then return []
    else
      if !isFirst then let _ ← expect (.operator ",")
      let e ← subscript expr
      return e :: (← subscripts expr fuel false)

/-- The arguments of a call. -/
structure Arguments where
  args : List (Bool × Expr) := []
  named : List (Option String × Expr) := []

/-- Whether a sequence of arguments was given. -/
def Arguments.hasSpread (a : Arguments) : Bool := a.args.any (·.1)

/-- Whether a map of arguments was given. -/
def Arguments.hasMap (a : Arguments) : Bool := a.named.any (·.1.isNone)

/-- Whether a named argument was given. -/
def Arguments.hasNamed (a : Arguments) : Bool := a.named.any (·.1.isSome)

/-- Complain about the order of arguments, unless it is fine. -/
def ensureOrder (ok : Bool) (line : Nat) : Parse Unit :=
  if ok then return () else failAt line "invalid syntax for function call expression"

/-- One argument of a call. -/
def argument (expr : Parse Expr) (line : Nat) (a : Arguments) : Parse Arguments := do
  match ← lexeme with
  | .operator "*" =>
    ensureOrder (!a.hasSpread && !a.hasMap) line
    let _ ← advance
    return { a with args := a.args ++ [(true, ← expr)] }
  | .operator "**" =>
    ensureOrder (!a.hasMap) line
    let _ ← advance
    return { a with named := a.named ++ [(none, ← expr)] }
  | .name n =>
    if (← look) = .operator "=" then
      ensureOrder (!a.hasMap) line
      let _ ← advance
      let _ ← advance
      let key := String.ofList (Text.normalForm n.toList)
      return { a with named := a.named ++ [(some key, ← expr)] }
    else positional
  | _ => positional
where
  positional : Parse Arguments := do
    ensureOrder (!a.hasSpread && !a.hasMap && !a.hasNamed) line
    return { a with args := a.args ++ [(false, ← expr)] }

/-- The arguments up to the closing parenthesis. -/
def argumentsUpTo (expr : Parse Expr) (line : Nat) : Nat → Bool → Arguments → Parse Arguments
  | 0, _, a => return a
  | fuel + 1, isFirst, a => do
    if ← at? (.operator ")") then return a
    else
      if !isFirst then let _ ← expect (.operator ",")
      if ← at? (.operator ")") then return a
      else
        let a ← argument expr line a
        argumentsUpTo expr line fuel false a

/-- The arguments of a call between parentheses. -/
def callArguments (expr : Parse Expr) : Parse Arguments := do
  let t ← expect (.operator "(")
  let a ← argumentsUpTo expr t.line (← remaining) true {}
  let _ ← expect (.operator ")")
  return a

/-- Attributes, items and calls that follow an operand directly. -/
def postfixes (expr : Parse Expr) : Nat → Expr → Parse Expr
  | 0, e => return e
  | fuel + 1, e => do
    match ← lexeme with
    | .operator "." =>
      let _ ← advance
      let t ← current
      let _ ← advance
      match t.lexeme with
      | .name n => postfixes expr fuel (.attribute e n)
      | .integer n => postfixes expr fuel (.item e (.constant (.int n)))
      | _ => failAt t.line "expected name or number"
    | .operator "[" =>
      let _ ← advance
      let keys ← subscripts expr (← remaining) true
      let _ ← expect (.operator "]")
      let key := match keys with
        | [k] => k
        | ks => .tuple ks
      postfixes expr fuel (.item e key)
    | .operator "(" =>
      let a ← callArguments expr
      postfixes expr fuel (.call e a.args a.named)
    | _ => return e

/-- The parts of a dotted name after the first one. -/
def dottedName : Nat → String → Parse String
  | 0, n => return n
  | fuel + 1, n => do
    if ← skipIf (.operator ".") then dottedName fuel (joinTexts "." [n, ← expectName])
    else return n

/-- The name and the arguments of a filter. -/
def filterCall (expr : Parse Expr) : Parse FilterCall := do
  let line ← Parse.line
  let name ← dottedName (← remaining) (← expectName)
  let a ← if ← at? (.operator "(") then callArguments expr else pure {}
  return ⟨name, a.args, a.named, line⟩

/-- Whether the current token can start the argument of a test without parentheses. -/
def startsTestArgument : Parse Bool := do
  match ← lexeme with
  | .name n => return !(["else", "or", "and"].contains n)
  | .string _ => return true
  | .integer _ => return true
  | .float _ => return true
  | .operator op => return ["[", "\x7b"].contains op
  | _ => return false

/-- The test after `is`. -/
def testExpr (expr : Parse Expr) (e : Expr) : Parse Expr := do
  let t ← advance
  let negated ← skipIf (word "not")
  let name ← dottedName (← remaining) (← expectName)
  let a : Arguments ←
    if ← at? (.operator "(") then callArguments expr
    else if ← startsTestArgument then do
      if ← at? (word "is") then fail "You cannot chain multiple tests with is"
      else
        let p ← primary expr
        let p ← postfixes expr (← remaining) p
        pure ({ args := [(false, p)] } : Arguments)
    else pure {}
  let result := Expr.test e name a.args a.named t.line
  return if negated then .not result else result

/-- Filters, tests and calls that come last. -/
def filtersAndTests (expr : Parse Expr) : Nat → Expr → Parse Expr
  | 0, e => return e
  | fuel + 1, e => do
    match ← lexeme with
    | .operator "|" =>
      let _ ← advance
      let f ← filterCall expr
      filtersAndTests expr fuel (.filter e f.name f.args f.named f.line)
    | .name "is" => do filtersAndTests expr fuel (← testExpr expr e)
    | .operator "(" =>
      let a ← callArguments expr
      filtersAndTests expr fuel (.call e a.args a.named)
    | _ => return e

/-- The signs at the current token. -/
def signs : Nat → Parse (List UnaryOp)
  | 0 => return []
  | fuel + 1 => do
    if ← skipIf (.operator "-") then return .neg :: (← signs fuel)
    else if ← skipIf (.operator "+") then return .pos :: (← signs fuel)
    else return []

/-- An operand with its signs and everything that follows it, where brackets may be nested up to a
depth. -/
def operand : Nat → Parse Expr
  | 0 => throw (.fault .tooDeep)
  | depth + 1 => do
    let expr := fullExpr (operand depth)
    let ops ← signs (← remaining)
    let e ← postfixes expr (← remaining) (← primary expr)
    filtersAndTests expr (← remaining) (ops.foldr .unary e)

/-- The depth up to which the operands of an expression may be nested. -/
def maxNesting : Nat := 75

/-- The operands of expressions at the top. -/
def topOperand : Parse Expr := operand maxNesting

/-- An expression. -/
def expression : Parse Expr := fullExpr topOperand

/-- An expression or a tuple, up to the end of a tag. -/
def tupleExpression : Parse Expr := tupleExpr expression [] false

/-- A tuple of expressions without choices, up to the end of a tag or a given token. -/
def tupleWithoutChoice (ends : List Lexeme) : Parse Expr :=
  tupleExpr (orExpr topOperand) ends false

/-- A tuple of primary expressions. -/
def simpleTuple (ends : List Lexeme) : Parse Expr := tupleExpr (primary expression) ends false

/-- A primary expression, or an attribute of a name. -/
def primaryOrAttribute : Parse Expr := do
  let e ← primary expression
  match e with
  | .name _ _ =>
    if ← skipIf (.operator ".") then return .attribute e (← expectName) else return e
  | e => return e

/-- A tuple of primary expressions and attributes of names. -/
def tupleOrAttribute : Parse Expr := tupleExpr primaryOrAttribute [] false

end ShaderLoom.Template
