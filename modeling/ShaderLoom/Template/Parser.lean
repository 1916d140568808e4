import ShaderLoom.Template.Lexer
import ShaderLoom.Template.ExprParser
import ShaderLoom.Template.Naming

/-!
# Reading templates

The nodes of a template are read up to its end, or up to a tag that ends the enclosing statement.
While nodes are read, it is known which tags enclose them and which tags would end each enclosing
statement; a complaint about a tag that has no place says what would have been possible.
-/

namespace ShaderLoom.Template

open Parse

/-- What encloses the nodes that are read. -/
structure Enclosure where
  /-- The names of the enclosing tags, innermost first. -/
  tags : List String := []
  /-- The tags that end each enclosing statement, innermost first. -/
  ends : List (List String) := []

namespace Enclosure

/-- The tags that would end the innermost statement. -/
def lookingFor (e : Enclosure) : Option String :=
  e.ends.head?.map fun names => joinTexts " or " (names.map Text.quoted)

/-- The complaint about a tag that has no place, or about the end of the template. -/
def complaint (e : Enclosure) (tag : Option String) : String :=
  let start :=
    match tag with
    | none => "Unexpected end of template."
    | some t => s!"Encountered unknown tag {Text.quoted t}."
  let isNesting := tag.any fun t => e.ends.any (·.contains t)
  let looking :=
    match e.lookingFor with
    | none => []
    | some names =>
      if isNesting then
        [joinTexts "" ["You probably made a nesting mistake. Jinja is expecting this tag, but ",
          "currently looking for ", names, "."]]
      else [s!"Jinja was looking for the following tags: {names}."]
  let innermost :=
    match e.tags with
    | [] => []
    | t :: _ => [s!"The innermost block that needs to be closed is {Text.quoted t}."]
  joinTexts " " ([start] ++ looking ++ innermost)

end Enclosure

/-- The target that an expression is. -/
def asTarget (e : Expr) (line : Nat) : Parse Target :=
  match e.target? with
  | some t => return t
  | none => failAt line s!"can't assign to {Text.quoted e.kindName}"

/-- The nodes up to one of some tags, which becomes the current token. The result is read by a given
reader of nodes, which is told what the tags are. -/
def body (nodes : List String → Parse (List Node)) (enclosure : Enclosure) (ends : List String) :
    Parse (List Node) := do
  let _ ← skipIf (.operator ":")
  let _ ← expect .blockEnd
  let result ← nodes ends
  if ← at? .eof then
    fail ({ enclosure with ends := ends :: enclosure.ends }.complaint none)
  else return result

/-- The nodes up to a tag, which is skipped. -/
def closedBody (nodes : List String → Parse (List Node)) (enclosure : Enclosure) (close : String) :
    Parse (List Node) := do
  let result ← body nodes enclosure [close]
  let _ ← advance
  return result

/-- The filters at the current token. -/
def filterCalls : Nat → Parse (List FilterCall)
  | 0 => return []
  | fuel + 1 => do
    if ← skipIf (.operator "|") then
      let f ← filterCall expression
      return f :: (← filterCalls fuel)
    else return []

/-- The branches of a conditional statement, and the nodes for when no test holds. -/
def branches (nodes : List String → Parse (List Node)) (enclosure : Enclosure) :
    Nat → Parse (List (Expr × List Node) × List Node)
  | 0 => return ([], [])
  | fuel + 1 => do
    let test ← tupleWithoutChoice []
    let yes ← body nodes enclosure ["elif", "else", "endif"]
    let t ← advance
    if t.lexeme = word "elif" then
      let (others, otherwise) ← branches nodes enclosure fuel
      return ((test, yes) :: others, otherwise)
    else if t.lexeme = word "else" then
      return ([(test, yes)], ← closedBody nodes enclosure "endif")
    else return ([(test, yes)], [])

/-- A loop. -/
def eachStatement (nodes : List String → Parse (List Node)) (enclosure : Enclosure) :
    Parse Node := do
  let _ ← advance
  let line ← Parse.line
  let target ← asTarget (← simpleTuple [word "in"]) line
  let _ ← expect (word "in")
  let members ← tupleWithoutChoice [word "recursive"]
  let test ← if ← skipIf (word "if") then do pure (some (← expression)) else pure none
  let isRecursive ← skipIf (word "recursive")
  let yes ← body nodes enclosure ["endfor", "else"]
  let t ← advance
  let otherwise ←
    if t.lexeme = word "endfor" then pure [] else closedBody nodes enclosure "endfor"
  let hasState := isRecursive || (loadsOfNodes yes).contains "loop"
  return .each target members test hasState yes otherwise

/-- An assignment of a value, or of a rendered body. -/
def assignStatement (nodes : List String → Parse (List Node)) (enclosure : Enclosure) :
    Parse Node := do
  let _ ← advance
  let line ← Parse.line
  let target ← asTarget (← tupleOrAttribute) line
  if ← skipIf (.operator "=") then return .assign target (← tupleExpression)
  else
    let filters ← filterCalls (← remaining)
    return .capture target filters (← closedBody nodes enclosure "endset")

/-- Another template. -/
def snippetStatement : Parse Node := do
  let _ ← advance
  let template ← expression
  let ignoreMissing ←
    if ← at? (word "ignore") then do
      if (← look) = word "missing" then
        let _ ← advance
        let _ ← advance
        pure true
      else pure false
    else pure false
  let withContext ←
    if ← atAny [word "with", word "without"] then do
      if (← look) = word "context" then
        let t ← advance
        let _ ← advance
        pure (t.lexeme == word "with")
      else pure true
    else pure true
  return .snippet template ignoreMissing withContext

/-- The local names of a statement. -/
def bindings : Nat → Bool → Parse (List (Target × Expr))
  | 0, _ => return []
  | fuel + 1, isFirst => do
    if ← at? .blockEnd then return []
    else
      if !isFirst then let _ ← expect (.operator ",")
      let line ← Parse.line
      let target ← asTarget (← simpleTuple []) line
      let _ ← expect (.operator "=")
      let e ← expression
      return (target, e) :: (← bindings fuel false)

/-- Printed expressions that are separated by commas. -/
def printed : Nat → Bool → Parse (List Expr)
  | 0, _ => return []
  | fuel + 1, isFirst => do
    if ← at? .blockEnd then return []
    else
      if !isFirst then let _ ← expect (.operator ",")
      let e ← expression
      return e :: (← printed fuel false)

/-- A statement that starts with the given tag. Nodes inside of it are read by a given reader, which
is told what encloses them and where they end. -/
def statement (nodes : Enclosure → List String → Parse (List Node)) (enclosure : Enclosure) :
    Parse (List Node) := do
  let t ← current
  match t.lexeme with
  | .name tag =>
    let inner : Enclosure := { enclosure with tags := tag :: enclosure.tags }
    match tag with
    | "if" =>
      let _ ← advance
      let (bs, otherwise) ← branches (nodes inner) inner (← remaining)
      return [.branch bs otherwise]
    | "for" => return [← eachStatement (nodes inner) inner]
    | "set" => return [← assignStatement (nodes inner) inner]
    | "include" => return [← snippetStatement]
    | "with" =>
      let _ ← advance
      let bs ← bindings (← remaining) true
      return [.scoped bs (← closedBody (nodes inner) inner "endwith")]
    | "print" =>
      let _ ← advance
      return (← printed (← remaining) true).map .print
    | "filter" =>
      let _ ← advance
      let first ← filterCall expression
      let others ← filterCalls (← remaining)
      return [.filtered (first :: others) (← closedBody (nodes inner) inner "endfilter")]
    | _ => failAt t.line (enclosure.complaint (some tag))
  | _ => failAt t.line "tag name expected"

/-- Whether the current token is one of some tags. -/
def atTag (tags : List String) : Parse Bool := do
  match ← lexeme with
  | .name n => return tags.contains n
  | _ => return false

/-- The nodes up to the end of the template, or up to one of some tags. Every token and every level
of nesting takes one unit of fuel. -/
def nodes : Nat → Enclosure → List String → Parse (List Node)
  | 0, _, _ => return []
  | fuel + 1, enclosure, ends => do
    match ← lexeme with
    | .data s =>
      let _ ← advance
      return .text s :: (← nodes fuel enclosure ends)
    | .variableBegin =>
      let _ ← advance
      let e ← tupleExpression
      let _ ← expect .variableEnd
      return .print e :: (← nodes fuel enclosure ends)
    | .blockBegin =>
      let _ ← advance
      if ← atTag ends then return []
      else
        let reader (e : Enclosure) (ends : List String) : Parse (List Node) :=
          nodes fuel { e with ends := ends :: e.ends } ends
        let statements ← statement reader enclosure
        let _ ← expect .blockEnd
        return statements ++ (← nodes fuel enclosure ends)
    | _ => return []

/-- Read a template. -/
def parse (source : String) : Except RenderFault (List Node) := do
  let tokens := tokenize source
  checkFront tokens
  let (result, _) ← (nodes (tokens.length + 1) {} []).run { tokens }
  .ok result

end ShaderLoom.Template
