import ShaderLoom.Template.Token

/-!
# Reading tokens

Reading keeps the tokens that are left and their number. A malformed token is reported when it
becomes the current one. The end of the template stays the current token for ever.
-/

namespace ShaderLoom.Template

/-- The tokens that are left. -/
structure TokensLeft where
  tokens : List Token
  /-- How many there are. -/
  count : Nat := tokens.length

/-- A reader of tokens. -/
abbrev Parse := StateT TokensLeft (Except RenderFault)

namespace Parse

/-- The token at the end of a list of tokens that has ended already. -/
def endToken : Token := ⟨1, .eof⟩

/-- The current token. -/
def current : Parse Token := do return (← get).tokens.headD endToken

/-- What the current token is. -/
def lexeme : Parse Lexeme := do return (← current).lexeme

/-- The line of the current token. -/
def line : Parse Nat := do return (← current).line

/-- Fail at a line. -/
def failAt {α : Type} (line : Nat) (message : String) : Parse α :=
  throw (.malformed message line)

/-- Fail at the current token. -/
def fail {α : Type} (message : String) : Parse α := do failAt (← line) message

/-- Report a malformed or unreadable token at the front. -/
def checkFront : List Token → Except RenderFault Unit
  | ⟨line, .malformed message⟩ :: _ => .error (.malformed message line)
  | ⟨_, .unreadable f⟩ :: _ => .error (.fault f)
  | _ => .ok ()

/-- Go on to the next token; the result is the token that was current. -/
def advance : Parse Token := do
  let left ← get
  match left.tokens with
  | [] => return endToken
  | [last] => return last
  | t :: ts =>
    match checkFront ts with
    | .error e => throw e
    | .ok _ =>
      set (⟨ts, left.count - 1⟩ : TokensLeft)
      return t

/-- What the token after the current one is. -/
def look : Parse Lexeme := do
  match (← get).tokens with
  | _ :: t :: ts =>
    match checkFront (t :: ts) with
    | .error e => throw e
    | .ok _ => return t.lexeme
  | _ => return .eof

/-- Whether the current token is the given one. -/
def at? (l : Lexeme) : Parse Bool := do return (← lexeme) = l

/-- Whether the current token is one of the given ones. -/
def atAny (ls : List Lexeme) : Parse Bool := do return ls.contains (← lexeme)

/-- Go on if the current token is the given one. -/
def skipIf (l : Lexeme) : Parse Bool := do
  if ← at? l then
    let _ ← advance
    return true
  else return false

/-- Complain that something else was expected. -/
def failExpected {α : Type} (description : String) : Parse α := do
  let l ← lexeme
  if l = .eof then
    fail s!"unexpected end of template, expected {Text.quoted description}."
  else
    fail (joinTexts "" ["expected token ", Text.quoted description, ", got ",
      Text.quoted l.description])

/-- Go on if the current token is the given one, and complain if not. -/
def expect (l : Lexeme) : Parse Token := do
  if ← at? l then advance else failExpected l.description

/-- The name that the current token is. -/
def expectName : Parse String := do
  match ← lexeme with
  | .name n =>
    let _ ← advance
    return n
  | _ => failExpected "name"

/-- The number of tokens that are left, which bounds every loop over them. -/
def remaining : Parse Nat := do return (← get).count

end Parse

end ShaderLoom.Template
