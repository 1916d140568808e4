import ShaderLoom.Template.Fault

/-!
# Tokens of templates

A template is plain text with tags: variables between double braces, statements between `\x7b$` and
`$\x7d` or on lines that start with `$$`, and comments. The tokens are the pieces of plain text, the
borders of tags, and the words inside of tags. A malformed piece is a token as well, so that what
comes before it can be read first.
-/

namespace ShaderLoom.Template

/-- What a token is. -/
inductive Lexeme where
  /-- Plain text. -/
  | data (text : String)
  | variableBegin
  | variableEnd
  | blockBegin
  | blockEnd
  | name (text : String)
  | string (text : String)
  | integer (n : Int)
  | float (x : Float)
  /-- An operator, a bracket or a separator. -/
  | operator (text : String)
  /-- The end of the template. -/
  | eof
  /-- A piece that is malformed, with the complaint about it. -/
  | malformed (message : String)
  /-- A number that cannot be read. -/
  | unreadable (f : Fault)
deriving DecidableEq

/-- A token with the line that it starts on. -/
structure Token where
  line : Nat
  lexeme : Lexeme
deriving DecidableEq

/-- How messages name a token. -/
def Lexeme.description : Lexeme → String
  | .data _ => "template data / text"
  | .variableBegin => "begin of print statement"
  | .variableEnd => "end of print statement"
  | .blockBegin => "begin of statement block"
  | .blockEnd => "end of statement block"
  | .name text => text
  | .string _ => "string"
  | .integer _ => "integer"
  | .float _ => "float"
  | .operator text => text
  | .eof => "end of template"
  | .malformed _ => "malformed"
  | .unreadable _ => "unreadable"

end ShaderLoom.Template
