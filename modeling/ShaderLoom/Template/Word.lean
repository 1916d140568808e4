import ShaderLoom.Template.Token
import ShaderLoom.Text.Identifier
import ShaderLoom.Text.CharacterName
import ShaderLoom.Text.Search
import ShaderLoom.Number.Reading

/-!
# Words inside of tags

Numbers, names, quoted texts and operators at the front of a text. A number may have single
underscores between its digits. Quoted texts know the usual escapes; a backslash before any other
character stays, and a character outside of basic Latin is spelled out after it.
-/

namespace ShaderLoom.Template

open Text Number

/-- A recognised piece of a text, and what follows it. -/
abbrev Piece (α : Type) := Option (α × List Char)

/-! ## Numbers -/

/-- A group of digits with single underscores between them; the underscores are dropped. -/
def digitGroup (isDigit : Char → Bool) : List Char → List Char × List Char
  | [] => ([], [])
  | c :: cs =>
    if isDigit c then
      let (ds, rest) := digitGroup isDigit cs
      (c :: ds, rest)
    else if c = '_' then
      match cs with
      | d :: _ =>
        if isDigit d then
          let (ds, rest) := digitGroup isDigit cs
          (ds, rest)
        else ([], c :: cs)
      | [] => ([], c :: cs)
    else ([], c :: cs)

/-- A group of digits that starts with a digit. -/
def digits? (isDigit : Char → Bool) (cs : List Char) : Piece (List Char) :=
  match cs with
  | c :: _ => if isDigit c then some (digitGroup isDigit cs) else none
  | [] => none

/-- Whether the character is a decimal digit. -/
def isDecimal (c : Char) : Bool := (decimalValue? c).isSome

/-- The digits after a point. -/
def fraction? (cs : List Char) : Piece (List Char) :=
  match cs with
  | '.' :: cs => (digits? isDecimal cs).map fun (ds, rest) => ('.' :: ds, rest)
  | _ => none

/-- The letter, the sign and the digits of a power of ten. -/
def exponent? (cs : List Char) : Piece (List Char) :=
  match cs with
  | e :: cs =>
    if e = 'e' || e = 'E' then
      let (mark, cs) : List Char × List Char :=
        match cs with
        | '+' :: cs => ([], cs)
        | '-' :: cs => (['-'], cs)
        | cs => ([], cs)
      (digits? isDecimal cs).map fun (ds, rest) => ('e' :: mark ++ ds, rest)
    else none
  | [] => none

/-- The token of a float, whose digits have to be in basic Latin. -/
def floatLexeme (spelling : List Char) : Lexeme :=
  if spelling.all (·.toNat < 128) then .float ((readDouble? spelling).getD 0)
  else .unreadable .illFormed

/-- A float: digits with a fraction, an exponent or both. -/
def float? (cs : List Char) : Option (Lexeme × List Char) := do
  let (whole, rest) ← digits? isDecimal cs
  let (fraction, rest) := (fraction? rest).getD ([], rest)
  let (exponent, rest) := (exponent? rest).getD ([], rest)
  if fraction.isEmpty && exponent.isEmpty then none
  else some (floatLexeme (whole ++ fraction ++ exponent), rest)

/-- The digit that a character of an integer in a base is. Only hexadecimal integers have digits of
other scripts. -/
def digitAfterMark? (base : Nat) (c : Char) : Option Nat :=
  if base = 16 then digitIn? 16 c else baseDigit? base c

/-- Digits of a base after its mark; one underscore may follow the mark. -/
def based? (base : Nat) (cs : List Char) : Option (Lexeme × List Char) := do
  let cs' := match cs with
    | '_' :: cs => cs
    | cs => cs
  let (ds, rest) ← digits? (fun c => (digitAfterMark? base c).isSome) cs'
  some (.integer (ofDigits base (ds.filterMap (digitAfterMark? base))), rest)

/-- The token of an integer in base ten, which can only have so many digits. -/
def decimalLexeme (ds : List Char) : Lexeme :=
  if ds.length ≤ maxIntDigits then .integer (ofDigits 10 (ds.filterMap decimalValue?))
  else .unreadable .invalid

/-- A run of zeros with single underscores between them. -/
def zeros? (cs : List Char) : Piece Lexeme :=
  (digits? (· = '0') cs).map fun (ds, rest) => (decimalLexeme ds, rest)

/-- An integer in base two, eight, sixteen or ten. An integer in base ten starts with a zero only if
it is zero. -/
def integer? (cs : List Char) : Piece Lexeme :=
  match cs with
  | '0' :: m :: rest =>
    let marked :=
      if m = 'b' || m = 'B' then based? 2 rest
      else if m = 'o' || m = 'O' then based? 8 rest
      else if m = 'x' || m = 'X' then based? 16 rest
      else none
    marked.or (zeros? cs)
  | '0' :: _ => zeros? cs
  | c :: _ =>
    if '1' ≤ c ∧ c ≤ '9' then
      let (ds, rest) := digitGroup isDecimal cs
      some (decimalLexeme ds, rest)
    else none
  | [] => none

/-! ## Names -/

/-- A name, which need not be an identifier. -/
def name? (cs : List Char) : Option (List Char) :=
  let name := cs.takeWhile isNamePart
  if name.isEmpty then none else some name

/-! ## Quoted texts -/

/-- The text up to the closing quote; a backslash keeps the next character from closing it. -/
def untilQuote (quote : Char) : List Char → Option (List Char)
  | [] => none
  | '\\' :: c :: cs => (untilQuote quote cs).map ('\\' :: c :: ·)
  | c :: cs =>
    if c = quote then some []
    else if c = '\\' then none
    else (untilQuote quote cs).map (c :: ·)

/-- A text between quotes, the escapes not yet replaced. -/
def quotedText? (cs : List Char) : Option (List Char) :=
  match cs with
  | c :: cs => if c = '\'' || c = '"' then untilQuote c cs else none
  | [] => none

/-- Escapes of a single character. -/
def simpleEscapes : List (Char × Char) :=
  [('\\', '\\'), ('\'', '\''), ('"', '"'), ('a', '\x07'), ('b', '\x08'), ('f', '\x0c'), ('n', '\n'),
    ('r', '\r'), ('t', '\t'), ('v', '\x0b')]

/-- A character by a number of hexadecimal digits. -/
def hexEscape (width : Nat) (complaint : String) (cs : List Char) :
    Except String (Char × List Char) :=
  let ds := (cs.take width).filterMap (baseDigit? 16)
  if ds.length = width then
    let n := ofDigits 16 ds
    if n < 0x110000 then .ok (Char.ofNat n, cs.drop width)
    else .error "illegal Unicode character"
  else .error complaint

/-- A character by its name, which stands between braces. -/
def namedEscape (cs : List Char) : Except String (Char × List Char) :=
  match cs with
  | '\x7b' :: cs =>
    let name := cs.takeWhile (· ≠ '\x7d')
    match cs.dropWhile (· ≠ '\x7d') with
    | _ :: rest =>
      if name = [] then .error "malformed \\N character escape"
      else
        match charNamed? name with
        | some c => .ok (c, rest)
        | none => .error "unknown Unicode character name"
    | [] => .error "malformed \\N character escape"
  | _ => .error "malformed \\N character escape"

/-- The longest run of at most three octal digits. -/
def octalDigits (cs : List Char) : List Nat :=
  ((cs.take 3).map (baseDigit? 8)).takeWhile Option.isSome |>.filterMap id

/-- How a character outside of basic Latin is written in basic Latin. -/
def spelledOut (c : Char) : List Char :=
  if c.toNat < 0x100 then 'x' :: hexDigits 2 c.toNat
  else if c.toNat < 0x10000 then 'u' :: hexDigits 4 c.toNat
  else 'U' :: hexDigits 8 c.toNat

/-- Replace escapes, looking at `fuel` characters at most. -/
def unescapeFrom : Nat → List Char → Except String (List Char)
  | 0, _ => .ok []
  | _ + 1, [] => .ok []
  | fuel + 1, '\\' :: c :: cs =>
    let continued (piece : Except String (Char × List Char)) : Except String (List Char) := do
      let (d, rest) ← piece
      .ok (d :: (← unescapeFrom fuel rest))
    if c = '\n' then unescapeFrom fuel cs
    else
      match simpleEscapes.lookup c with
      | some d => continued (.ok (d, cs))
      | none =>
        if c = 'x' then continued (hexEscape 2 "truncated \\xXX escape" cs)
        else if c = 'u' then continued (hexEscape 4 "truncated \\uXXXX escape" cs)
        else if c = 'U' then continued (hexEscape 8 "truncated \\UXXXXXXXX escape" cs)
        else if c = 'N' then continued (namedEscape cs)
        else
          match octalDigits (c :: cs) with
          | [] => do
            let shown := if c.toNat < 128 then [c] else spelledOut c
            .ok ('\\' :: shown ++ (← unescapeFrom fuel cs))
          | ds => continued (.ok (Char.ofNat (ofDigits 8 ds), (c :: cs).drop ds.length))
  | fuel + 1, c :: cs => do .ok (c :: (← unescapeFrom fuel cs))

/-- Replace the escapes of a quoted text. -/
def unescape (cs : List Char) : Except String (List Char) := unescapeFrom (cs.length + 1) cs

/-! ## Operators -/

/-- The operators, longer ones before their beginnings. -/
def operators : List String :=
  ["//", "**", "==", "!=", ">=", "<=", "+", "-", "/", "*", "%", "~", "[", "]", "(", ")", "\x7b",
    "\x7d", ">", "<", "=", ".", ":", "|", ",", ";"]

/-- The operator at the front of a text. -/
def operator? (cs : List Char) : Option String :=
  operators.find? fun op => op.toList.isPrefixOf cs

end ShaderLoom.Template
