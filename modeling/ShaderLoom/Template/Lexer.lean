import ShaderLoom.Template.Word

/-!
# Cutting templates into tokens

Plain text runs up to the next tag. A minus sign at the border of a tag removes the blank characters
beside it, and a line statement takes the blank lines after it along. Tags are only closed outside
of brackets. Line ends are normalised first, and one line break at the very end is dropped.
-/

namespace ShaderLoom.Template

open Text

/-! ## Line ends -/

/-- Write every line end as a single line break. -/
def normalizeLineEnds : List Char → List Char
  | [] => []
  | '\r' :: '\n' :: cs => '\n' :: normalizeLineEnds cs
  | '\r' :: cs => '\n' :: normalizeLineEnds cs
  | c :: cs => c :: normalizeLineEnds cs

/-- Drop one line break at the very end. -/
def dropFinalBreak (cs : List Char) : List Char :=
  if endsWith '\n' cs then cs.dropLast else cs

/-- The number of line breaks in a text. -/
def lineBreaks (cs : List Char) : Nat := cs.count '\n'

/-! ## Borders of tags -/

/-- A sign at the border of a tag. -/
inductive Sign where
  | plus
  | minus
  | absent
deriving DecidableEq

/-- How many characters a sign takes. -/
def Sign.width : Sign → Nat
  | .plus => 1
  | .minus => 1
  | .absent => 0

/-- The sign that a text starts with. -/
def signOf : List Char → Sign
  | '-' :: _ => .minus
  | '+' :: _ => .plus
  | _ => .absent

/-- The kinds of tags that have words inside. -/
inductive TagKind where
  | block
  | variable
  | line
deriving DecidableEq

/-- What opens at a place of a template. -/
inductive Opening where
  | tag (kind : TagKind)
  | comment
  /-- A stretch that is plain text whatever it looks like. -/
  | raw
deriving DecidableEq

/-- How many characters at the front of a text are blank. -/
def blankCount (cs : List Char) : Nat := (cs.takeWhile isBlank).length

/-- The length of the end of a statement tag at the front of a text; blank characters after a minus
sign belong to it. -/
def blockEnd? (cs : List Char) : Option Nat :=
  match cs with
  | '+' :: '$' :: '\x7d' :: _ => some 3
  | '-' :: '$' :: '\x7d' :: rest => some (3 + blankCount rest)
  | '$' :: '\x7d' :: _ => some 2
  | _ => none

/-- The length of the end of a variable tag at the front of a text; blank characters after a minus
sign belong to it. -/
def variableEnd? (cs : List Char) : Option Nat :=
  match cs with
  | '-' :: '\x7d' :: '\x7d' :: rest => some (3 + blankCount rest)
  | '\x7d' :: '\x7d' :: _ => some 2
  | _ => none

/-- The length of the end of a comment at the front of a text; blank characters after a minus sign
belong to it. -/
def commentEnd? (cs : List Char) : Option Nat :=
  match cs with
  | '+' :: '#' :: '\x7d' :: _ => some 3
  | '-' :: '#' :: '\x7d' :: rest => some (3 + blankCount rest)
  | '#' :: '\x7d' :: _ => some 2
  | _ => none

/-- The length of the end of a line statement at the front of a text: it goes up to the last line
break of a run of blank characters, or up to the end of the template after blank characters. -/
def lineEnd? (cs : List Char) : Option Nat :=
  let blanks := cs.takeWhile isBlank
  if (cs.drop blanks.length).isEmpty then some blanks.length
  else
    let gap := blanks.reverse.takeWhile (· ≠ '\n')
    if gap.length < blanks.length then some (blanks.length - gap.length) else none

/-- The length of the end of a tag at the front of a text. -/
def TagKind.end? : TagKind → List Char → Option Nat
  | .block => blockEnd?
  | .variable => variableEnd?
  | .line => lineEnd?

/-- The sign and the length of the beginning of a raw stretch at the front of a text. -/
def rawBegin? (cs : List Char) : Option (Sign × Nat) := do
  let cs ← afterFront? ['\x7b', '$'] cs
  let sign := signOf cs
  let cs := cs.drop sign.width
  let before := blankCount cs
  let cs ← afterFront? "raw".toList (cs.drop before)
  let after := blankCount cs
  let width := 2 + sign.width + before + 3 + after
  match cs.drop after with
  | '-' :: '$' :: '\x7d' :: rest => some (sign, width + 3 + blankCount rest)
  | '$' :: '\x7d' :: _ => some (sign, width + 2)
  | _ => none

/-- The sign and the length of the end of a raw stretch at the front of a text. -/
def rawEnd? (cs : List Char) : Option (Sign × Nat) := do
  let cs ← afterFront? ['\x7b', '$'] cs
  let sign := signOf cs
  let cs := cs.drop sign.width
  let before := blankCount cs
  let cs ← afterFront? "endraw".toList (cs.drop before)
  let after := blankCount cs
  let close ← blockEnd? (cs.drop after)
  some (sign, 2 + sign.width + before + 6 + after + close)

/-- Whether the character is a space, a tabulator or a vertical tabulator. -/
def isIndent (c : Char) : Bool := c = ' ' || c = '\t' || c = '\x0b'

/-- What opens at the front of a text, with its sign and its length. -/
abbrev Border := Opening × Sign × Nat

/-- The border at the front of a text that starts with the given characters. -/
def borderWith? (o : Opening) (front cs : List Char) : Option Border :=
  (afterFront? front cs).map fun rest =>
    let sign := signOf rest
    (o, sign, front.length + sign.width)

/-- The border of a line statement at the front of a text, after blank characters. -/
def lineBorder? (cs : List Char) : Option Border :=
  let indent := (cs.takeWhile isIndent).length
  (borderWith? (.tag .line) ['$', '$'] (cs.drop indent)).map fun (o, sign, width) =>
    (o, sign, indent + width)

/-- What opens at the front of a text, given the character before it. -/
def opening? (previous : Option Char) (cs : List Char) : Option Border :=
  let lineStart := previous = none || previous = some '\n'
  ((rawBegin? cs).map fun (sign, width) => (.raw, sign, width)).or <|
    (borderWith? (.tag .variable) ['\x7b', '\x7b'] cs).or <|
      (if lineStart then lineBorder? cs else none).or <|
        (borderWith? .comment ['\x7b', '#'] cs).or (borderWith? (.tag .block) ['\x7b', '$'] cs)

/-- Cut a text at the first place where something opens, given the character before the text. The
result is the plain text before the place and the border there. -/
def splitOpening? : Option Char → List Char → Option (List Char × Border)
  | _, [] => none
  | previous, c :: cs =>
    match opening? previous (c :: cs) with
    | some border => some ([], border)
    | none => (splitOpening? (some c) cs).map fun (before, border) => (c :: before, border)

/-- Cut a text at the first place where a recogniser finds something. -/
def splitAtFound? {α : Type} (found? : List Char → Option α) :
    List Char → Option (List Char × α)
  | [] => none
  | c :: cs =>
    match found? (c :: cs) with
    | some a => some ([], a)
    | none => (splitAtFound? found? cs).map fun (before, a) => (c :: before, a)

/-! ## The run over a template -/

/-- Where the run is: in plain text, or inside of a tag with the brackets that are still open. -/
inductive Mode where
  | plain
  | inside (kind : TagKind) (brackets : List String)

/-- A place in a template. -/
structure Place where
  /-- How many characters come before. -/
  position : Nat
  /-- The number of the line. -/
  line : Nat
  /-- The character before the place. -/
  previous : Option Char

/-- The place after some characters. -/
def Place.after (p : Place) (cs : List Char) : Place where
  position := p.position + cs.length
  line := p.line + lineBreaks cs
  previous := cs.getLast?.or p.previous

/-- The token of a piece of plain text, unless it is empty. -/
def dataTokens (line : Nat) (cs : List Char) : List Token :=
  if cs = [] then [] else [⟨line, .data (String.ofList cs)⟩]

/-- The plain text before a border with a sign. -/
def withSign (sign : Sign) (cs : List Char) : List Char :=
  if sign = .minus then trimRight cs else cs

/-- The token that opens a tag. -/
def TagKind.beginLexeme : TagKind → Lexeme
  | .block => .blockBegin
  | .variable => .variableBegin
  | .line => .blockBegin

/-- The token that closes a tag. -/
def TagKind.endLexeme : TagKind → Lexeme
  | .block => .blockEnd
  | .variable => .variableEnd
  | .line => .blockEnd

/-- The closing bracket of an opening one. -/
def closing? : String → Option String
  | "(" => some ")"
  | "[" => some "]"
  | "\x7b" => some "\x7d"
  | _ => none

/-- The brackets that are open after an operator, or the complaint about one that does not fit. -/
def balance (brackets : List String) (op : String) : Except String (List String) :=
  match closing? op with
  | some c => .ok (c :: brackets)
  | none =>
    if op = ")" || op = "]" || op = "\x7d" then
      match brackets with
      | [] => .error s!"unexpected '{op}'"
      | c :: rest => if c = op then .ok rest else .error s!"unexpected '{op}', expected '{c}'"
    else .ok brackets

/-- A word inside of a tag. -/
structure Word where
  /-- Its token; a run of blank characters has none. -/
  lexeme : Option Lexeme
  /-- The brackets that are open after it. -/
  brackets : List String
  /-- How many characters it has. -/
  width : Nat

/-- Whether the character can stand in a number. -/
def isNumberPart (c : Char) : Bool := isNamePart c || c = '.' || c = '+' || c = '-'

/-- The number at the front of a text, with its length. A float does not start after a point. -/
def numberWord? (previous : Option Char) (cs : List Char) : Option (Lexeme × Nat) :=
  let run := cs.takeWhile isNumberPart
  let found := (if previous = some '.' then none else float? run).or (integer? run)
  found.map fun (l, rest) => (l, run.length - rest.length)

/-- The word at the front of a text. -/
def nextWord (place : Place) (brackets : List String) (cs : List Char) : Except String Word :=
  let blanks := blankCount cs
  if blanks ≠ 0 then .ok ⟨none, brackets, blanks⟩
  else
    match numberWord? place.previous cs with
    | some (l, width) => .ok ⟨some l, brackets, width⟩
    | none =>
      match name? cs with
      | some n =>
        if isIdentifier n then .ok ⟨some (.name (String.ofList n)), brackets, n.length⟩
        else .error "Invalid character in identifier"
      | none =>
        match quotedText? cs with
        | some s => do
          .ok ⟨some (.string (String.ofList (← unescape s))), brackets, s.length + 2⟩
        | none =>
          match operator? cs with
          | some op => do .ok ⟨some (.operator op), ← balance brackets op, op.length⟩
          | none =>
            let c := Text.quoted (String.ofList (cs.take 1))
            .error s!"unexpected char {c} at {place.position}"

/-- Cut a template into tokens from a place on, in at most `fuel` steps. The end of the template
also closes a line statement. -/
def scan : Nat → Mode → Place → List Char → List Token
  | 0, _, _, _ => []
  | _ + 1, .inside .line [], place, [] => [⟨place.line, .blockEnd⟩]
  | _ + 1, _, _, [] => []
  | fuel + 1, .plain, place, cs =>
    match splitOpening? place.previous cs with
    | none => dataTokens place.line cs
    | some (before, opening, sign, width) =>
      let border := place.after before
      let (front, rest) := (cs.drop before.length).splitAt width
      let next := border.after front
      dataTokens place.line (withSign sign before) ++
        match opening with
        | .tag kind => ⟨border.line, kind.beginLexeme⟩ :: scan fuel (.inside kind []) next rest
        | .comment =>
          match splitAtFound? commentEnd? rest with
          | some (text, width) =>
            let (passed, rest) := rest.splitAt (text.length + width)
            scan fuel .plain (next.after passed) rest
          | none =>
            if rest.isEmpty then []
            else [⟨next.line, .malformed "Missing end of comment tag"⟩]
        | .raw =>
          match splitAtFound? rawEnd? rest with
          | some (text, sign, width) =>
            let (passed, rest) := rest.splitAt (text.length + width)
            dataTokens next.line (withSign sign text) ++
              scan fuel .plain (next.after passed) rest
          | none =>
            if rest.isEmpty then []
            else [⟨next.line, .malformed "Missing end of raw directive"⟩]
  | fuel + 1, .inside kind brackets, place, cs =>
    match if brackets.isEmpty then kind.end? cs else none with
    | some width =>
      let (passed, rest) := cs.splitAt width
      ⟨place.line, kind.endLexeme⟩ :: scan fuel .plain (place.after passed) rest
    | none =>
      match nextWord place brackets cs with
      | .error complaint => [⟨place.line, .malformed complaint⟩]
      | .ok w =>
        let (passed, rest) := cs.splitAt w.width
        (w.lexeme.map fun l => (⟨place.line, l⟩ : Token)).toList ++
          scan fuel (.inside kind w.brackets) (place.after passed) rest

/-- The tokens of a template, closed by the end. -/
def tokenize (source : String) : List Token :=
  let cs := dropFinalBreak (normalizeLineEnds source.toList)
  let tokens := scan (cs.length + 1) .plain ⟨0, 1, none⟩ cs
  let last := (tokens.getLast?.map (·.line)).getD 1
  tokens ++ [⟨last, .eof⟩]

end ShaderLoom.Template
