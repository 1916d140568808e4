import ShaderLoom.Glsl.Substitution
import ShaderLoom.Glsl.Main
import ShaderLoom.Stage
import ShaderLoom.Failure
import ShaderLoom.Value.Comparison

/-!
# Conversion between two dialects of GLSL

Code is converted between the dialects 100 and 300 es by replacing parts of the version line, the
names of the texture functions, the qualifiers of attributes and varyings, and the output of the
fragment stage. The built-in output `gl_FragColor` of the older dialect is a declared variable in
the newer one.
-/

namespace ShaderLoom.Glsl

open Text

/-- A dialect of the shading language. -/
inductive Dialect where
  | es100
  | es300
deriving DecidableEq

/-- The number of a dialect. -/
def Dialect.number : Dialect → Nat
  | .es100 => 100
  | .es300 => 300

/-- The dialect whose number is equal to a value. -/
def Dialect.ofValue? (v : Value) : Answer (Option Dialect) := do
  if ← v.equal (.int 300) then .ok (some .es300)
  else if ← v.equal (.int 100) then .ok (some .es100)
  else .ok none

@[simp] theorem Dialect.ofValue?_number (d : Dialect) :
    ofValue? (.int d.number) = .ok (some d) := by
  cases d <;> simp [ofValue?, number, Value.equal_int, bind, Except.bind]

/-! ## Version lines -/

/-- What follows `#version 300 es`, if the text starts with it. -/
def afterVersion300? (cs : List Char) : Option (List Char) := do
  let cs ← afterFront? "#version".toList cs
  let cs ← afterGap? cs
  let cs ← afterFront? "300".toList cs
  let cs ← afterGap? cs
  afterFront? "es".toList cs

/-- What follows `#version 100`, if the text starts with it. -/
def afterVersion100? (cs : List Char) : Option (List Char) := do
  let cs ← afterFront? "#version".toList cs
  let cs ← afterGap? cs
  afterFront? "100".toList cs

/-- What follows the rest of a line that has gaps only. -/
def afterEmptyLine? (cs : List Char) : Option (List Char) := afterChar? '\n' (cs.dropWhile isGap)

/-- What follows a first line that is empty or a version line of either dialect. -/
def afterVersionLine? (cs : List Char) : Option (List Char) :=
  ((afterVersion100? cs).bind afterEmptyLine?).or
    (((afterVersion300? cs).bind afterEmptyLine?).or (afterEmptyLine? cs))

/-- Make an empty first line or a version line that of the newer dialect. -/
def versionTo300 (cs : List Char) : List Char :=
  match afterVersionLine? cs with
  | some rest => "#version 300 es\n".toList ++ rest
  | none => cs

/-- Make the version of the newer dialect that of the older one. -/
def versionTo100 (cs : List Char) : List Char :=
  match afterVersion300? cs with
  | some rest => "#version 100".toList ++ rest
  | none => cs

/-! ## Texture functions -/

/-- The kinds of samplers that function names of the older dialect mention. -/
def samplerKinds : List (List Char) := ["2D".toList, "2DProj".toList, "Cube".toList]

/-- A rule for calls of texture functions: `texture`, then one of some kinds, then one of some
endings. The new name is made of the kind. -/
def textureRule (kinds endings : List (List Char)) (new : List Char → List Char) : Rule :=
  fun previous cs =>
    if startsWord previous then
      (afterFront? "texture".toList cs).bind fun rest =>
        kinds.findSome? fun kind =>
          (afterFront? kind rest).bind fun rest =>
            endings.findSome? fun ending =>
              (afterFront? (ending ++ ['(']) rest).map fun rest =>
                replaceUntil cs rest (new kind ++ ['('])
    else none

/-- Calls with a level of detail become calls of `textureLod`. -/
def lodTo300 : Rule :=
  textureRule samplerKinds ["LodEXT".toList, "Lod".toList] fun _ => "textureLod".toList

/-- The other calls become calls of `texture`. -/
def sampleTo300 : Rule :=
  textureRule samplerKinds ["EXT".toList, []] fun _ => "texture".toList

/-- Calls with a kind and a level of detail get the name of the extension. -/
def kindLodTo100 : Rule :=
  textureRule samplerKinds ["Lod".toList] fun kind => "texture".toList ++ kind ++ "LodEXT".toList

/-- Calls of `texture` sample a two-dimensional texture. -/
def sampleTo100 : Rule := textureRule [[]] [[]] fun _ => "texture2D".toList

/-- Calls of `textureLod` sample a two-dimensional texture. -/
def lodTo100 : Rule := textureRule [[]] ["Lod".toList] fun _ => "texture2DLodEXT".toList

/-! ## Qualifiers of variables -/

/-- What follows an optional length in brackets. -/
def afterLength (cs : List Char) : List Char :=
  let bracketed := do
    let cs ← afterChar? '[' cs
    let (_, cs) ← splitWord? cs
    afterChar? ']' cs
  bracketed.getD cs

/-- What follows a variable with its type, an optional length and a semicolon. -/
def afterVariable? (cs : List Char) : Option (List Char) := do
  let (_, cs) ← splitWord? cs
  let cs ← afterGap? cs
  let (_, cs) ← splitWord? cs
  afterChar? ';' (afterLength cs)

/-- Replace the qualifier of a variable and the gap after it. -/
def qualifierRule (old new : List Char) : Rule := fun previous cs =>
  if startsWord previous then do
    let rest ← afterFront? old cs
    let variableText ← afterGap? rest
    let _ ← afterVariable? variableText
    some (replaceUntil cs variableText (new ++ [' ']))
  else none

/-- The qualifiers that change when a stage is converted to the newer dialect. -/
def qualifiersTo300 : Stage → List (List Char × List Char)
  | .vertex => [("attribute".toList, "in".toList), ("varying".toList, "out".toList)]
  | .fragment => [("varying".toList, "in".toList)]

/-- The qualifiers that change when a stage is converted to the older dialect. -/
def qualifiersTo100 : Stage → List (List Char × List Char)
  | .vertex => [("in".toList, "attribute".toList), ("out".toList, "varying".toList)]
  | .fragment => [("in".toList, "varying".toList)]

/-- Change qualifiers, one after the other. -/
def changeQualifiers (changes : List (List Char × List Char)) (cs : List Char) : List Char :=
  changes.foldl (fun cs change => substitute (qualifierRule change.1 change.2) cs) cs

/-! ## The output of the fragment stage -/

/-- The built-in output of the older dialect. -/
def builtinOutput : List Char := "gl_FragColor".toList

/-- The output that is declared where the newer dialect needs one. -/
def defaultOutput : List Char := "fragmentColor".toList

/-- The name of the output that is declared at the front of a text, and what follows it. -/
def outputDeclaration? (cs : List Char) : Option (List Char × List Char) := do
  let cs ← afterFront? "out".toList cs
  let cs ← afterGap? cs
  let cs ← afterFront? "vec4".toList cs
  let cs ← afterGap? cs
  let (name, cs) ← splitWord? cs
  let cs ← afterChar? ';' (cs.dropWhile isGap)
  some (name, dropLineBreak cs)

/-- A text cut at its first declaration of an output. -/
structure OutputSplit where
  /-- The text before the declaration. -/
  before : List Char
  /-- The name of the output. -/
  name : List Char
  /-- The text after the declaration. -/
  rest : List Char
deriving DecidableEq

/-- Cut a text at the first declaration of an output, given the character before it. -/
def splitOutputFrom? : Option Char → List Char → Option OutputSplit
  | _, [] => none
  | previous, c :: cs =>
    match if startsWord previous then outputDeclaration? (c :: cs) else none with
    | some (name, rest) => some ⟨[], name, rest⟩
    | none => (splitOutputFrom? (some c) cs).map fun s => ⟨c :: s.before, s.name, s.rest⟩

/-- Cut a text at the first declaration of an output. -/
def splitOutput? (cs : List Char) : Option OutputSplit := splitOutputFrom? none cs

/-- Declare the default output in front of the main function. -/
def declareOutput (cs : List Char) : List Char :=
  match splitMain? cs with
  | some m =>
    m.before ++ "out vec4 ".toList ++ defaultOutput ++ ";\n".toList ++ m.header ++ m.body
  | none => cs

/-- Use a declared output in place of the built-in one; where none is declared and the built-in one
is used, the default output is declared. -/
def outputTo300 (cs : List Char) : List Char :=
  match splitOutput? cs with
  | some s => renameWord builtinOutput s.name cs
  | none =>
    renameWord builtinOutput defaultOutput
      (if hasWord builtinOutput cs then declareOutput cs else cs)

/-- Use the built-in output in place of the first declared one, whose declaration is removed. -/
def outputTo100 (cs : List Char) : List Char :=
  match splitOutput? cs with
  | some s => renameWord s.name builtinOutput (s.before ++ s.rest)
  | none => cs

/-! ## Whole stages -/

/-- Convert what all stages share to the newer dialect. -/
def sharedTo300 (cs : List Char) : List Char :=
  substitute sampleTo300 (substitute lodTo300 (versionTo300 cs))

/-- Convert what all stages share to the older dialect. -/
def sharedTo100 (cs : List Char) : List Char :=
  substitute lodTo100 (substitute sampleTo100 (substitute kindLodTo100 (versionTo100 cs)))

/-- Convert a stage to a dialect. -/
def convert (dialect : Dialect) (stage : Stage) (cs : List Char) : List Char :=
  match dialect, stage with
  | .es300, .vertex => changeQualifiers (qualifiersTo300 .vertex) (sharedTo300 cs)
  | .es300, .fragment =>
    outputTo300 (changeQualifiers (qualifiersTo300 .fragment) (sharedTo300 cs))
  | .es100, .vertex => changeQualifiers (qualifiersTo100 .vertex) (sharedTo100 cs)
  | .es100, .fragment =>
    outputTo100 (changeQualifiers (qualifiersTo100 .fragment) (sharedTo100 cs))

/-- Convert a source to a version, both given as values. -/
def transpile (source version : Value) (stage : Stage) : Result String :=
  match source with
  | .text s => do
    match ← Dialect.ofValue? version with
    | some d => .ok (String.ofList (convert d stage s.toList))
    | none => .error (.transpileVersion version)
  | v => .error (.transpileNotText v)

end ShaderLoom.Glsl
