import ShaderLoom.Stage
import ShaderLoom.Failure
import ShaderLoom.Text.WordChar
import ShaderLoom.Text.Blank

/-!
# Injection keys

The key of an injection says where its code goes: `vs:name` and `fs:name` into the body of a hook
function, `vs:#decl` and `fs:#decl` among the declarations, `vs:#place` and `fs:#place` to a place
in the body of the shader, and any other text after its first occurrence in either stage.
-/

namespace ShaderLoom

open Text

/-- Where the code of an injection goes. -/
inductive Target where
  /-- Into the body of the hook function with this name. -/
  | hook (stage : Stage) (name : String)
  /-- Among the global declarations. -/
  | declarations (stage : Stage)
  /-- To a named place in the body of the shader. -/
  | place (stage : Stage) (name : String)
  /-- After the first occurrence of a text. -/
  | pattern (text : String)
deriving DecidableEq

namespace Target

/-- The stage that is targeted; a pattern targets both. -/
def stage? : Target → Option Stage
  | .hook s _ => some s
  | .declarations s => some s
  | .place s _ => some s
  | .pattern _ => none

/-- The name of what is targeted. -/
def name : Target → String
  | .hook _ n => n
  | .declarations _ => "decl"
  | .place _ n => n
  | .pattern t => t

/-- The word for the kind of the target. -/
def kindName : Target → String
  | .hook _ _ => "hook"
  | .declarations _ => "decl"
  | .place _ _ => "main"
  | .pattern _ => "pattern"

/-- Whether code for this target goes into the given stage. -/
def appliesTo (t : Target) (s : Stage) : Bool :=
  match t.stage? with
  | some t => t = s
  | none => true

@[simp] theorem appliesTo_pattern (text : String) (s : Stage) :
    (Target.pattern text).appliesTo s = true := rfl

end Target

/-- Whether the character can stand in the name of a hook or of a place. -/
def isNameChar (c : Char) : Bool := isWordChar c || c = '-'

/-- The stage that a key starts with, and what follows the colon. -/
def splitStage? : List Char → Option (Stage × List Char)
  | 'v' :: 's' :: ':' :: rest => some (.vertex, rest)
  | 'f' :: 's' :: ':' :: rest => some (.fragment, rest)
  | _ => none

/-- The name that makes up a whole text, up to one line break at the very end. -/
def wholeName? (cs : List Char) : Option (List Char) :=
  let name := cs.takeWhile isNameChar
  let rest := cs.dropWhile isNameChar
  if name ≠ [] ∧ (rest = [] ∨ rest = ['\n']) then some name else none

/-- What a key of a stage targets, given what follows the colon. -/
def stageTarget? (stage : Stage) : List Char → Option Target
  | '#' :: cs =>
    (wholeName? cs).map fun name =>
      let name := String.ofList name
      if name = "decl" then .declarations stage else .place stage name
  | cs => (wholeName? cs).map fun name => .hook stage (String.ofList name)

/-- Read an injection key. -/
def Target.parse (key : String) : Except KeyFault Target :=
  if isBlankText key.toList then .error .blank
  else
    match splitStage? key.toList with
    | some (stage, rest) =>
      match stageTarget? stage rest with
      | some target => .ok target
      | none => .error .malformed
    | none => .ok (.pattern key)

/-- Read an injection key that is given as a value. -/
def Target.ofValue (key : Value) : Result (String × Target) :=
  match key with
  | .text s =>
    match Target.parse s with
    | .ok t => .ok (s, t)
    | .error why => .error (.injectionKey key why)
  | _ => .error (.injectionKey key .blank)

end ShaderLoom
