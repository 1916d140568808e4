import ShaderLoom.Module.Basic
import ShaderLoom.Template.Snippet
import ShaderLoom.Text.Case

/-!
# The code of a module

The code that a module has for a stage is a template or is generated. It is headed by a macro that
tells other code that the module is there, and ends with a remark. The macro is made of the upper
case of the module's name, in which all but letters and digits are replaced.
-/

namespace ShaderLoom

open Text

/-- Whether a character may be part of the macro of a module: an unaccented letter or a digit. -/
def isMacroChar (c : Char) : Bool :=
  ('0' ≤ c && c ≤ '9') || ('a' ≤ c && c ≤ 'z') || ('A' ≤ c && c ≤ 'Z')

/-- The part of the macro that a module's name is turned into. -/
def macroOfName (name : List Char) : List Char :=
  (upper name).map fun c => if isMacroChar c then c else '_'

namespace ShaderModule

/-- The macro that says that a module is there. -/
def presenceMacro (m : ShaderModule) : String :=
  "MODULE_" ++ String.ofList (macroOfName m.name.toList)

/-- Code with a line break at its end; code that counts as false is printed as it is. -/
def withLineBreak (code : Value) : Answer String := do
  if ← code.truth then
    match code with
    | .text s => .ok (if endsWith '\n' s.toList then s else s ++ "\n")
    | _ => .error .missingAttribute
  else code.display

/-- The variables of a module's templates. -/
def templateVariables (m : ShaderModule) (stage : Stage) (version : Value) :
    List (String × Value) :=
  [("glsl_version", version), ("stage", .text stage.label), ("defines", m.defines.toValue)]

/-- The code of a module for a stage and a version of the language, without heading and remark. -/
def bareCode (m : ShaderModule) (surroundings : Template.Surroundings) (stage : Stage)
    (version : Value) : Result Value :=
  match m.source stage with
  | .absent => .ok (.text "")
  | .generated f => do .ok (← f version)
  | .template code =>
    (Template.compose surroundings code s!"module '{m.name}' ({stage.label})"
      (m.templateVariables stage version)).map .text

/-- The code of a module for a stage and a version of the language. -/
def code (m : ShaderModule) (surroundings : Template.Surroundings) (stage : Stage)
    (version : Value) : Result String := do
  let bare ← m.bareCode surroundings stage version
  let body ← withLineBreak bare
  .ok (joinTexts "" ["#define ", m.presenceMacro, "\n", body, "// END MODULE_", m.name, "\n\n"])

/-- The code of a module for a stage that is given as a value. -/
def codeFor (m : ShaderModule) (surroundings : Template.Surroundings) (stage version : Value) :
    Result String :=
  match stage with
  | .text s =>
    match Stage.ofLabel? s with
    | some stage => m.code surroundings stage version
    | none => .error (.unknownStage (.text s))
  | v => .error (.unknownStage v)

end ShaderModule

end ShaderLoom
