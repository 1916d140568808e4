import ShaderLoom.Stage
import ShaderLoom.Failure
import ShaderLoom.Value.Truth
import ShaderLoom.Text.Search
import ShaderLoom.Text.Case

/-!
# Defines about the shader itself

Every stage defines its type. It also defines its name if the application gives an identifier and
the source does not mention a shader name itself.
-/

namespace ShaderLoom

/-- The word for the stage with a label. -/
def stageWord (label : String) : Answer String :=
  match Stage.ofLabel? label with
  | some s => .ok s.word
  | none => .error .missingKey

/-- The define of the shader's name, if it gets one. -/
def shaderNameDefine (id : Value) (source : List Char) (label : String) : Answer String := do
  let given ← id.truth
  match given, id with
  | true, .text name =>
    if Text.occurs "SHADER_NAME".toList source then .ok ""
    else .ok s!"\n#define SHADER_NAME {name}_{← stageWord label}\n\n"
  | _, _ => .ok ""

/-- The define of the shader's type. -/
def shaderTypeDefine (label : String) : Answer String := do
  let word := String.ofList (Text.upper (← stageWord label).toList)
  .ok s!"\n#define SHADER_TYPE_{word}\n"

end ShaderLoom
