import ShaderLoom.Assembly.Basic
import ShaderLoom.Defines
import ShaderLoom.Glsl.VersionLine
import ShaderLoom.Header
import ShaderLoom.Hook.Code
import ShaderLoom.Injection.Splice

/-!
# The layout of a stage

The code of a stage is its version line, the prologue, the code of the modules, the declarations
that are injected, the hook functions and the body. Declarations are spliced in before the hook
functions and the body are there; the other injections are spliced in at the end, with the version
line out of their reach.
-/

namespace ShaderLoom

/-- What a stage is put together from, apart from its source. -/
structure StageRequest where
  /-- The modules, dependencies first. -/
  modules : List ShaderModule
  /-- The identifier of the program. -/
  id : Value := .null
  /-- The defines of the application. -/
  defines : Value := .null
  /-- The injections of the application. -/
  injections : List Injection := []
  /-- The hooks of the stage. -/
  hooks : List Hook := []
  /-- Whether the code is converted to the oldest version. -/
  toOldest : Value := .bool false
  /-- Whether the code gets a prologue. -/
  hasPrologue : Value := .bool true

/-- The precision of the stage: the fragment stage has to declare one. -/
def precisionOf : Stage → String
  | .vertex => ""
  | .fragment => "precision highp float;\n\n"

/-- What is written between the code of the modules and the hook functions. -/
def declarationSection : List Char := "\n\n".toList ++ declarationMarker ++ "\n\n".toList

namespace Assembler

/-- The prologue of a stage with merged defines. -/
def prologue (a : Assembler) (stage : Stage) (source : String) (id : Value) (defines : Entries) :
    Result String := do
  let name ← shaderNameDefine id source.toList stage.label
  let type ← shaderTypeDefine stage.label
  let application ← Defines.code defines
  let text ← Template.composePackaged a.surroundings "prologue.glsl"
    [("shader_name", .text name), ("shader_type", .text type),
      ("platform_defines", a.platformDefines a.platform),
      ("version_defines", a.versionDefines a.platform),
      ("application_defines", .text application), ("precision", .text (precisionOf stage))]
  .ok (text ++ "\n")

/-- The code of modules for a stage, one after the other. -/
def moduleCode (a : Assembler) (stage : Stage) (version : Nat) (modules : List ShaderModule) :
    Result String := do
  let parts ← modules.mapM fun m => m.code a.surroundings stage (.int version)
  .ok (joinTexts "" parts)

/-- Splice buckets into code, noting down those whose target is not found. -/
def splice (stage : Stage) (buckets : List Bucket) (code : List Char) : Work (List Char) := do
  let (missed, outcome) := Splice.run stage.label buckets code
  Work.noteMissed (missed.map (Splice.missedMessage stage.label))
  let code ← (outcome : Result (List Char))
  return code

/-- Convert finished code to a version. -/
def finish (a : Assembler) (stage : Stage) (version : Nat) (code : String) : Work String := do
  Work.noteConversion version stage
  a.convert code version stage

/-- The version that code is converted to. -/
def targetVersion (toOldest : Value) (version : Nat) : Answer Nat := do
  .ok (if ← toOldest.truth then Glsl.oldestVersion else version)

/-- The code of a stage. -/
def assembleStage (a : Assembler) (stage : Stage) (source : Value) (r : StageRequest) :
    Work String := do
  let parts ← Glsl.VersionedSource.ofValue source
  let defines ← Defines.merge r.modules r.defines
  let head ←
    if ← r.hasPrologue.truth then
      a.prologue stage ((source.text?).getD "") r.id defines
    else pure ""
  let slots := Slots.classify stage r.injections r.modules
  let modules ← a.moduleCode stage parts.version r.modules
  let declared ← splice stage slots.declarations
    (head.toList ++ modules.toList ++ declarationSection)
  let hooks ← Hook.codeAll r.hooks slots.hooks
  let spliced ← splice stage slots.body (declared ++ hooks ++ parts.body)
  let version ← targetVersion r.toOldest parts.version
  a.finish stage version (String.ofList (parts.versionLine ++ '\n' :: spliced))

/-- The code of the stage that is given as a value. -/
def assembleStageFor (a : Assembler) (stage source : Value) (r : StageRequest) : Work String :=
  match stage.text?.bind Stage.ofLabel? with
  | some stage => a.assembleStage stage source r
  | none => throw (.unknownStage stage)

end Assembler

end ShaderLoom
