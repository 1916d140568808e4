import ShaderLoom.Injection.Basic
import ShaderLoom.Module.Uniform
import ShaderLoom.Module.Deprecation
import ShaderLoom.Module.SealedMap

/-!
# Shader modules

A shader module bundles code for the stages with defines, injections and uniforms, and names the
modules it depends on. Modules are made from a declaration of dynamic values, which is checked once;
afterwards a module does not change.
-/

namespace ShaderLoom

/-- What a function that was handed in does. -/
structure Behaviour where
  /-- The code for a version of the shading language. -/
  source : Value → Answer Value
  /-- The uniforms for some options and the uniforms of earlier modules; the second result is what
  has become of the latter. -/
  uniforms : Value → Value → Answer (Value × Value)

/-- The functions that were handed in. -/
abbrev Functions := FunctionRef → Behaviour

/-- The code of a module for one stage. -/
inductive Source where
  | absent
  /-- A template. -/
  | template (code : String)
  /-- A function of the version of the shading language. -/
  | generated (f : Value → Answer Value)

/-- What a module is declared with; absent parts have their defaults. -/
structure ModuleDeclaration where
  name : Value
  vertex : Value := .null
  fragment : Value := .null
  dependencies : Value := .tuple []
  defines : Value := .null
  inject : Value := .null
  uniforms : Value := .null
  driver : Value := .null
  deprecations : Value := .tuple []

/-- A shader module. -/
structure ShaderModule where
  /-- The identity and the name. -/
  ref : ModuleRef
  /-- The code for the vertex stage. -/
  vertex : Source
  /-- The code for the fragment stage. -/
  fragment : Source
  /-- The modules that have to come first, by reference or by name. -/
  dependencies : List Value
  /-- The defines that the module contributes. -/
  defines : SealedMap
  /-- The injections into the vertex stage, in the sequence of their keys. -/
  vertexInjections : List Injection
  /-- The injections into the fragment stage, in the sequence of their keys. -/
  fragmentInjections : List Injection
  /-- The declared uniforms. -/
  uniforms : List Uniform
  /-- What replaces the default computation of uniforms. -/
  driver : Option (Value → Value → Answer (Value × Value))
  /-- The names that are no longer to be used. -/
  deprecations : List Deprecation

namespace ShaderModule

/-- The name of a module. -/
def name (m : ShaderModule) : String := m.ref.name

/-- The module as a value. -/
def toValue (m : ShaderModule) : Value := .moduleRef m.ref

/-- The code for a stage. -/
def source (m : ShaderModule) : Stage → Source
  | .vertex => m.vertex
  | .fragment => m.fragment

/-- The injections into a stage. -/
def injections (m : ShaderModule) : Stage → List Injection
  | .vertex => m.vertexInjections
  | .fragment => m.fragmentInjections

/-- The injections into a stage by their keys. -/
def injectionEntries (m : ShaderModule) (stage : Stage) : Entries :=
  (m.injections stage).map fun i => (.text i.key, i.toValue)

/-- Read the code for a stage. -/
def readSource (functions : Functions) (moduleName : String) : Value → Result Source
  | .null => .ok .absent
  | .text code => .ok (.template code)
  | .functionRef f => .ok (.generated (functions f).source)
  | _ => .error (.moduleSource moduleName)

/-- The entries of a map that may be left out by giving a value that counts as false. -/
def optionalEntries (v : Value) : Answer Entries := do
  if ← v.truth then
    match v with
    | .map _ es => .ok es
    | _ => .error .missingAttribute
  else .ok []

/-- Make the injection of a module, which has to target a stage. -/
def createInjection (moduleName : String) (key value : Value) : Result Injection :=
  match key with
  | .text s =>
    match splitStage? s.toList with
    | some _ => Injection.create key value
    | none => .error (.injectionKey key (.noStage moduleName))
  | _ => .error (.injectionKey key (.noStage moduleName))

/-- Make a module from a declaration. -/
def create (functions : Functions) (id : Nat) (d : ModuleDeclaration) : Result ShaderModule := do
  let name ←
    match d.name with
    | .text s => if s = "" then .error .moduleName else (.ok s : Result String)
    | _ => .error .moduleName
  let vertex ← readSource functions name d.vertex
  let fragment ← readSource functions name d.fragment
  let driver ←
    match d.driver with
    | .null => (.ok none : Result (Option (Value → Value → Answer (Value × Value))))
    | .functionRef f => .ok (some (functions f).uniforms)
    | _ => .error (.moduleUniforms name)
  let dependencies ← d.dependencies.members
  let defines ← (do
    if ← d.defines.truth then SealedMap.ofValue d.defines else SealedMap.ofEntries [] :
      Answer SealedMap)
  let injections ← (← optionalEntries d.inject).mapM fun e => createInjection name e.1 e.2
  let uniforms ← (← optionalEntries d.uniforms).mapM fun e => Uniform.declare e.1 e.2
  let deprecations ← (do (← d.deprecations.members).mapM Deprecation.ofValue :
    Answer (List Deprecation))
  .ok
    { ref := ⟨id, name⟩
      vertex, fragment, dependencies, defines
      vertexInjections := injections.filter (·.target.stage? = some .vertex)
      fragmentInjections := injections.filter (·.target.stage? = some .fragment)
      uniforms, driver, deprecations }

/-- The notices about uses of old names in a source. -/
def notices (m : ShaderModule) (source : List Char) : Answer (List Notice) :=
  (m.deprecations.filter fun d => d.usedFrom none source).mapM fun d => d.notice m.name

/-- The value that a declared uniform gets from the options: the given value if there is one and the
uniform is not private, and the default value otherwise. -/
def uniformValue (m : ShaderModule) (options : Value) (u : Uniform) : Result Value := do
  if (← options.holds u.name) && !u.isPrivate then
    u.validate m.name (← options.item u.name)
  else .ok u.value

/-- Evaluate the uniforms of a module for some options, given the uniforms of earlier modules; the
second result is what has become of the map of the latter. -/
def evaluateUniforms (m : ShaderModule) (options previous : Value) : Result (Value × Value) := do
  let options ← options.orElse (.map .plain [])
  let previous ← previous.orElse (.map .plain [])
  match m.driver with
  | some f => f options previous
  | none => do
    let entries ← m.uniforms.mapM fun u => do .ok (u.name, ← m.uniformValue options u)
    .ok (.map .plain entries, previous)

/-- Compute the uniforms of a module for some options, given the uniforms of earlier modules. -/
def computeUniforms (m : ShaderModule) (options previous : Value) : Result Value := do
  let (computed, _) ← m.evaluateUniforms options previous
  .ok computed

end ShaderModule

/-- All modules that were made; the identity of a module is its position. -/
abbrev Catalog := List ShaderModule

namespace Catalog

/-- The module that a value refers to. -/
def module? (modules : Catalog) : Value → Option ShaderModule
  | .moduleRef m => modules[m.id]?
  | _ => none

/-- Make a module and put it at the end. -/
def create (c : Catalog) (functions : Functions) (d : ModuleDeclaration) :
    Result (ShaderModule × Catalog) := do
  let m ← ShaderModule.create functions c.length d
  .ok (m, c ++ [m])

/-- The modules that values refer to. -/
def modules (c : Catalog) (vs : List Value) : Answer (List ShaderModule) :=
  vs.mapM fun v =>
    match c.module? v with
    | some m => .ok m
    | none => .error .missingAttribute

end Catalog

end ShaderLoom
