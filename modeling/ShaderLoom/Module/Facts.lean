import ShaderLoom.Module.Basic
import ShaderLoom.Template.Attribute

/-!
# What modules say about themselves

Templates can ask a shader module for its name, its dependencies, its defines, the names of its
uniforms and its injections. What a module gives away cannot be changed.
-/

namespace ShaderLoom

namespace ShaderModule

/-- The map of the injections into a stage. -/
def injectionMap (m : ShaderModule) (stage : Stage) : Value :=
  .map .sealed (m.injectionEntries stage)

/-- What a module says under a name. -/
def attribute? (m : ShaderModule) (name : String) : Option Value :=
  match name with
  | "name" => some (.text m.name)
  | "dependencies" => some (.tuple m.dependencies)
  | "defines" => some m.defines.toValue
  | "uniforms" => some (.tuple (m.uniforms.map (·.name)))
  | "injections" =>
    let stages := [Stage.vertex, Stage.fragment]
    some (.map .sealed (stages.map fun s => (Value.text s.label, m.injectionMap s)))
  | _ => none

end ShaderModule

/-- What the modules of a catalog say about themselves. -/
def Catalog.facts (catalog : Catalog) : Template.ModuleFacts := fun m name =>
  match catalog[m.id]? with
  | some m => m.attribute? name
  | none => Template.ModuleFacts.nameOnly m name

theorem Catalog.facts_nil : Catalog.facts [] = Template.ModuleFacts.nameOnly := rfl

end ShaderLoom
