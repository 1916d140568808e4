import ShaderLoom.Module.Basic
import ShaderLoom.Value.Entries

/-!
# Uniforms of several modules

The uniforms of modules are computed one module after the other. Each module sees a copy of the
union of the uniforms of the modules before it, where later values override earlier ones; what a
module does to the copy has no effect.
-/

namespace ShaderLoom

section Loop

variable {μ : Type → Type} [Monad μ] (evaluate : ShaderModule → Entries → μ Entries)

/-- Evaluate a module on the union of what the modules before it gave, and add what it gives. -/
def extendUniforms (before : Entries) (m : ShaderModule) : μ Entries := do
  let returned ← evaluate m before
  return before.putAll returned

/-- Unite what modules give, one module after the other. -/
def uniteUniforms (modules : List ShaderModule) : μ Entries :=
  modules.foldlM (extendUniforms evaluate) []

end Loop

/-- The uniforms that a module gives for some options, on a copy of those of earlier modules. -/
def ShaderModule.uniformEntries (options : Value) (m : ShaderModule) (before : Entries) :
    Result Entries := do
  let computed ← m.computeUniforms options (.map .plain before)
  .ok (← computed.entriesOf)

/-- The union of the uniforms of modules for some options. -/
def combineUniforms (modules : List ShaderModule) (options : Value) : Result Entries := do
  let options ← options.orElse (.map .plain [])
  uniteUniforms (ShaderModule.uniformEntries options) modules

@[simp] theorem combineUniforms_nil (options : Entries) :
    combineUniforms [] (.map .plain options) = .ok [] := by
  cases options <;> rfl

end ShaderLoom
