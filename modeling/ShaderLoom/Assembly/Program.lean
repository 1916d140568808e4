import ShaderLoom.Assembly.Stage
import ShaderLoom.Cache.Shelf
import ShaderLoom.Module.UniformUnion
import ShaderLoom.Resolution
import ShaderLoom.Value.KeyText

/-!
# Programs

A program consists of two stages. Everything that is asked for is read and checked before any code
is made; what was read determines a key, by which a program that is still in use is found again.
The key keeps the order of defines and of injections, on which the code depends.
-/

namespace ShaderLoom

/-- A program that was put together. -/
structure Program where
  /-- The code of the vertex stage. -/
  vertex : String
  /-- The code of the fragment stage. -/
  fragment : String
  /-- The modules of the program, dependencies first. -/
  modules : List ShaderModule

namespace Program

/-- The uniforms of the program for some options. -/
def uniforms (p : Program) (options : Value) : Result Entries :=
  combineUniforms p.modules options

/-- The text that messages show for a program. -/
def inspect (p : Program) : String :=
  joinTexts "" ["<AssembledShaders with modules [", joinTexts ", " (p.modules.map (·.name)),
    "] at 0xADDR>"]

end Program

/-- What is asked for when a program is put together. -/
structure Request where
  vertex : Value
  fragment : Value
  id : Value
  modules : Value
  defines : Value
  hooks : Value
  inject : Value
  toOldest : Value
  hasPrologue : Value

namespace Request

/-- The names of the options, with the values of those that may be left out. -/
def defaults : List (String × Option Value) :=
  [("vs", none), ("fs", none), ("id", some .null), ("modules", some (.tuple [])),
    ("defines", some .null), ("hook_functions", some (.tuple [])), ("inject", some .null),
    ("transpile_to_oldest_version", some (.bool false)), ("prologue", some (.bool true))]

/-- The value of an option. -/
def option (options : List (String × Value)) (name : String) : Answer Value :=
  match (options.lookup name).or ((defaults.lookup name).getD none) with
  | some v => .ok v
  | none => .error .unsupported

/-- Read a request from options by name, all of which have to be known. -/
def ofOptions (options : List (String × Value)) : Answer Request := do
  if options.all fun e => (defaults.lookup e.1).isSome then
    .ok {
      vertex := ← option options "vs"
      fragment := ← option options "fs"
      id := ← option options "id"
      modules := ← option options "modules"
      defines := ← option options "defines"
      hooks := ← option options "hook_functions"
      inject := ← option options "inject"
      toOldest := ← option options "transpile_to_oldest_version"
      hasPrologue := ← option options "prologue" }
  else .error .unsupported

/-- The entries of a map as a list of pairs. -/
def itemsOf (v : Value) : Answer Value := do
  .ok (.list ((← ShaderModule.optionalEntries v).map fun e => .tuple [e.1, e.2]))

/-- The text that a program for this request is found by again. -/
def key (r : Request) (modules : List ShaderModule) : Answer String := do
  let defines ← itemsOf r.defines
  let hooks ← (← r.hooks.orElse (.tuple [])).members
  let inject ← itemsOf r.inject
  let toOldest ← r.toOldest.truth
  let hasPrologue ← r.hasPrologue.truth
  Value.keyText (.list [r.vertex, r.fragment, r.id, .list (modules.map (·.toValue)), defines,
    .list hooks, inject, .bool toOldest, .bool hasPrologue])

end Request

/-- What was read from a request. -/
structure Plan where
  /-- The modules, dependencies first. -/
  modules : List ShaderModule
  /-- The injections of the application. -/
  injections : List Injection
  /-- The hooks of both stages. -/
  hooks : List Hook
  /-- The text that the program is found by again. -/
  key : String

namespace Assembler

/-- Note down where sources use old names of modules. -/
def noteOldNames (modules : List ShaderModule) (source : List Char) : Work Unit :=
  modules.forM fun m => do Work.noteNotices (← m.notices source)

/-- Read a request; if asked for, uses of old names are noted down. -/
def plan (a : Assembler) (catalog : Catalog) (check : Bool) (r : Request) : Work Plan := do
  let vertex ← Glsl.VersionedSource.ofValue r.vertex
  let fragment ← Glsl.VersionedSource.ofValue r.fragment
  let modules ← resolveValue ⟨catalog, a.registry⟩ (← r.modules.orElse (.tuple []))
  let injections ← Injection.ofApplication r.inject
  let hooks ← Hook.ofDeclarations r.hooks
  if check then noteOldNames modules (vertex.body ++ '\n' :: fragment.body)
  let key ← r.key modules
  return ⟨modules, injections, hooks, key⟩

/-- What a stage is put together from. -/
def stageRequest (r : Request) (p : Plan) (stage : Stage) : StageRequest where
  modules := p.modules
  id := r.id
  defines := r.defines
  injections := p.injections
  hooks := Hook.forStage p.hooks stage
  toOldest := r.toOldest
  hasPrologue := r.hasPrologue

/-- Put both stages together. -/
def build (a : Assembler) (r : Request) (p : Plan) : Work Program := do
  let vertex ← a.assembleStage .vertex r.vertex (stageRequest r p .vertex)
  let fragment ← a.assembleStage .fragment r.fragment (stageRequest r p .fragment)
  return ⟨vertex, fragment, p.modules⟩

/-- Put a program together. -/
def assemble (a : Assembler) (catalog : Catalog) (check : Bool) (r : Request) : Work Program := do
  let p ← a.plan catalog check r
  a.build r p

/-- Put a program together, or find it in the cache of a shelf. -/
def assembleCached (a : Assembler) (catalog : Catalog) (check : Bool) (r : Request)
    (shelf : Shelf Program) (journal : Journal) :
    Result (Shared Program) × Shelf Program × Journal :=
  match (a.plan catalog check r).run.run journal with
  | (.error e, journal) => (.error e, shelf, journal)
  | (.ok p, journal) =>
    match shelf.cache.get (.text p.key) with
    | (some o, cache) => (.ok o, { shelf with cache }, journal)
    | (none, cache) =>
      match (a.build r p).run.run journal with
      | (.error e, journal) => (.error e, { shelf with cache }, journal)
      | (.ok program, journal) =>
        let (o, shelf) := Shelf.make { shelf with cache } program
        (.ok o, shelf.withCache (·.set (.text p.key) o), journal)

end Assembler

end ShaderLoom
