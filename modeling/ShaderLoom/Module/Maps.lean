import ShaderLoom.Module.Basic

/-!
# The maps of a module

A module shows its defines and its injections as sealed maps. The injections are two maps, one for
each stage, which a third map holds under the labels of the stages. Users can try to set attributes
of the module and to apply the operations of a map to one of these maps. The maps are shown as they
are, not as copies, so that whatever becomes of them becomes of the module.
-/

namespace ShaderLoom

/-- Where a module shows a map. -/
inductive MapPlace where
  | defines
  /-- The map that holds the injections of each stage. -/
  | stages
  /-- The injections into a stage. -/
  | stage (s : Stage)
deriving DecidableEq

/-- The maps of a module at some time after it was made. -/
structure ModuleMaps where
  /-- The defines. -/
  defines : SealedMap
  /-- The injections into each stage by their keys. -/
  stage : Stage → SealedMap
  /-- The entries that were put into the map of the stages since it was made. -/
  added : Entries
  /-- The digest that the map of the stages had when it was made. -/
  stagesDigest : Digest

namespace ModuleMaps

/-- The entries of the map of the stages that hold the module's own maps. -/
def ownStages (maps : ModuleMaps) : Entries :=
  [Stage.vertex, Stage.fragment].map fun s => (.text s.label, (maps.stage s).toValue)

/-- The map at a place. The map of the stages does not copy the maps of the stages, and so it shows
what has become of them. -/
def mapAt (maps : ModuleMaps) : MapPlace → SealedMap
  | .defines => maps.defines
  | .stages => ⟨Entries.putAll maps.ownStages maps.added, maps.stagesDigest⟩
  | .stage s => maps.stage s

end ModuleMaps

namespace ShaderModule

/-- The maps of a module that was just made. -/
def maps (m : ShaderModule) : Answer ModuleMaps := do
  let vertex ← SealedMap.ofEntries (m.injectionEntries .vertex)
  let fragment ← SealedMap.ofEntries (m.injectionEntries .fragment)
  let stage : Stage → SealedMap
    | .vertex => vertex
    | .fragment => fragment
  let stages ← SealedMap.ofEntries
    [(.text Stage.vertex.label, vertex.toValue), (.text Stage.fragment.label, fragment.toValue)]
  .ok ⟨m.defines, stage, [], stages.digest⟩

/-- The attributes that can only be read. -/
def fixedAttributes : List String := ["name", "dependencies", "defines", "injections", "uniforms"]

/-- Whether an attribute is for users; an underscore in front makes it the module's own affair. -/
def isPublic (name : String) : Bool := name.toList.head? ≠ some '_'

/-- Set a public attribute. Those that cannot only be read are new and mean nothing to the module. -/
def assign (name : String) : Answer Unit :=
  if fixedAttributes.contains name then .error .missingAttribute else .ok ()

end ShaderModule

namespace ModuleMaps

/-- What users can do to a module and its maps. -/
inductive Operation where
  /-- Set an attribute of the module. -/
  | assign (name : String) (hpublic : ShaderModule.isPublic name = true)
  /-- Apply an operation to the map at a place. -/
  | apply (place : MapPlace) (op : SealedMap.Operation)

/-- The result of an operation, and the maps after it. -/
def perform (maps : ModuleMaps) : Operation → Answer Value × ModuleMaps
  | .assign name _ => ((ShaderModule.assign name).map fun _ => .null, maps)
  | .apply .defines op =>
    let applied := maps.defines.apply op
    (applied.1, { maps with defines := applied.2 })
  | .apply .stages op =>
    (((maps.mapAt .stages).apply op).1, { maps with added := maps.added ++ op.brings })
  | .apply (.stage s) op =>
    let applied := (maps.stage s).apply op
    (applied.1, { maps with stage := fun t => if t = s then applied.2 else maps.stage t })

/-- The maps after some operations, those that fail included. -/
def run (maps : ModuleMaps) (ops : List Operation) : ModuleMaps :=
  ops.foldl (fun maps op => (maps.perform op).2) maps

end ModuleMaps

end ShaderLoom
