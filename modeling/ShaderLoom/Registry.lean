import ShaderLoom.Module.Basic

/-!
# Registries of modules

A registry holds modules under their names. A module is registered once and never replaced; once a
registry is locked, it takes no more modules.
-/

namespace ShaderLoom

/-- Modules that can be looked up by name. -/
structure Registry where
  /-- The modules in the order of their registration, no two of one name. -/
  modules : List ShaderModule := []
  /-- Whether no more modules are taken. -/
  isLocked : Bool := false

namespace Registry

/-- The module with a name. -/
def find? (r : Registry) (name : String) : Option ShaderModule :=
  r.modules.find? (·.name = name)

theorem mem_of_find? {r : Registry} {name : String} {m : ShaderModule}
    (h : r.find? name = some m) : m ∈ r.modules :=
  List.mem_of_find?_eq_some h

theorem name_of_find? {r : Registry} {name : String} {m : ShaderModule}
    (h : r.find? name = some m) : m.name = name := by
  simpa using List.find?_some h

/-- Whether there is a module with a name. -/
def has (r : Registry) (name : String) : Bool := (r.find? name).isSome

/-- Register a module. -/
def register (r : Registry) (m : ShaderModule) : Result Registry :=
  if r.isLocked then .error .registryLocked
  else if r.has m.name then .error (.alreadyRegistered m.name)
  else .ok { r with modules := r.modules ++ [m] }

theorem find?_register {r s : Registry} {m : ShaderModule} (h : r.register m = .ok s)
    (name : String) : s.find? name = if m.name = name then some m else r.find? name := by
  unfold register at h
  split at h
  · simp at h
  · split at h
    · simp at h
    · next hm =>
      obtain rfl : _ = s := by simpa using h
      simp only [find?, List.find?_append, List.find?_singleton]
      by_cases hn : m.name = name
      · subst hn
        have : r.modules.find? (·.name = m.name) = none := by
          simpa [has, find?] using hm
        simp [this]
      · simp [hn]

/-- Register the module that a value refers to. -/
def registerValue (r : Registry) (catalog : Catalog) (v : Value) :
    Result (ShaderModule × Registry) :=
  match catalog.module? v with
  | some m => (r.register m).map fun r => (m, r)
  | none => .error (.notAModule v)

/-- A registry with the modules that the members of a value refer to. -/
def ofValue (catalog : Catalog) (v : Value) : Result Registry := do
  (← v.members).foldlM (fun r v => do .ok (← r.registerValue catalog v).2) {}

/-- Take no more modules. -/
def lock (r : Registry) : Registry := { r with isLocked := true }

@[simp] theorem register_lock (r : Registry) (m : ShaderModule) :
    r.lock.register m = .error .registryLocked := rfl

/-- The module under a name that is given as a value. -/
def get (r : Registry) (name : Value) : Result ShaderModule :=
  if name.isHashable then
    match name with
    | .text s =>
      match r.find? s with
      | some m => .ok m
      | none => .error (.unresolvedModule name none)
    | _ => .error (.unresolvedModule name none)
  else .error (.fault .unsupported)

/-- Whether there is a module under a name that is given as a value. -/
def holds (r : Registry) (name : Value) : Answer Bool :=
  if name.isHashable then
    match name with
    | .text s => .ok (r.has s)
    | _ => .ok false
  else .error .unsupported

end Registry

end ShaderLoom
