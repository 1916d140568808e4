import ShaderLoom.Registry

/-!
# Resolution of dependencies

Requested modules are brought into an order in which every module comes after the modules that it
depends on, each name once. Modules are requested, and depended on, by reference or by a name that
is looked up in a registry. A depth-first search keeps the path of names that it is on; meeting a
name of the path again is a cycle. The search ends because every step down puts one more of finitely
many names on the path.
-/

namespace ShaderLoom

/-- Where references to modules are looked up. -/
structure Directory where
  /-- All modules that were made. -/
  catalog : Catalog
  /-- The registry for names, if there is one. -/
  registry : Option Registry

namespace Directory

/-- All modules that a reference can lead to. -/
def pool (d : Directory) : List ShaderModule :=
  d.catalog ++ (d.registry.map (·.modules)).getD []

/-- The registered module with a name. -/
def named? (d : Directory) (name : String) : Option ShaderModule :=
  d.registry.bind fun r => r.find? name

/-- The module that a reference of a dependent module, or of a request, leads to. -/
def lookup (d : Directory) (dependent : Option String) (v : Value) : Result ShaderModule :=
  match d.catalog.module? v with
  | some m => .ok m
  | none =>
    match v with
    | .text name =>
      match d.named? name with
      | some m => .ok m
      | none => .error (.unresolvedModule v dependent)
    | _ => .error (.notAModuleOrName v)

theorem mem_pool_of_lookup {d : Directory} {dependent : Option String} {v : Value}
    {m : ShaderModule} (h : d.lookup dependent v = .ok m) : m ∈ d.pool := by
  unfold lookup at h
  split at h
  · next hm =>
    obtain rfl : _ = m := by simpa using h
    cases v with
    | moduleRef r =>
      exact List.mem_append_left _ (List.mem_of_getElem? (by simpa [Catalog.module?] using hm))
    | _ => simp [Catalog.module?] at hm
  · split at h
    · split at h
      · next hn =>
        obtain rfl : _ = m := by simpa using h
        obtain ⟨r, hr, hf⟩ := Option.bind_eq_some_iff.1 hn
        refine List.mem_append_right _ ?_
        simpa [hr] using Registry.mem_of_find? hf
      · simp at h
    · simp at h

end Directory

namespace Resolution

/-- How many modules of the pool have a name that is not on the path. -/
def openCount (d : Directory) (path : List String) : Nat :=
  d.pool.countP fun m => decide (m.name ∉ path)

theorem openCount_lt {d : Directory} {path : List String} {m : ShaderModule}
    (hm : m ∈ d.pool) (hp : m.name ∉ path) :
    openCount d (path ++ [m.name]) < openCount d path := by
  unfold openCount
  generalize d.pool = us at hm
  induction us with
  | nil => simp at hm
  | cons u us ih =>
    have hle : us.countP (fun x => decide (x.name ∉ path ++ [m.name])) ≤
        us.countP (fun x => decide (x.name ∉ path)) := by
      refine List.countP_mono_left fun x _ hx => ?_
      simp only [List.mem_append, not_or, decide_eq_true_eq] at hx ⊢
      exact hx.1
    rcases List.mem_cons.1 hm with rfl | hm
    · have h1 : decide (m.name ∉ path ++ [m.name]) = false := by simp
      have h2 : decide (m.name ∉ path) = true := by simpa using hp
      simp only [List.countP_cons, h1, h2]
      simpa using Nat.lt_succ_of_le hle
    · have hlt := ih hm
      simp only [List.countP_cons]
      by_cases hu : u.name ∉ path ++ [m.name]
      · have hu' : u.name ∉ path := fun h => hu (List.mem_append_left _ h)
        simpa [hu, hu'] using hlt
      · have h1 : decide (u.name ∉ path ++ [m.name]) = false := by simpa using hu
        simp only [h1, Bool.false_eq_true, if_false]
        omega

/-- The part of the path from a name on, closed by the name. -/
def cycleAt (name : String) (path : List String) : List String :=
  path.dropWhile (· ≠ name) ++ [name]

@[simp] theorem getLast?_cycleAt (name : String) (path : List String) :
    (cycleAt name path).getLast? = some name := by
  simp [cycleAt]

theorem head?_cycleAt {name : String} {path : List String} (h : name ∈ path) :
    (cycleAt name path).head? = some name := by
  induction path with
  | nil => simp at h
  | cons n ns ih =>
    by_cases hn : n = name
    · simp [cycleAt, hn]
    · have := ih (by simpa [Ne.symm hn] using h)
      simpa [cycleAt, hn] using this

mutual

/-- Put a module after the modules it depends on, unless its name is among the finished ones. -/
def visit (d : Directory) (path : List String) (done : List ShaderModule)
    (m : { m : ShaderModule // m ∈ d.pool }) : Result (List ShaderModule) :=
  if done.any (·.name = m.val.name) then .ok done
  else if _h : m.val.name ∈ path then .error (.cyclicDependency (cycleAt m.val.name path))
  else
    match visitAll d (path ++ [m.val.name]) (some m.val.name) m.val.dependencies done with
    | .ok done => .ok (done ++ [m.val])
    | .error e => .error e
termination_by (openCount d path, 0)
decreasing_by exact Prod.Lex.left _ _ (openCount_lt m.property _h)

/-- Visit the modules that references lead to, one after the other. -/
def visitAll (d : Directory) (path : List String) (dependent : Option String)
    (references : List Value) (done : List ShaderModule) : Result (List ShaderModule) :=
  match references with
  | [] => .ok done
  | v :: vs =>
    match h : d.lookup dependent v with
    | .error e => .error e
    | .ok m =>
      match visit d path done ⟨m, Directory.mem_pool_of_lookup h⟩ with
      | .ok done => visitAll d path dependent vs done
      | .error e => .error e
termination_by (openCount d path, references.length + 1)
decreasing_by
  · exact Prod.Lex.right _ (Nat.succ_pos _)
  · exact Prod.Lex.right _ (by simp)

end

end Resolution

/-- Bring requested modules and all modules they depend on into an order in which dependencies come
first. -/
def resolve (d : Directory) (requests : List Value) : Result (List ShaderModule) :=
  Resolution.visitAll d [] none requests []

/-- Resolve requests that are given as a value. -/
def resolveValue (d : Directory) (requests : Value) : Result (List ShaderModule) := do
  resolve d (← requests.members)

end ShaderLoom
