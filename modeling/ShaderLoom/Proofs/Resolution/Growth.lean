import ShaderLoom.Proofs.Outcome
import ShaderLoom.Proofs.Resolution.Reach

/-!
# Resolution while a registry grows

A registry in use is a machine: modules are made and registered, the registry is locked, asked for
names and gone through, and each of these operations may fail. No operation takes a module away or
puts another one under its name (`Stock.extends_perform`), so a lookup that leads to a module leads
to the same module ever after. The search of resolution sees a registry through lookups only;
following it in two directories, of which the second one extends the first, shows that an order that
was found stays the order that is found.
-/

namespace ShaderLoom

/-! ## A registry in use -/

/-- What has become of going through a registry. -/
inductive Walk where
  /-- The number of modules at the start, and how many of them were given. -/
  | underway (size given : ℕ)
  /-- The number of modules had changed in between. -/
  | stale
  | finished

/-- What an operation on a registry gives. -/
inductive Reply where
  | nothing
  | module (m : ShaderModule)
  | truth (b : Bool)
  /-- A new walk, by its number. -/
  | walk (number : ℕ)
  /-- There are no more modules. -/
  | exhausted

/-- The next module of a walk through some modules. -/
def Walk.next (modules : List ShaderModule) : Walk → Result Reply × Walk
  | .underway size given =>
    if modules.length = size then
      match modules[given]? with
      | some m => (.ok (.module m), .underway size (given + 1))
      | none => (.ok .exhausted, .finished)
    else (.error (.fault .changedMap), .stale)
  | .stale => (.error (.fault .changedMap), .stale)
  | .finished => (.ok .exhausted, .finished)

/-- A registry with the modules that were made so far and the walks that were started. -/
structure Stock where
  catalog : Catalog := []
  registry : Registry := {}
  walks : List Walk := []

/-- An operation on a registry, or the making of a module. -/
inductive Operation where
  | make (functions : Functions) (declaration : ModuleDeclaration)
  | register (v : Value)
  | lock
  | get (name : Value)
  | holds (name : Value)
  | walk
  | next (number : ℕ)

namespace Stock

/-- What an operation gives, and the stock after it. -/
def perform (s : Stock) : Operation → Result Reply × Stock
  | .make functions declaration =>
    match s.catalog.create functions declaration with
    | .ok (m, catalog) => (.ok (.module m), { s with catalog })
    | .error e => (.error e, s)
  | .register v =>
    match s.registry.registerValue s.catalog v with
    | .ok (m, registry) => (.ok (.module m), { s with registry })
    | .error e => (.error e, s)
  | .lock => (.ok .nothing, { s with registry := s.registry.lock })
  | .get name => ((s.registry.get name).map .module, s)
  | .holds name => ((liftM (s.registry.holds name) : Result Bool).map .truth, s)
  | .walk =>
    (.ok (.walk s.walks.length),
      { s with walks := s.walks ++ [.underway s.registry.modules.length 0] })
  | .next number =>
    match s.walks[number]? with
    | some w =>
      ((w.next s.registry.modules).1,
        { s with walks := s.walks.set number (w.next s.registry.modules).2 })
    | none => (.error (.fault .unsupported), s)

/-- The stock after some operations, those that fail included. -/
def run (s : Stock) (operations : List Operation) : Stock :=
  operations.foldl (fun s operation => (s.perform operation).2) s

@[simp] lemma run_nil (s : Stock) : s.run [] = s := rfl

@[simp] lemma run_cons (s : Stock) (operation : Operation) (operations : List Operation) :
    s.run (operation :: operations) = (s.perform operation).2.run operations := rfl

/-- Where the references of a stock are looked up. -/
def directory (s : Stock) : Directory := ⟨s.catalog, some s.registry⟩

/-- A failed operation on the registry leaves the modules as they are. -/
lemma perform_of_error {s : Stock} {operation : Operation} {e : Failure}
    (h : (s.perform operation).1 = .error e) :
    (s.perform operation).2.catalog = s.catalog ∧
      (s.perform operation).2.registry = s.registry := by
  cases operation with
  | make functions declaration =>
    revert h
    rw [perform]
    split
    · simp
    · simp
  | register v =>
    revert h
    rw [perform]
    split
    · simp
    · simp
  | next number =>
    rw [perform]
    split
    · exact ⟨rfl, rfl⟩
    · exact ⟨rfl, rfl⟩
  | lock => simp [perform] at h
  | walk => simp [perform] at h
  | get name => exact ⟨rfl, rfl⟩
  | holds name => exact ⟨rfl, rfl⟩

/-! ## What operations keep -/

/-- Nothing was taken away from a stock: modules that were made keep their identity, and modules
that were registered their place. -/
structure Extends (s s' : Stock) : Prop where
  catalog : s.catalog <+: s'.catalog
  registry : s.registry.modules <+: s'.registry.modules

lemma Extends.refl (s : Stock) : Extends s s := ⟨List.prefix_rfl, List.prefix_rfl⟩

lemma Extends.trans {s s' s'' : Stock} (h : Extends s s') (h' : Extends s' s'') : Extends s s'' :=
  ⟨h.catalog.trans h'.catalog, h.registry.trans h'.registry⟩

lemma prefix_of_create {c c' : Catalog} {functions : Functions} {declaration : ModuleDeclaration}
    {m : ShaderModule} (h : c.create functions declaration = .ok (m, c')) : c <+: c' := by
  obtain ⟨n, -, hn⟩ := bind_eq_ok.1 h
  obtain ⟨-, rfl⟩ : n = m ∧ c ++ [n] = c' := by simpa using hn
  exact List.prefix_append _ _

lemma prefix_of_register {r r' : Registry} {m : ShaderModule} (h : r.register m = .ok r') :
    r.modules <+: r'.modules := by
  unfold Registry.register at h
  split at h
  · simp at h
  · split at h
    · simp at h
    · obtain rfl : _ = r' := by simpa using h
      exact List.prefix_append _ _

lemma prefix_of_registerValue {r r' : Registry} {c : Catalog} {v : Value} {m : ShaderModule}
    (h : r.registerValue c v = .ok (m, r')) : r.modules <+: r'.modules := by
  unfold Registry.registerValue at h
  split at h
  · next n hn =>
    obtain ⟨r'', hr'', heq⟩ := map_eq_ok.1 h
    obtain ⟨-, rfl⟩ : n = m ∧ r'' = r' := by simpa using heq
    exact prefix_of_register hr''
  · simp at h

/-- One operation only adds to a stock. -/
lemma extends_perform (s : Stock) (operation : Operation) :
    Extends s (s.perform operation).2 := by
  cases operation with
  | make functions declaration =>
    rw [perform]
    split
    · next m catalog h => exact ⟨prefix_of_create h, List.prefix_rfl⟩
    · exact .refl s
  | register v =>
    rw [perform]
    split
    · next m registry h => exact ⟨List.prefix_rfl, prefix_of_registerValue h⟩
    · exact .refl s
  | lock => exact ⟨List.prefix_rfl, List.prefix_rfl⟩
  | get name => exact .refl s
  | holds name => exact .refl s
  | walk => exact ⟨List.prefix_rfl, List.prefix_rfl⟩
  | next number =>
    rw [perform]
    split
    · exact ⟨List.prefix_rfl, List.prefix_rfl⟩
    · exact .refl s

/-- A run only adds to a stock. -/
lemma extends_run (s : Stock) (operations : List Operation) : Extends s (s.run operations) := by
  induction operations generalizing s with
  | nil => exact .refl s
  | cons operation operations ih => exact (s.extends_perform operation).trans (ih _)

end Stock

/-! ## Lookups in an extended directory -/

namespace Directory

/-- Every lookup that leads to a module leads to the same module in the second directory. -/
def Extends (d d' : Directory) : Prop :=
  ∀ (dependent : Option String) (v : Value) (m : ShaderModule),
    d.lookup dependent v = .ok m → d'.lookup dependent v = .ok m

end Directory

lemma Catalog.module?_of_prefix {c c' : Catalog} (h : c <+: c') {v : Value} {m : ShaderModule}
    (hm : c.module? v = some m) : c'.module? v = some m := by
  cases v with
  | moduleRef r =>
    obtain ⟨rest, rfl⟩ := h
    have hlt : r.id < c.length := (List.getElem?_eq_some_iff.1 hm).1
    rw [Catalog.module?, List.getElem?_append_left hlt]
    exact hm
  | _ => simp [Catalog.module?] at hm

/-- A name is never bound to another module. -/
lemma Registry.find?_of_prefix {r r' : Registry} (h : r.modules <+: r'.modules) {name : String}
    {m : ShaderModule} (hm : r.find? name = some m) : r'.find? name = some m := by
  obtain ⟨rest, hrest⟩ := h
  rw [Registry.find?] at hm
  rw [Registry.find?, ← hrest, List.find?_append, hm]
  rfl

lemma Stock.Extends.directory {s s' : Stock} (h : s.Extends s') :
    s.directory.Extends s'.directory := by
  intro dependent v m hm
  unfold Directory.lookup at hm
  split at hm
  · next n hn =>
    obtain rfl : n = m := by simpa using hm
    have hn' : s'.directory.catalog.module? v = some n := Catalog.module?_of_prefix h.catalog hn
    simp [Directory.lookup, hn']
  · next hv =>
    split at hm
    · next name =>
      split at hm
      · next n hn =>
        obtain rfl : n = m := by simpa using hm
        have hn' : s'.directory.named? name = some n := Registry.find?_of_prefix h.registry hn
        rw [Directory.lookup]
        simp [Catalog.module?, hn']
      · simp at hm
    · simp at hm

/-! ## The search in an extended directory -/

namespace Resolution

variable {d d' : Directory}

/-- A search that succeeds finds the same modules in a directory that extends the first one. -/
lemma visit_and_visitAll_of_extends (h : d.Extends d') :
    (∀ (path : List String) (done : List ShaderModule) (m : { m : ShaderModule // m ∈ d.pool }),
      ∀ (hm : m.val ∈ d'.pool) (t : List ShaderModule),
        visit d path done m = .ok t → visit d' path done ⟨m.val, hm⟩ = .ok t) ∧
    (∀ (path : List String) (dependent : Option String) (references : List Value)
        (done : List ShaderModule),
      ∀ t : List ShaderModule, visitAll d path dependent references done = .ok t →
        visitAll d' path dependent references done = .ok t) := by
  refine visit.mutual_induct d _ _ ?_ ?_ ?_ ?_ ?_ ?_ ?_ ?_
  · intro path done m hdone hm t ht
    rw [visit, if_pos hdone] at ht ⊢
    exact ht
  · intro path done m hdone hpath hm t ht
    rw [visit, if_neg hdone, dif_pos hpath] at ht
    simp at ht
  · intro path done m hdone hpath done₁ hall ih hm t ht
    rw [visit, if_neg hdone, dif_neg hpath, hall] at ht
    rw [visit, if_neg hdone, dif_neg hpath, ih done₁ hall]
    exact ht
  · intro path done m hdone hpath e hall _ hm t ht
    rw [visit, if_neg hdone, dif_neg hpath, hall] at ht
    simp at ht
  · intro path dependent done t ht
    rw [visitAll] at ht ⊢
    exact ht
  · intro path dependent done v vs e he t ht
    rw [visitAll_cons_error he] at ht
    simp at ht
  · -- the reference leads to the same module, whose visit succeeds with the same modules
    intro path dependent done v vs m hm done₁ hvisit ihm ihvs t ht
    have hm' := h dependent v m hm
    rw [visitAll_cons hm, hvisit] at ht
    rw [visitAll_cons hm', ihm (Directory.mem_pool_of_lookup hm') done₁ hvisit]
    exact ihvs t ht
  · intro path dependent done v vs m hm e hvisit _ t ht
    rw [visitAll_cons hm, hvisit] at ht
    simp at ht

lemma resolveValue_of_extends (h : d.Extends d') {requests : Value} {t : List ShaderModule}
    (ht : resolveValue d requests = .ok t) : resolveValue d' requests = .ok t := by
  obtain ⟨vs, hvs, hall⟩ := bind_eq_ok.1 ht
  exact bind_eq_ok.2 ⟨vs, hvs, (visit_and_visitAll_of_extends h).2 [] none vs [] t hall⟩

end Resolution

/-- A module that was given for a name is given for it ever after. -/
theorem Stock.get_run {s : Stock} {name : Value} {m : ShaderModule}
    (h : s.registry.get name = .ok m) (operations : List Operation) :
    (s.run operations).registry.get name = .ok m := by
  have hgrown := (s.extends_run operations).registry
  unfold Registry.get at h ⊢
  split at h
  · next hname =>
    rw [if_pos hname]
    split at h
    · next text =>
      split at h
      · next n hn =>
        simp only [Registry.find?_of_prefix hgrown hn]
        exact h
      · simp at h
    · simp at h
  · simp at h

/-- Modules that could be resolved at one time are resolved in the same way whatever is done
afterwards, be it successful or not. -/
theorem resolve_stable_under_growth {s : Stock} {requests : Value} {t : List ShaderModule}
    (h : resolveValue s.directory requests = .ok t) (operations : List Operation) :
    resolveValue (s.run operations).directory requests = .ok t :=
  Resolution.resolveValue_of_extends (s.extends_run operations).directory h

/-- A registry in which `top` was registered before the `base` that it names. -/
def toppedStock : Stock :=
  Stock.run
    { catalog := [.plain 0 "base" [], .plain 1 "top" [.text "base"], .plain 2 "base" [],
        .plain 3 "late" []] }
    [.register (.moduleRef ⟨1, "top"⟩), .walk, .register (.moduleRef ⟨0, "base"⟩)]

/-- The second `base` and the module that comes after the locking are refused, and the walk that
was begun before the registration of `base` fails. -/
theorem toppedStock_stable :
    resolveValue toppedStock.directory (.list [.text "top"]) =
        .ok [.plain 0 "base" [], .plain 1 "top" [.text "base"]] ∧
      resolveValue (toppedStock.run [.register (.moduleRef ⟨2, "base"⟩), .next 0, .lock,
          .register (.moduleRef ⟨3, "late"⟩), .get (.text "late"), .holds (.list [])]).directory
          (.list [.text "top"]) =
        .ok [.plain 0 "base" [], .plain 1 "top" [.text "base"]] := by
  have h : resolveValue toppedStock.directory (.list [.text "top"]) =
      .ok [.plain 0 "base" [], .plain 1 "top" [.text "base"]] := by
    have hdirectory : toppedStock.directory =
        ⟨[.plain 0 "base" [], .plain 1 "top" [.text "base"], .plain 2 "base" [],
          .plain 3 "late" []],
          some { modules := [.plain 1 "top" [.text "base"], .plain 0 "base" []] }⟩ := rfl
    rw [hdirectory]
    cbv
  exact ⟨h, resolve_stable_under_growth h _⟩

end ShaderLoom
