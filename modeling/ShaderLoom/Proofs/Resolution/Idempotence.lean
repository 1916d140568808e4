import ShaderLoom.Proofs.Injection.Slots
import ShaderLoom.Proofs.Resolution.Growth
import ShaderLoom.Proofs.Resolution.Order

/-!
# Resolving a result again

The modules of a result are requested once more, in their order and as objects. Each one is looked
up to itself (`Directory.Identifies`), its name is new, and the modules that its dependencies lead
to have names that are finished already. So its visit goes down to nothing, and the module is put
behind the ones before it. The invariant of the second run is that the finished modules are the
front of the first result.
-/

namespace ShaderLoom

/-! ### References of modules -/

/-- The reference of every module leads to this module. -/
def Directory.Identifies (d : Directory) : Prop :=
  ∀ m ∈ d.pool, d.catalog.module? m.toValue = some m

lemma Catalog.mem_of_module? {c : Catalog} {v : Value} {m : ShaderModule}
    (h : c.module? v = some m) : m ∈ c := by
  cases v with
  | moduleRef r => exact List.mem_of_getElem? h
  | _ => simp [module?] at h

lemma Directory.Identifies.lookup {d : Directory} (hd : d.Identifies) {m : ShaderModule}
    (hm : m ∈ d.pool) (dependent : Option String) : d.lookup dependent m.toValue = .ok m := by
  unfold Directory.lookup
  rw [hd m hm]

namespace Stock

/-- The identity of a module is its place among the modules that were made, and only those are
registered. -/
structure IsIdentified (s : Stock) : Prop where
  place : ∀ (i : ℕ) (m : ShaderModule), s.catalog[i]? = some m → m.ref.id = i
  registered : ∀ m ∈ s.registry.modules, m ∈ s.catalog

lemma isIdentified_empty : IsIdentified {} where
  place := by simp
  registered := by simp

lemma mem_of_registerValue {r r' : Registry} {c : Catalog} {v : Value} {m : ShaderModule}
    (h : r.registerValue c v = .ok (m, r')) {n : ShaderModule} (hn : n ∈ r'.modules) :
    n ∈ r.modules ∨ n ∈ c := by
  unfold Registry.registerValue at h
  split at h
  · next k hk =>
    obtain ⟨r'', hr'', heq⟩ := map_eq_ok.1 h
    obtain ⟨-, rfl⟩ : k = m ∧ r'' = r' := by simpa using heq
    unfold Registry.register at hr''
    split at hr''
    · simp at hr''
    · split at hr''
      · simp at hr''
      · obtain rfl : _ = r'' := by simpa using hr''
        rcases List.mem_append.1 hn with hn | hn
        · exact .inl hn
        · obtain rfl : n = k := by simpa using hn
          exact .inr (Catalog.mem_of_module? hk)
  · simp at h

/-- One operation keeps the identities of modules. -/
lemma isIdentified_perform {s : Stock} (h : s.IsIdentified) (operation : Operation) :
    (s.perform operation).2.IsIdentified := by
  cases operation with
  | make functions declaration =>
    rw [perform]
    split
    · next m catalog hcreate =>
      obtain ⟨n, hn, heq⟩ := bind_eq_ok.1 hcreate
      obtain ⟨rfl, rfl⟩ : n = m ∧ s.catalog ++ [n] = catalog := by simpa using heq
      refine ⟨fun i m hi => ?_, fun m hm => List.mem_append_left _ (h.registered m hm)⟩
      -- an older module, the new one, or none
      rcases lt_trichotomy i s.catalog.length with hlt | rfl | hgt
      · rw [List.getElem?_append_left hlt] at hi
        exact h.place i m hi
      · obtain rfl : n = m := by simpa using hi
        exact (ShaderModule.parts_of_create hn).1
      · rw [List.getElem?_eq_none (by simp; omega)] at hi
        exact absurd hi (by simp)
    · exact h
  | register v =>
    rw [perform]
    split
    · next m registry hregister =>
      refine ⟨h.place, fun n hn => ?_⟩
      exact (mem_of_registerValue hregister hn).elim (h.registered n) id
    · exact h
  | lock => exact ⟨h.place, h.registered⟩
  | get name => exact h
  | holds name => exact h
  | walk => exact ⟨h.place, h.registered⟩
  | next number =>
    rw [perform]
    split
    · exact ⟨h.place, h.registered⟩
    · exact h

/-- A run keeps the identities of modules. -/
lemma isIdentified_run {s : Stock} (h : s.IsIdentified) (operations : List Operation) :
    (s.run operations).IsIdentified := by
  induction operations generalizing s with
  | nil => exact h
  | cons operation operations ih => exact ih (isIdentified_perform h operation)

/-- Whatever registry of modules that were made is used with them, or none, references lead to the
modules that they were taken from. -/
lemma IsIdentified.identifies {s : Stock} (h : s.IsIdentified) {registry : Option Registry}
    (hr : ∀ r ∈ registry, ∀ m ∈ r.modules, m ∈ s.catalog) :
    Directory.Identifies ⟨s.catalog, registry⟩ := by
  intro m hm
  have hmade : m ∈ s.catalog := by
    rcases List.mem_append.1 hm with hm | hm
    · exact hm
    · cases registry with
      | none => simp at hm
      | some r => exact hr r rfl m hm
  obtain ⟨i, hi⟩ := List.mem_iff_getElem?.1 hmade
  rw [ShaderModule.toValue, Catalog.module?, h.place i m hi, hi]

/-- References lead to the modules that they were taken from, whatever was done before. -/
theorem identifies_directory_run (operations : List Operation) :
    (({} : Stock).run operations).directory.Identifies := by
  have h := isIdentified_run isIdentified_empty operations
  exact h.identifies fun r hr m hm => by
    obtain rfl := Option.some.inj hr
    exact h.registered m hm

end Stock

namespace Resolution

variable {d : Directory}

/-- Where all references lead to finished names, nothing is done. -/
lemma visitAll_of_finished {path : List String} {dependent : Option String}
    {references : List Value} {done : List ShaderModule}
    (h : ∀ v ∈ references, ∃ n, d.lookup dependent v = .ok n ∧ n.name ∈ done.map (·.name)) :
    visitAll d path dependent references done = .ok done := by
  induction references with
  | nil => rw [visitAll]
  | cons v vs ih =>
    obtain ⟨n, hn, hname⟩ := h v List.mem_cons_self
    rw [visitAll_cons hn, visit, if_pos (any_name_eq_true_iff.2 hname)]
    exact ih fun w hw => h w (List.mem_cons_of_mem _ hw)

/-- A module whose dependencies are finished, but whose name is not, is put behind the others. -/
lemma visit_of_served {done : List ShaderModule} {m : { m : ShaderModule // m ∈ d.pool }}
    (hnew : m.val.name ∉ done.map (·.name)) (hserved : Served d (done.map (·.name)) m.val) :
    visit d [] done m = .ok (done ++ [m.val]) := by
  rw [visit, if_neg (mt any_name_eq_true_iff.1 hnew), dif_neg (by simp),
    visitAll_of_finished hserved]

lemma Reached.mem_pool {requests : List Value} {m : ShaderModule} (h : Reached d requests m) :
    m ∈ d.pool := by
  cases h with
  | request _ hm => exact Directory.mem_pool_of_lookup hm
  | dependency _ hn =>
    obtain ⟨v, -, hv⟩ := hn
    exact Directory.mem_pool_of_lookup hv

/-- Requesting the rest of a result puts it behind its front. -/
lemma visitAll_rest (hd : d.Identifies) {requests : List Value} {t done rest : List ShaderModule}
    (ht : Sound d requests [] t) (hcut : t = done ++ rest) :
    visitAll d [] none (rest.map (·.toValue)) done = .ok t := by
  induction rest generalizing done with
  | nil =>
    rw [List.map_nil, visitAll, hcut, List.append_nil]
  | cons m rest ih =>
    have hplace : t[done.length]? = some m := by simp [hcut]
    have hmem : m ∈ t := List.mem_of_getElem? hplace
    have hfront : t.take done.length = done := by simp [hcut]
    have hserved := ht.served _ m hplace
    have hnew : m.name ∉ done.map (·.name) := by
      have hnodup := ht.nodup
      rw [hcut, List.map_append, List.nodup_append] at hnodup
      exact fun hname => hnodup.2.2 _ hname _ (by simp) rfl
    rw [hfront] at hserved
    have hpool : m ∈ d.pool := (ht.reached m hmem).mem_pool
    rw [List.map_cons, visitAll_cons (hd.lookup hpool none), visit_of_served hnew hserved]
    exact ih (by simpa using hcut)

end Resolution

/-- **Idempotence of resolution.**  The result, requested as a tuple of modules, is the result
again: the same modules in the same order, although other modules may have their names. -/
theorem resolve_idempotent {d : Directory} (hd : d.Identifies) {requests : Value}
    {t : List ShaderModule} (h : resolveValue d requests = .ok t) :
    resolveValue d (.tuple (t.map (·.toValue))) = .ok t := by
  obtain ⟨vs, -, hresolve⟩ := bind_eq_ok.1 h
  refine bind_eq_ok.2 ⟨t.map (·.toValue), rfl, ?_⟩
  exact Resolution.visitAll_rest hd (Resolution.sound_resolve hresolve).1 (List.nil_append t).symm

/-- The `base` that `top` depends on is not the `base` of the result, in the second run neither. -/
theorem twoBases_resolved_again :
    twoBases.Identifies ∧
    resolveValue twoBases (.list [.moduleRef ⟨3, "top"⟩, .text "left"]) =
      .ok [.plain 0 "base" [], .plain 1 "left" [.moduleRef ⟨0, "base"⟩],
        .plain 3 "top" [.text "left", .moduleRef ⟨2, "base"⟩]] ∧
    resolveValue twoBases
        (.tuple [.moduleRef ⟨0, "base"⟩, .moduleRef ⟨1, "left"⟩, .moduleRef ⟨3, "top"⟩]) =
      .ok [.plain 0 "base" [], .plain 1 "left" [.moduleRef ⟨0, "base"⟩],
        .plain 3 "top" [.text "left", .moduleRef ⟨2, "base"⟩]] := by
  have hd : twoBases.Identifies := by
    intro m hm
    simp only [Directory.pool, twoBases, Option.map_some, Option.getD_some, List.cons_append,
      List.nil_append, List.mem_cons, List.not_mem_nil, or_false] at hm
    rcases hm with rfl | rfl | rfl | rfl | rfl <;> rfl
  have h : resolveValue twoBases (.list [.moduleRef ⟨3, "top"⟩, .text "left"]) =
      .ok [.plain 0 "base" [], .plain 1 "left" [.moduleRef ⟨0, "base"⟩],
        .plain 3 "top" [.text "left", .moduleRef ⟨2, "base"⟩]] := by
    cbv
  exact ⟨hd, h, resolve_idempotent hd h⟩

end ShaderLoom
