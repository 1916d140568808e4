import ShaderLoom.Proofs.Cache.Session
import ShaderLoom.Proofs.Key.Request
import ShaderLoom.Proofs.Resolution.Order

/-!
# Calls with the same key

What is written of a request is the name that it gives, its hooks and injections, and the code of
the merged defines. If these are the same for two calls with the same key, and both calls see the
same modules, the calls have the same program (`Call.program_eq_of_collide`).
-/

namespace ShaderLoom

namespace Request

/-- The code of the defines of modules and of a request. -/
def defineCode (r : Request) (modules : List ShaderModule) : Answer String := do
  Defines.code (← Defines.merge modules r.defines)

/-- What is written of the requests with the given modules is the same. -/
structure Similar (r s : Request) (modules : List ShaderModule) : Prop where
  names : ∀ source label, shaderNameDefine r.id source label = shaderNameDefine s.id source label
  injections : Injection.ofApplication r.inject = Injection.ofApplication s.inject
  hooks : Hook.ofDeclarations r.hooks = Hook.ofDeclarations s.hooks
  defines : r.defineCode modules = s.defineCode modules

lemma parts_eq_ok {r : Request} {p : Parts} (h : r.parts = .ok p) :
    ShaderModule.optionalEntries r.defines = .ok p.defines ∧
      (r.hooks.orElse (.tuple []) >>= Value.members) = .ok p.hooks ∧
      ShaderModule.optionalEntries r.inject = .ok p.inject ∧
      r.toOldest.truth = .ok p.toOldest ∧ r.hasPrologue.truth = .ok p.hasPrologue := by
  unfold parts at h
  obtain ⟨defines, hdefines, h⟩ := bind_eq_ok.1 h
  obtain ⟨container, hcontainer, h⟩ := bind_eq_ok.1 h
  obtain ⟨hooks, hhooks, h⟩ := bind_eq_ok.1 h
  obtain ⟨inject, hinject, h⟩ := bind_eq_ok.1 h
  obtain ⟨toOldest, htoOldest, h⟩ := bind_eq_ok.1 h
  obtain ⟨hasPrologue, hhasPrologue, h⟩ := bind_eq_ok.1 h
  obtain rfl := Except.ok.inj h
  exact ⟨hdefines, bind_eq_ok.2 ⟨container, hcontainer, hhooks⟩, hinject, htoOldest, hhasPrologue⟩

end Request

namespace Call

variable {a : Assembler} {c d : Call}

/-- Where a call looks up modules. -/
def directory (c : Call) : Directory := ⟨c.catalog, c.registry⟩

/-- Modules with one identity are one module, wherever the calls find them. -/
def SharesModules (c d : Call) : Prop :=
  ∀ m ∈ c.directory.pool, ∀ n ∈ d.directory.pool, m.ref.id = n.ref.id → m = n

/-- The plan that a call is read as. -/
structure IsReadAs (c : Call) (p : Plan) : Prop where
  vertex : ∃ s, c.request.vertex = .text s
  fragment : ∃ s, c.request.fragment = .text s
  modules : ∃ requests, resolve c.directory requests = .ok p.modules
  injections : Injection.ofApplication c.request.inject = .ok p.injections
  hooks : Hook.ofDeclarations c.request.hooks = .ok p.hooks
  key : c.request.key p.modules = .ok p.key

lemma exists_text_of_ofValue {v : Value} {parts : Glsl.VersionedSource}
    (h : Glsl.VersionedSource.ofValue v = .ok parts) : ∃ s, v = .text s := by
  cases v with
  | text s => exact ⟨s, rfl⟩
  | _ => cases h

lemma isReadAs_of_reading {p : Plan} (h : c.reading a = .ok p) : c.IsReadAs p := by
  unfold reading Assembler.reading at h
  obtain ⟨vertex, hvertex, h⟩ := bind_eq_ok.1 h
  obtain ⟨fragment, hfragment, h⟩ := bind_eq_ok.1 h
  obtain ⟨requested, hrequested, h⟩ := bind_eq_ok.1 h
  obtain ⟨modules, hmodules, h⟩ := bind_eq_ok.1 h
  obtain ⟨injections, hinjections, h⟩ := bind_eq_ok.1 h
  obtain ⟨hooks, hhooks, h⟩ := bind_eq_ok.1 h
  -- whether names are checked or not, the key is made afterwards
  obtain ⟨key, hkey, h⟩ : ∃ key, (liftM (c.request.key modules) : Result String) = .ok key ∧
      (.ok ⟨modules, injections, hooks, key⟩ : Result Plan) = .ok p := by
    dsimp only at h
    split at h
    · obtain ⟨-, -, h⟩ := bind_eq_ok.1 h
      exact bind_eq_ok.1 h
    · obtain ⟨-, -, h⟩ := bind_eq_ok.1 h
      exact bind_eq_ok.1 h
  obtain rfl := Except.ok.inj h
  obtain ⟨members, -, hresolve⟩ := bind_eq_ok.1 hmodules
  exact
    { vertex := exists_text_of_ofValue hvertex
      fragment := exists_text_of_ofValue hfragment
      modules := ⟨members, hresolve⟩
      injections := hinjections
      hooks := hhooks
      key := liftM_answer_eq_ok.1 hkey }

/-- The modules of a plan are found where the call looks. -/
lemma IsReadAs.mem_pool {p : Plan} (h : c.IsReadAs p) {m : ShaderModule} (hm : m ∈ p.modules) :
    m ∈ c.directory.pool := by
  obtain ⟨requests, hresolve⟩ := h.modules
  cases (Resolution.sound_resolve hresolve).1.reached m hm with
  | request _ hlookup => exact Directory.mem_pool_of_lookup hlookup
  | dependency _ hdepends =>
    obtain ⟨v, -, hlookup⟩ := hdepends
    exact Directory.mem_pool_of_lookup hlookup

/-- Plans with the same key belong to requests with the same key. -/
lemma sameKey_of_reading {p q : Plan} (hp : c.reading a = .ok p) (hq : d.reading a = .ok q)
    (hkey : p.key = q.key) : c.request.SameKey p.modules d.request q.modules := by
  have hc := (isReadAs_of_reading hp).key
  have hd := (isReadAs_of_reading hq).key
  rw [← hkey] at hd
  exact Request.sameKey_iff.2 ⟨p.key, hc, hd⟩

/-- Modules that are told apart by their identities are the same if the identities are. -/
lemma eq_of_ids_eq {ms ns : List ShaderModule}
    (h : ∀ m ∈ ms, ∀ n ∈ ns, m.ref.id = n.ref.id → m = n)
    (hids : ms.map (·.ref.id) = ns.map (·.ref.id)) : ms = ns := by
  induction ms generalizing ns with
  | nil => exact (List.map_eq_nil_iff.1 hids.symm).symm
  | cons m ms ih =>
    cases ns with
    | nil => cases hids
    | cons n ns =>
      obtain ⟨hhead, htail⟩ := List.cons.inj hids
      obtain rfl := h m List.mem_cons_self n List.mem_cons_self hhead
      rw [ih (fun m hm n hn => h m (List.mem_cons_of_mem _ hm) n (List.mem_cons_of_mem _ hn)) htail]

end Call

namespace Assembler

lemma prologue_congr {a : Assembler} {stage : Stage} {source : String} {id id' : Value}
    {es es' : Entries}
    (hname : shaderNameDefine id source.toList stage.label =
      shaderNameDefine id' source.toList stage.label)
    (hcode : Defines.code es = Defines.code es') :
    a.prologue stage source id es = a.prologue stage source id' es' := by
  unfold prologue
  rw [hname, hcode]

/-- Requests of which the same is written have the same code. -/
lemma stageCode_congr {a : Assembler} {stage : Stage} {source : Value} {r s : StageRequest}
    {es es' : Entries} (hmodules : r.modules = s.modules)
    (hinjections : r.injections = s.injections) (hhooks : r.hooks = s.hooks)
    (hname : ∀ source, shaderNameDefine r.id source stage.label =
      shaderNameDefine s.id source stage.label)
    (hes : Defines.merge r.modules r.defines = .ok es)
    (hes' : Defines.merge s.modules s.defines = .ok es')
    (hcode : Defines.code es = Defines.code es') (htoOldest : r.toOldest.truth = s.toOldest.truth)
    (hhasPrologue : r.hasPrologue.truth = s.hasPrologue.truth) :
    a.stageCode stage source r = a.stageCode stage source s := by
  have hhead : a.head stage source r es = a.head stage source s es' := by
    unfold head
    rw [hhasPrologue, prologue_congr (hname _) hcode]
  have hbelow : ∀ parts head, a.codeBelow stage parts r head = a.codeBelow stage parts s head := by
    intro parts head
    unfold codeBelow targetVersion
    rw [hmodules, hinjections, hhooks, htoOldest]
  unfold stageCode
  rw [hes, hes']
  refine congrArg _ (funext fun parts => ?_)
  show (a.head stage source r es >>= a.codeBelow stage parts r) =
    (a.head stage source s es' >>= a.codeBelow stage parts s)
  rw [hhead, funext (hbelow parts)]

end Assembler

namespace Call

variable {a : Assembler} {c d : Call}

/-- Calls with the same key have the same program if the same is written of them. -/
theorem program_eq_of_collide {p : Plan} (hshares : c.SharesModules d) (hcollide : c.Collide a d)
    (hp : c.reading a = .ok p) (hsimilar : c.request.Similar d.request p.modules) :
    c.program a = d.program a := by
  obtain ⟨p', q, hp', hq, hkey⟩ := hcollide
  obtain rfl := Except.ok.inj (hp.symm.trans hp')
  have hread := isReadAs_of_reading hp
  have hread' := isReadAs_of_reading hq
  have hsame := sameKey_of_reading hp hq hkey
  have hmodules : p.modules = q.modules :=
    eq_of_ids_eq (fun m hm n hn => hshares m (hread.mem_pool hm) n (hread'.mem_pool hn))
      hsame.modules
  have hinjections : p.injections = q.injections :=
    Except.ok.inj (hread.injections.symm.trans (hsimilar.injections.trans hread'.injections))
  have hhooks : p.hooks = q.hooks :=
    Except.ok.inj (hread.hooks.symm.trans (hsimilar.hooks.trans hread'.hooks))
  -- the sources are texts, which their keys determine
  obtain ⟨s, hs⟩ := hread.vertex
  obtain ⟨t, ht⟩ := hread.fragment
  have hvertex : d.request.vertex = c.request.vertex := by
    rw [hs]
    exact Value.alike_text_iff.1 (hs ▸ hsame.vertex)
  have hfragment : d.request.fragment = c.request.fragment := by
    rw [ht]
    exact Value.alike_text_iff.1 (ht ▸ hsame.fragment)
  obtain ⟨x, y, hx, hy, hparts⟩ := hsame.parts
  obtain ⟨hdefines, -, -, htoOldest, hhasPrologue⟩ := Request.parts_eq_ok hx
  obtain ⟨hdefines', -, -, htoOldest', hhasPrologue'⟩ := Request.parts_eq_ok hy
  -- requests with a key have defines that can be merged
  have hes : Defines.merge p.modules c.request.defines = .ok _ :=
    Defines.merge_of_optionalEntries hdefines
  have hes' : Defines.merge p.modules d.request.defines = .ok _ :=
    Defines.merge_of_optionalEntries hdefines'
  have hcode := hsimilar.defines
  unfold Request.defineCode at hcode
  rw [hes, hes'] at hcode
  have hstage : ∀ stage source,
      a.stageCode stage source (Assembler.stageRequest c.request p stage) =
        a.stageCode stage source (Assembler.stageRequest d.request q stage) := by
    intro stage source
    refine Assembler.stageCode_congr hmodules hinjections ?_ (fun _ => hsimilar.names _ _) hes
      (hmodules ▸ hes') hcode ?_ ?_
    · simp only [Assembler.stageRequest, hhooks]
    · show c.request.toOldest.truth = d.request.toOldest.truth
      rw [htoOldest, htoOldest', hparts.toOldest]
    · show c.request.hasPrologue.truth = d.request.hasPrologue.truth
      rw [hhasPrologue, hhasPrologue', hparts.hasPrologue]
  have hbuilding : (c.assembler a).building c.request p = (d.assembler a).building d.request q := by
    show a.building c.request p = a.building d.request q
    unfold Assembler.building
    rw [hstage, hstage, hvertex, hfragment, hmodules]
  unfold program
  rw [hp, hq]
  exact hbuilding

end Call

end ShaderLoom
