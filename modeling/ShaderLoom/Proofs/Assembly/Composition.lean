import ShaderLoom.Proofs.Assembly.Separation
import ShaderLoom.Proofs.Cache.Transparency
import ShaderLoom.Proofs.Key.Encodable

/-!
# A program and its parts

To put a program together is to read its sources, to resolve its modules, to read its injections and
hooks, and to assemble both stages with them. Between the last two steps a key is made of the whole
request, even if no cache is in use. So a request gives a program exactly when all of its parts
succeed and it can be made a key of, and the code is then that of the stages
(`Call.uncached_eq_ok_iff`).
-/

namespace ShaderLoom

namespace Request

/-- Everything that the key of a request is made of has a key. Sources that can be read are texts,
so that they have one, and switches are only asked whether they count as true. -/
structure IsEncodable (r : Request) : Prop where
  id : r.id.isEncodable = true
  defines : ∃ es, ShaderModule.optionalEntries r.defines = .ok es ∧
    ∀ e ∈ es, e.1.isEncodable = true ∧ e.2.isEncodable = true
  hooks : ∃ hooks, (r.hooks.orElse (.tuple []) >>= Value.members) = .ok hooks ∧
    ∀ h ∈ hooks, h.isEncodable = true
  inject : ∃ es, ShaderModule.optionalEntries r.inject = .ok es ∧
    ∀ e ∈ es, e.1.isEncodable = true ∧ e.2.isEncodable = true

lemma isEncodable_keyValue_iff {r : Request} {ms : List ShaderModule} {p : Parts}
    (hvertex : ∃ s, r.vertex = .text s) (hfragment : ∃ s, r.fragment = .text s) :
    (r.keyValue ms p).isEncodable = true ↔
      r.id.isEncodable = true ∧
        (∀ e ∈ p.defines, e.1.isEncodable = true ∧ e.2.isEncodable = true) ∧
        (∀ h ∈ p.hooks, h.isEncodable = true) ∧
        ∀ e ∈ p.inject, e.1.isEncodable = true ∧ e.2.isEncodable = true := by
  obtain ⟨vertex, hvertex⟩ := hvertex
  obtain ⟨fragment, hfragment⟩ := hfragment
  have hmodules : ∀ m ∈ ms, m.toValue.isEncodable = true := fun m _ => rfl
  unfold keyValue
  rw [hvertex, hfragment]
  simp only [Value.isEncodable, Value.allEncodable_iff, List.forall_mem_cons, List.forall_mem_map,
    List.not_mem_nil, false_implies, implies_true, and_true, true_and]
  exact and_congr_right fun _ => and_iff_right hmodules

/-- A request has a key just if everything that it is made of has one. -/
lemma exists_key_iff {r : Request} {ms : List ShaderModule} (hvertex : ∃ s, r.vertex = .text s)
    (hfragment : ∃ s, r.fragment = .text s) (htoOldest : ∃ b, r.toOldest.truth = .ok b)
    (hhasPrologue : ∃ b, r.hasPrologue.truth = .ok b) :
    (∃ key, r.key ms = .ok key) ↔ r.IsEncodable := by
  simp only [key_eq, bind_eq_ok]
  constructor
  · rintro ⟨key, p, hparts, hkey⟩
    obtain ⟨hdefines, hhooks, hinject, -⟩ := parts_eq_ok hparts
    have hencodable := (Value.exists_keyText_iff _).1 ⟨key, hkey⟩
    rw [isEncodable_keyValue_iff hvertex hfragment] at hencodable
    obtain ⟨hid, hds, hhs, his⟩ := hencodable
    exact ⟨hid, ⟨_, hdefines, hds⟩, ⟨_, hhooks, hhs⟩, ⟨_, hinject, his⟩⟩
  · rintro ⟨hid, ⟨defines, hdefines, hds⟩, ⟨hooks, hhooks, hhs⟩, inject, hinject, his⟩
    obtain ⟨toOldest, htoOldest⟩ := htoOldest
    obtain ⟨hasPrologue, hhasPrologue⟩ := hhasPrologue
    obtain ⟨container, hcontainer, hmembers⟩ := bind_eq_ok.1 hhooks
    -- the parts are read in the sequence in which they stand in the key
    have hparts : r.parts = .ok ⟨defines, hooks, inject, toOldest, hasPrologue⟩ :=
      bind_eq_ok.2 ⟨_, hdefines, bind_eq_ok.2 ⟨_, hcontainer, bind_eq_ok.2 ⟨_, hmembers,
        bind_eq_ok.2 ⟨_, hinject, bind_eq_ok.2 ⟨_, htoOldest, bind_eq_ok.2
          ⟨_, hhasPrologue, rfl⟩⟩⟩⟩⟩⟩
    have hencodable : (r.keyValue ms ⟨defines, hooks, inject, toOldest, hasPrologue⟩).isEncodable =
        true := (isEncodable_keyValue_iff hvertex hfragment).2 ⟨hid, hds, hhs, his⟩
    obtain ⟨key, hkey⟩ := (Value.exists_keyText_iff _).2 hencodable
    exact ⟨key, _, hparts, hkey⟩

end Request

namespace Assembler

variable {a : Assembler}

/-- A request is read part by part, and a key is made of it at last. -/
lemma reading_eq_ok_iff {catalog : Catalog} {r : Request} {plan : Plan} :
    a.reading catalog false r = .ok plan ↔
      (∃ parts, Glsl.VersionedSource.ofValue r.vertex = .ok parts) ∧
      (∃ parts, Glsl.VersionedSource.ofValue r.fragment = .ok parts) ∧
      (∃ requested, r.modules.orElse (.tuple []) = .ok requested ∧
        resolveValue ⟨catalog, a.registry⟩ requested = .ok plan.modules) ∧
      Injection.ofApplication r.inject = .ok plan.injections ∧
      Hook.ofDeclarations r.hooks = .ok plan.hooks ∧
      r.key plan.modules = .ok plan.key := by
  constructor
  · intro h
    obtain ⟨vertex, hvertex, h⟩ := bind_eq_ok.1 h
    obtain ⟨fragment, hfragment, h⟩ := bind_eq_ok.1 h
    obtain ⟨requested, hrequested, h⟩ := bind_eq_ok.1 h
    obtain ⟨modules, hmodules, h⟩ := bind_eq_ok.1 h
    obtain ⟨injections, hinjections, h⟩ := bind_eq_ok.1 h
    obtain ⟨hooks, hhooks, h⟩ := bind_eq_ok.1 h
    dsimp only at h
    rw [if_neg Bool.false_ne_true] at h
    obtain ⟨-, -, h⟩ := bind_eq_ok.1 h
    obtain ⟨key, hkey, h⟩ := bind_eq_ok.1 h
    obtain rfl := Except.ok.inj h
    exact ⟨⟨vertex, hvertex⟩, ⟨fragment, hfragment⟩,
      ⟨requested, liftM_answer_eq_ok.1 hrequested, hmodules⟩, hinjections, hhooks,
      liftM_answer_eq_ok.1 hkey⟩
  · rintro ⟨⟨vertex, hvertex⟩, ⟨fragment, hfragment⟩, ⟨requested, hrequested, hmodules⟩,
      hinjections, hhooks, hkey⟩
    exact reading_eq_ok hvertex hfragment hrequested hmodules hinjections hhooks hkey

/-- A stage can only be assembled if it is known which parts it gets. -/
lemma exists_truth_of_stageCode {stage : Stage} {source : Value} {r : StageRequest} {code : String}
    (h : a.stageCode stage source r = .ok code) :
    (∃ b, r.toOldest.truth = .ok b) ∧ ∃ b, r.hasPrologue.truth = .ok b := by
  obtain ⟨parts, -, h⟩ := bind_eq_ok.1 h
  obtain ⟨defines, -, h⟩ := bind_eq_ok.1 h
  obtain ⟨head, hhead, h⟩ := bind_eq_ok.1 h
  obtain ⟨hasPrologue, hhasPrologue, -⟩ := bind_eq_ok.1 hhead
  obtain ⟨modules, -, h⟩ := bind_eq_ok.1 h
  obtain ⟨declared, -, h⟩ := bind_eq_ok.1 h
  obtain ⟨hooks, -, h⟩ := bind_eq_ok.1 h
  obtain ⟨spliced, -, h⟩ := bind_eq_ok.1 h
  obtain ⟨version, hversion, -⟩ := bind_eq_ok.1 h
  obtain ⟨toOldest, htoOldest, -⟩ := bind_eq_ok.1 (liftM_answer_eq_ok.1 hversion)
  exact ⟨⟨toOldest, htoOldest⟩, hasPrologue, liftM_answer_eq_ok.1 hhasPrologue⟩

end Assembler

namespace Call

/-- The parts of a call succeed, and the program has the modules and the code that they give. -/
structure IsComposed (a : Assembler) (c : Call) (p : Program) : Prop where
  vertexSource : ∃ parts, Glsl.VersionedSource.ofValue c.request.vertex = .ok parts
  fragmentSource : ∃ parts, Glsl.VersionedSource.ofValue c.request.fragment = .ok parts
  modules : ∃ requested, c.request.modules.orElse (.tuple []) = .ok requested ∧
    resolveValue ⟨c.catalog, c.registry⟩ requested = .ok p.modules
  stages : ∃ injections hooks, Injection.ofApplication c.request.inject = .ok injections ∧
    Hook.ofDeclarations c.request.hooks = .ok hooks ∧
    ∀ stage, ((c.assembler a).assembleStage stage (c.request.source stage)
      { modules := p.modules
        id := c.request.id
        defines := c.request.defines
        injections
        hooks := Hook.forStage hooks stage
        toOldest := c.request.toOldest
        hasPrologue := c.request.hasPrologue }).Yields (.ok (p.code stage))

variable {a : Assembler} {c : Call} {p : Program}

/-- Once the parts succeed, only the request decides whether there is a key. -/
lemma exists_key_iff_of_isComposed (h : c.IsComposed a p) :
    (∃ key, c.request.key p.modules = .ok key) ↔ c.request.IsEncodable := by
  obtain ⟨vertex, hvertex⟩ := h.vertexSource
  obtain ⟨fragment, hfragment⟩ := h.fragmentSource
  obtain ⟨injections, hooks, -, -, hcode⟩ := h.stages
  -- the switches are known to have a truth value because a stage was assembled with them
  have hstage := hcode .vertex {}
  rw [Assembler.yields_assembleStage] at hstage
  obtain ⟨htoOldest, hhasPrologue⟩ := Assembler.exists_truth_of_stageCode hstage
  exact Request.exists_key_iff (exists_text_of_ofValue hvertex) (exists_text_of_ofValue hfragment)
    htoOldest hhasPrologue

/-- A program is composed of its parts, and a key was made before it was built. -/
lemma isComposed_of_program (hcheck : c.check = false) (h : c.program a = .ok p) :
    c.IsComposed a p ∧ ∃ key, c.request.key p.modules = .ok key := by
  obtain ⟨plan, hplan, hbuilding⟩ := bind_eq_ok.1 h
  unfold reading at hplan
  rw [hcheck, Assembler.reading_eq_ok_iff] at hplan
  obtain ⟨hvertex, hfragment, hmodules, hinjections, hhooks, hkey⟩ := hplan
  obtain ⟨hsame, hcode⟩ := Assembler.building_eq_ok_iff.1 hbuilding
  rw [← hsame] at hmodules hkey
  refine ⟨⟨hvertex, hfragment, hmodules, plan.injections, plan.hooks, hinjections, hhooks, ?_⟩,
    plan.key, hkey⟩
  intro stage
  have hyields := Assembler.yields_assembleStage (c.assembler a) stage (c.request.source stage)
    (Assembler.stageRequest c.request plan stage)
  rw [hcode stage] at hyields
  rw [hsame]
  exact hyields

lemma program_of_isComposed (hcheck : c.check = false) (h : c.IsComposed a p) {key : String}
    (hkey : c.request.key p.modules = .ok key) : c.program a = .ok p := by
  obtain ⟨injections, hooks, hinjections, hhooks, hyields⟩ := h.stages
  have hreading : c.reading a = .ok ⟨p.modules, injections, hooks, key⟩ := by
    unfold reading
    rw [hcheck]
    exact Assembler.reading_eq_ok_iff.2
      ⟨h.vertexSource, h.fragmentSource, h.modules, hinjections, hhooks, hkey⟩
  refine bind_eq_ok.2 ⟨_, hreading, Assembler.building_eq_ok_iff.2 ⟨rfl, fun stage => ?_⟩⟩
  have hcode := hyields stage {}
  rw [Assembler.yields_assembleStage] at hcode
  exact hcode

/-- **Composition.**  A call that leaves old names alone gives a program without the cache exactly
if its parts give this program and a key can be made of its request. -/
theorem uncached_eq_ok_iff (hcheck : c.check = false) :
    c.uncached a = .ok p ↔ c.IsComposed a p ∧ c.request.IsEncodable := by
  rw [Session.uncached_eq]
  constructor
  · intro h
    obtain ⟨hcomposed, hkey⟩ := isComposed_of_program hcheck h
    exact ⟨hcomposed, (exists_key_iff_of_isComposed hcomposed).1 hkey⟩
  · rintro ⟨hcomposed, hencodable⟩
    obtain ⟨key, hkey⟩ := (exists_key_iff_of_isComposed hcomposed).2 hencodable
    exact program_of_isComposed hcheck hcomposed hkey

/-! ### Defines that are written and defines that are left out -/

open Session

lemma isComposed_defineCall {v : Value} {p : Program}
    (hbuilding : bareAssembler.building (defineCall v).request ⟨[], [], [], ""⟩ = .ok p) :
    (defineCall v).IsComposed bareAssembler p := by
  obtain ⟨hmodules, hcode⟩ := Assembler.building_eq_ok_iff.1 hbuilding
  obtain ⟨parts, hparts⟩ := exists_of_isSome_toOption
    (x := Glsl.VersionedSource.ofValue (.text "void main() \x7b\x7d")) (by decide +kernel)
  refine ⟨⟨parts, hparts⟩, ⟨parts, hparts⟩, ⟨.tuple [], rfl, ?_⟩, [], [], rfl, rfl, ?_⟩
  · rw [hmodules]
    exact resolve_defineCall v
  · intro stage
    have hyields := Assembler.yields_assembleStage bareAssembler stage
      ((defineCall v).request.source stage)
      (Assembler.stageRequest (defineCall v).request ⟨[], [], [], ""⟩ stage)
    rw [hcode stage] at hyields
    rw [hmodules]
    exact hyields

/-- A call with a number as its define gives the program that its parts give. -/
theorem three_composed : ∃ p, (defineCall (.int 3)).check = false ∧
    (defineCall (.int 3)).IsComposed bareAssembler p ∧ (defineCall (.int 3)).request.IsEncodable ∧
    (defineCall (.int 3)).uncached bareAssembler = .ok p := by
  obtain ⟨p, hp⟩ := exists_of_isSome_toOption
    (x := bareAssembler.building (defineCall (.int 3)).request ⟨[], [], [], ""⟩) (by decide +kernel)
  have hcomposed := isComposed_defineCall hp
  have hencodable : (defineCall (.int 3)).request.IsEncodable :=
    { id := rfl
      defines := ⟨[(.text "a", .int 3)], rfl, fun e he => by
        obtain rfl := List.mem_singleton.1 he
        exact ⟨rfl, by decide⟩⟩
      hooks := ⟨[], rfl, by simp⟩
      inject := ⟨[], rfl, by simp⟩ }
  exact ⟨p, rfl, hcomposed, hencodable, (uncached_eq_ok_iff rfl).2 ⟨hcomposed, hencodable⟩⟩

/-- The stages leave out a define whose value is a complex number, and the call is refused. -/
theorem imaginary_unit_composed_and_refused :
    (∃ p, (defineCall (.complex 0.0 1.0)).IsComposed bareAssembler p) ∧
    ∀ q, (defineCall (.complex 0.0 1.0)).uncached bareAssembler ≠ .ok q := by
  obtain ⟨p, hp⟩ := exists_of_isSome_toOption (x := bareAssembler.building
    (defineCall (.complex 0.0 1.0)).request ⟨[], [], [], ""⟩) (by decide +kernel)
  refine ⟨⟨p, isComposed_defineCall hp⟩, fun q hq => ?_⟩
  rw [Session.uncached_eq] at hq
  obtain ⟨hcomposed, hkey⟩ := isComposed_of_program rfl hq
  obtain ⟨-, ⟨es, hes, hencodable⟩, -, -⟩ := (exists_key_iff_of_isComposed hcomposed).1 hkey
  obtain rfl := Except.ok.inj (hes : .ok [(Value.text "a", .complex 0.0 1.0)] = Except.ok es)
  exact absurd (hencodable _ List.mem_cons_self).2 (by simp [Value.isEncodable])

end Call

end ShaderLoom
