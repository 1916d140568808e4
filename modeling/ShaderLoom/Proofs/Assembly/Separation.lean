import ShaderLoom.Proofs.Assembly.Layout
import ShaderLoom.Proofs.Cache.Collision

/-!
# Separation of the stages

The code of a stage is made of what a request and its modules hold for this stage. So requests that
agree for a stage have the same code of this stage, whatever they hold for the other one
(`Assembler.code_eq_of_agreesFor`).
-/

namespace ShaderLoom

/-- The source of a stage. -/
def Request.source (r : Request) : Stage → Value
  | .vertex => r.vertex
  | .fragment => r.fragment

/-- The code of a stage. -/
def Program.code (p : Program) : Stage → String
  | .vertex => p.vertex
  | .fragment => p.fragment

/-! ### Modules -/

namespace ShaderModule

/-- The modules are the same for a stage. -/
structure AgreesFor (stage : Stage) (m n : ShaderModule) : Prop where
  name : m.name = n.name
  defines : m.defines.entries = n.defines.entries
  source : m.source stage = n.source stage
  injections : m.injections stage = n.injections stage

variable {stage : Stage} {m n : ShaderModule}

/-- Modules that agree for a stage have the same code for it. -/
lemma AgreesFor.code_eq (h : m.AgreesFor stage n) (surroundings : Template.Surroundings)
    (version : Value) : m.code surroundings stage version = n.code surroundings stage version := by
  have hvariables : m.templateVariables stage version = n.templateVariables stage version := by
    rw [templateVariables, templateVariables, SealedMap.toValue, SealedMap.toValue, h.defines]
  have hbare : m.bareCode surroundings stage version = n.bareCode surroundings stage version := by
    rw [bareCode, bareCode, h.source, h.name, hvariables]
  rw [code, code, hbare, presenceMacro, presenceMacro, h.name]

end ShaderModule

section Modules

variable {stage : Stage} {ms ns : List ShaderModule}
  (h : List.Forall₂ (ShaderModule.AgreesFor stage) ms ns)
include h

lemma Defines.ofModules_eq : Defines.ofModules ms = Defines.ofModules ns := by
  have hfold : ∀ es, ms.foldl (fun es m => Entries.putAll es m.defines.entries) es =
      ns.foldl (fun es m => Entries.putAll es m.defines.entries) es := by
    induction h with
    | nil => exact fun _ => rfl
    | cons hmn _ ih =>
      intro es
      rw [List.foldl_cons, List.foldl_cons, hmn.defines]
      exact ih _
  exact hfold []

lemma Assembler.moduleCode_eq (a : Assembler) (version : ℕ) :
    a.moduleCode stage version ms = a.moduleCode stage version ns := by
  have hcodes : ms.mapM (fun m => m.code a.surroundings stage (.int version)) =
      ns.mapM (fun m => m.code a.surroundings stage (.int version)) := by
    induction h with
    | nil => rfl
    | cons hmn _ ih => rw [List.mapM_cons, List.mapM_cons, hmn.code_eq, ih]
  rw [moduleCode, moduleCode, hcodes]

lemma Slots.contributions_eq {is js : List Injection}
    (hinjections : is.filter (·.appliesTo stage) = js.filter (·.appliesTo stage)) :
    contributions stage is ms = contributions stage js ns := by
  have hmodules : ms.flatMap (·.injections stage) = ns.flatMap (·.injections stage) := by
    induction h with
    | nil => rfl
    | cons hmn _ ih => rw [List.flatMap_cons, List.flatMap_cons, hmn.injections, ih]
  rw [contributions, contributions, hinjections, hmodules]

end Modules

/-! ### Stages -/

namespace StageRequest

/-- The requests hold the same for a stage. -/
structure AgreesFor (stage : Stage) (r s : StageRequest) : Prop where
  modules : List.Forall₂ (ShaderModule.AgreesFor stage) r.modules s.modules
  id : r.id = s.id
  defines : r.defines = s.defines
  injections : r.injections.filter (·.appliesTo stage) = s.injections.filter (·.appliesTo stage)
  hooks : r.hooks = s.hooks
  toOldest : r.toOldest.truth = s.toOldest.truth
  hasPrologue : r.hasPrologue.truth = s.hasPrologue.truth

end StageRequest

namespace Assembler

variable {a : Assembler} {stage : Stage}

/-- Requests that hold the same for a stage have the same code of it. -/
lemma stageCode_eq_of_agreesFor {r s : StageRequest} (h : r.AgreesFor stage s) (source : Value) :
    a.stageCode stage source r = a.stageCode stage source s := by
  have hmerge : Defines.merge r.modules r.defines = Defines.merge s.modules s.defines := by
    rw [Defines.merge, Defines.merge, Defines.ofModules_eq h.modules, h.defines]
  have hslots : Slots.classify stage r.injections r.modules =
      Slots.classify stage s.injections s.modules :=
    congrArg Slots.ofContributions (Slots.contributions_eq h.modules h.injections)
  have hhead : ∀ es, a.head stage source r es = a.head stage source s es := by
    intro es
    rw [head, head, h.hasPrologue, h.id]
  have hbelow : ∀ parts head, a.codeBelow stage parts r head = a.codeBelow stage parts s head := by
    intro parts head
    rw [codeBelow, codeBelow, hslots, moduleCode_eq h.modules, h.hooks, targetVersion,
      targetVersion, h.toOldest]
  rw [stageCode, stageCode, hmerge]
  simp only [hhead, hbelow]

end Assembler

/-! ### Programs -/

namespace Request

/-- The requests hold the same for a stage. -/
structure AgreesFor (stage : Stage) (r s : Request) : Prop where
  source : r.source stage = s.source stage
  id : r.id = s.id
  defines : r.defines = s.defines
  hooks : (Hook.ofDeclarations r.hooks).map (Hook.forStage · stage) =
    (Hook.ofDeclarations s.hooks).map (Hook.forStage · stage)
  injections : (Injection.ofApplication r.inject).map (·.filter (·.appliesTo stage)) =
    (Injection.ofApplication s.inject).map (·.filter (·.appliesTo stage))
  toOldest : r.toOldest.truth = s.toOldest.truth
  hasPrologue : r.hasPrologue.truth = s.hasPrologue.truth

end Request

namespace Assembler

variable {a : Assembler}

/-- What is built of a plan are its modules and the code of both stages. -/
lemma building_eq_ok_iff {r : Request} {plan : Plan} {p : Program} :
    a.building r plan = .ok p ↔ p.modules = plan.modules ∧
      ∀ stage, a.stageCode stage (r.source stage) (stageRequest r plan stage) =
        .ok (p.code stage) := by
  constructor
  · intro h
    obtain ⟨vertex, hvertex, h⟩ := bind_eq_ok.1 h
    obtain ⟨fragment, hfragment, h⟩ := bind_eq_ok.1 h
    obtain rfl := Except.ok.inj h
    refine ⟨rfl, fun stage => ?_⟩
    cases stage with
    | vertex => exact hvertex
    | fragment => exact hfragment
  · rintro ⟨hmodules, hcode⟩
    refine bind_eq_ok.2 ⟨_, hcode .vertex, bind_eq_ok.2 ⟨_, hcode .fragment, ?_⟩⟩
    rw [← hmodules]
    rfl

/-- A program is made of what was read and of the code of its stages. -/
lemma exists_plan_of_assemble {catalog : Catalog} {check : Bool} {r : Request} {j : Journal}
    {p : Program} (h : ((a.assemble catalog check r).outcome j).1 = .ok p) :
    ∃ plan : Plan, Injection.ofApplication r.inject = .ok plan.injections ∧
      Hook.ofDeclarations r.hooks = .ok plan.hooks ∧ p.modules = plan.modules ∧
      ∀ stage, a.stageCode stage (r.source stage) (stageRequest r plan stage) =
        .ok (p.code stage) := by
  rw [yields_assemble a catalog check r j] at h
  obtain ⟨plan, hplan, hbuilding⟩ := bind_eq_ok.1 h
  have hread : Call.IsReadAs ⟨catalog, a.registry, check, r⟩ plan :=
    Call.isReadAs_of_reading (a := a) hplan
  exact ⟨plan, hread.injections, hread.hooks, building_eq_ok_iff.1 hbuilding⟩

/-- **Separation of the stages.**  Programs of one assembler whose requests and modules agree for a
stage have the same code of this stage. -/
theorem code_eq_of_agreesFor {stage : Stage} {c d : Catalog} {check check' : Bool} {r s : Request}
    {j j' : Journal} {p q : Program} (hp : ((a.assemble c check r).outcome j).1 = .ok p)
    (hq : ((a.assemble d check' s).outcome j').1 = .ok q) (hrequests : r.AgreesFor stage s)
    (hmodules : List.Forall₂ (ShaderModule.AgreesFor stage) p.modules q.modules) :
    p.code stage = q.code stage := by
  obtain ⟨plan, hinjections, hhooks, hplan, hcode⟩ := exists_plan_of_assemble hp
  obtain ⟨plan', hinjections', hhooks', hplan', hcode'⟩ := exists_plan_of_assemble hq
  have hsame := hrequests.injections
  have hsame' := hrequests.hooks
  rw [hinjections, hinjections'] at hsame
  rw [hhooks, hhooks'] at hsame'
  rw [hplan, hplan'] at hmodules
  have hagrees : (stageRequest r plan stage).AgreesFor stage (stageRequest s plan' stage) :=
    { modules := hmodules
      id := hrequests.id
      defines := hrequests.defines
      injections := Except.ok.inj hsame
      hooks := Except.ok.inj hsame'
      toOldest := hrequests.toOldest
      hasPrologue := hrequests.hasPrologue }
  have hstage := hcode stage
  rw [stageCode_eq_of_agreesFor hagrees, hrequests.source, hcode'] at hstage
  exact (Except.ok.inj hstage).symm

end Assembler

/-- A module that has the given code for the fragment stage. -/
def tint (code : String) : ShaderModule where
  ref := ⟨0, "tint"⟩
  vertex := .template "float tint();"
  fragment := .template code
  dependencies := []
  defines := ⟨[], .number 0⟩
  vertexInjections := [⟨"vs:shade", .hook .vertex "shade", "x = tint();", .whole 0⟩]
  fragmentInjections := [⟨"fs:#decl", .declarations .fragment, code, .whole 0⟩]
  uniforms := []
  driver := none
  deprecations := []

/-- A request with the given code in the fragment stage. -/
def tintedRequest (code : String) : Request where
  vertex := .text "void main() \x7b\nshade();\n\x7d\n"
  fragment := .text ("void main() \x7b" ++ code ++ "\x7d\n")
  id := .null
  modules := .tuple [.moduleRef ⟨0, "tint"⟩]
  defines := .null
  hooks := .tuple [.text ("fs:" ++ code ++ "()"), .text "vs:shade()"]
  inject := .map .plain [(.text ("fs:" ++ code), .text code), (.text "vs:#decl", .text "float x;")]
  toOldest := .bool false
  hasPrologue := .bool false

lemma resolve_tint (code : String) :
    resolveValue ⟨[tint code], none⟩ (.tuple [.moduleRef ⟨0, "tint"⟩]) = .ok [tint code] := by
  cbv

/-- The injections of the request. -/
def tintedInjections (code : String) : List Injection :=
  [⟨"fs:" ++ code, .hook .fragment code, code, .whole 0⟩,
    ⟨"vs:#decl", .declarations .vertex, "float x;", .whole 0⟩]

/-- The hooks of the request. -/
def tintedHooks (code : String) : List Hook :=
  [⟨.fragment, code ++ "()", .text "", .text ""⟩, ⟨.vertex, "shade()", .text "", .text ""⟩]

/-- What is read from the request becomes a program. -/
lemma assemble_tintedRequest (code : String) {key : String}
    {vertex fragment : Glsl.VersionedSource} {p : Program}
    (hvertex : Glsl.VersionedSource.ofValue (tintedRequest code).vertex = .ok vertex)
    (hfragment : Glsl.VersionedSource.ofValue (tintedRequest code).fragment = .ok fragment)
    (hinjections : Injection.ofApplication (tintedRequest code).inject =
      .ok (tintedInjections code))
    (hhooks : Hook.ofDeclarations (tintedRequest code).hooks = .ok (tintedHooks code))
    (hkey : (tintedRequest code).key [tint code] = .ok key)
    (hbuilding : unconverting.building (tintedRequest code)
      ⟨[tint code], tintedInjections code, tintedHooks code, ""⟩ = .ok p) :
    ((unconverting.assemble [tint code] false (tintedRequest code)).outcome {}).1 = .ok p := by
  have hreading : unconverting.reading [tint code] false (tintedRequest code) =
      .ok ⟨[tint code], tintedInjections code, tintedHooks code, key⟩ :=
    Assembler.reading_eq_ok hvertex hfragment rfl (resolve_tint code) hinjections hhooks hkey
  rw [Assembler.yields_assemble]
  rw [Assembler.building_key _ _ _ _ "" key] at hbuilding
  exact bind_eq_ok.2 ⟨_, hreading, hbuilding⟩

/-- Two requests that differ in all that concerns the fragment stage. -/
theorem tintedRequest_same_vertex :
    ∃ p q : Program,
      ((unconverting.assemble [tint "a"] false (tintedRequest "a")).outcome {}).1 = .ok p ∧
      ((unconverting.assemble [tint "b"] false (tintedRequest "b")).outcome {}).1 = .ok q ∧
      p.code .vertex = q.code .vertex ∧ p.code .fragment ≠ q.code .fragment := by
  have hinjections : Injection.ofApplication (tintedRequest "a").inject =
      .ok (tintedInjections "a") := toOption_eq_some.1 (by decide +kernel)
  have hinjections' : Injection.ofApplication (tintedRequest "b").inject =
      .ok (tintedInjections "b") := toOption_eq_some.1 (by decide +kernel)
  have hhooks : Hook.ofDeclarations (tintedRequest "a").hooks = .ok (tintedHooks "a") := rfl
  have hhooks' : Hook.ofDeclarations (tintedRequest "b").hooks = .ok (tintedHooks "b") := rfl
  obtain ⟨vertex, hvertex⟩ := exists_of_isSome_toOption
    (x := Glsl.VersionedSource.ofValue (tintedRequest "a").vertex) (by decide +kernel)
  obtain ⟨fragment, hfragment⟩ := exists_of_isSome_toOption
    (x := Glsl.VersionedSource.ofValue (tintedRequest "a").fragment) (by decide +kernel)
  obtain ⟨fragment', hfragment'⟩ := exists_of_isSome_toOption
    (x := Glsl.VersionedSource.ofValue (tintedRequest "b").fragment) (by decide +kernel)
  obtain ⟨key, hkey⟩ := exists_of_isSome_toOption
    (x := (tintedRequest "a").key [tint "a"]) (by decide +kernel)
  obtain ⟨key', hkey'⟩ := exists_of_isSome_toOption
    (x := (tintedRequest "b").key [tint "b"]) (by decide +kernel)
  obtain ⟨p, hp⟩ := exists_of_isSome_toOption (x := unconverting.building (tintedRequest "a")
    ⟨[tint "a"], tintedInjections "a", tintedHooks "a", ""⟩) (by decide +kernel)
  obtain ⟨q, hq⟩ := exists_of_isSome_toOption (x := unconverting.building (tintedRequest "b")
    ⟨[tint "b"], tintedInjections "b", tintedHooks "b", ""⟩) (by decide +kernel)
  have hmade := assemble_tintedRequest "a" hvertex hfragment hinjections hhooks hkey hp
  have hmade' := assemble_tintedRequest "b" hvertex hfragment' hinjections' hhooks' hkey' hq
  have hrequests : (tintedRequest "a").AgreesFor .vertex (tintedRequest "b") :=
    { source := rfl
      id := rfl
      defines := rfl
      hooks := by
        rw [hhooks, hhooks']
        rfl
      injections := by
        rw [hinjections, hinjections']
        exact toOption_eq_some.1 (by decide +kernel)
      toOldest := rfl
      hasPrologue := rfl }
  have hmodules : List.Forall₂ (ShaderModule.AgreesFor .vertex) p.modules q.modules := by
    rw [Assembler.modules_of_building hp, Assembler.modules_of_building hq]
    exact .cons ⟨rfl, rfl, rfl, rfl⟩ .nil
  have hdiffer : (unconverting.building (tintedRequest "a")
        ⟨[tint "a"], tintedInjections "a", tintedHooks "a", ""⟩).toOption.map (·.fragment) ≠
      (unconverting.building (tintedRequest "b")
        ⟨[tint "b"], tintedInjections "b", tintedHooks "b", ""⟩).toOption.map (·.fragment) := by
    decide +kernel
  refine ⟨p, q, hmade, hmade', Assembler.code_eq_of_agreesFor hmade hmade' hrequests hmodules, ?_⟩
  intro hsame
  rw [hp, hq] at hdiffer
  exact hdiffer (congrArg some hsame)

end ShaderLoom
