import ShaderLoom.Assembly.Program
import ShaderLoom.Proofs.Assembly.Work

/-!
# The result of putting a program together

What a request is read as and the program that is made from it, without the journal. A program that
is not looked up in a cache is one that was read and then built (`yields_assemble`).
-/

namespace ShaderLoom

namespace Assembler

/-- Look for uses of old names, which fails if one of them cannot be reported. -/
def checkNames (modules : List ShaderModule) (source : List Char) : Result Unit :=
  modules.forM fun m => do
    let _ ← m.notices source
    .ok ()

/-- What a request is read as, or why it is refused. -/
def reading (a : Assembler) (catalog : Catalog) (check : Bool) (r : Request) : Result Plan := do
  let vertex ← Glsl.VersionedSource.ofValue r.vertex
  let fragment ← Glsl.VersionedSource.ofValue r.fragment
  let requested ← r.modules.orElse (.tuple [])
  let modules ← resolveValue ⟨catalog, a.registry⟩ requested
  let injections ← Injection.ofApplication r.inject
  let hooks ← Hook.ofDeclarations r.hooks
  let _ ← if check then checkNames modules (vertex.body ++ '\n' :: fragment.body) else .ok ()
  let key ← r.key modules
  .ok ⟨modules, injections, hooks, key⟩

/-- The program of a plan, or why there is none. -/
def building (a : Assembler) (r : Request) (p : Plan) : Result Program := do
  let vertex ← a.stageCode .vertex r.vertex (stageRequest r p .vertex)
  let fragment ← a.stageCode .fragment r.fragment (stageRequest r p .fragment)
  .ok ⟨vertex, fragment, p.modules⟩

section

variable {a : Assembler}

/-- How a request is read, with uses of old names left alone. -/
lemma reading_eq_ok {catalog : Catalog} {r : Request} {vertex fragment : Glsl.VersionedSource}
    {requested : Value} {plan : Plan} (hvertex : Glsl.VersionedSource.ofValue r.vertex = .ok vertex)
    (hfragment : Glsl.VersionedSource.ofValue r.fragment = .ok fragment)
    (hrequested : r.modules.orElse (.tuple []) = .ok requested)
    (hmodules : resolveValue ⟨catalog, a.registry⟩ requested = .ok plan.modules)
    (hinjections : Injection.ofApplication r.inject = .ok plan.injections)
    (hhooks : Hook.ofDeclarations r.hooks = .ok plan.hooks)
    (hkey : r.key plan.modules = .ok plan.key) : a.reading catalog false r = .ok plan := by
  unfold reading
  rw [hvertex, hfragment, hrequested]
  show (do
    let modules ← resolveValue ⟨catalog, a.registry⟩ requested
    let injections ← Injection.ofApplication r.inject
    let hooks ← Hook.ofDeclarations r.hooks
    let key ← r.key modules
    .ok ⟨modules, injections, hooks, key⟩ : Result Plan) = _
  rw [hmodules, hinjections, hhooks]
  show (do
    let key ← r.key plan.modules
    .ok ⟨plan.modules, plan.injections, plan.hooks, key⟩ : Result Plan) = _
  rw [hkey]
  rfl

/-- The key has no part in what is built. -/
lemma building_key (r : Request) (modules : List ShaderModule) (injections : List Injection)
    (hooks : List Hook) (key key' : String) :
    a.building r ⟨modules, injections, hooks, key⟩ =
      a.building r ⟨modules, injections, hooks, key'⟩ := rfl

lemma modules_of_building {r : Request} {plan : Plan} {p : Program}
    (h : a.building r plan = .ok p) : p.modules = plan.modules := by
  obtain ⟨vertex, -, h⟩ := bind_eq_ok.1 h
  obtain ⟨fragment, -, h⟩ := bind_eq_ok.1 h
  exact (congrArg Program.modules (Except.ok.inj h)).symm

end

lemma yields_noteOldNames (modules : List ShaderModule) (source : List Char) :
    (noteOldNames modules source).Yields (checkNames modules source) := by
  induction modules with
  | nil => exact Work.yields_pure ()
  | cons m modules ih =>
    refine Work.Yields.bind ?_ fun _ => ih
    refine (Work.yields_answer (m.notices source)).bind fun notices => ?_
    exact Work.yields_noteNotices notices

theorem yields_plan (a : Assembler) (catalog : Catalog) (check : Bool) (r : Request) :
    (a.plan catalog check r).Yields (a.reading catalog check r) := by
  unfold plan reading
  refine (Work.yields_result _).bind fun vertex => ?_
  refine (Work.yields_result _).bind fun fragment => ?_
  refine (Work.yields_answer _).bind fun requested => ?_
  refine (Work.yields_result _).bind fun modules => ?_
  refine (Work.yields_result _).bind fun injections => ?_
  refine (Work.yields_result _).bind fun hooks => ?_
  have hkey : ∀ _ : Unit, (do
      let key ← r.key modules
      return ⟨modules, injections, hooks, key⟩ : Work Plan).Yields (do
      let key ← r.key modules
      .ok ⟨modules, injections, hooks, key⟩) :=
    fun _ => (Work.yields_answer _).bind fun key => Work.yields_pure _
  cases check with
  | false => exact hkey ()
  | true => exact (yields_noteOldNames modules _).bind hkey

theorem yields_build (a : Assembler) (r : Request) (p : Plan) :
    (a.build r p).Yields (a.building r p) := by
  refine (yields_assembleStage a .vertex r.vertex _).bind fun vertex => ?_
  refine (yields_assembleStage a .fragment r.fragment _).bind fun fragment => ?_
  exact Work.yields_pure _

theorem yields_assemble (a : Assembler) (catalog : Catalog) (check : Bool) (r : Request) :
    (a.assemble catalog check r).Yields (a.reading catalog check r >>= a.building r) :=
  (yields_plan a catalog check r).bind fun p => yields_build a r p

end Assembler

end ShaderLoom
