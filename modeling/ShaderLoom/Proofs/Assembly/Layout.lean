import ShaderLoom.Proofs.Assembly.Work
import ShaderLoom.Proofs.Injection.Splice

/-!
# The layout of an assembled stage

The code of a stage is made of its parts, one after the other, and of nothing else but the fragments
that are inserted into them (`Assembler.assembleStage_layout`). The declarations are among the
parts: the marker that holds their place stands on a line of its own, so that they are put there and
nowhere else.
-/

namespace ShaderLoom

open Text

/-- The parts that a stage is put together from. -/
structure StageParts where
  /-- The source with its version line kept apart. -/
  source : Glsl.VersionedSource
  /-- The prologue, or nothing. -/
  prologue : List Char
  /-- The code of each module, dependencies first. -/
  modules : List String
  /-- The declarations that are injected, in the sequence of their orders. -/
  declarations : List Injection
  /-- The hook functions. -/
  hooks : List Char

/-- The contributions to the stage. -/
def StageRequest.contributions (r : StageRequest) (stage : Stage) : List Injection :=
  Slots.contributions stage r.injections r.modules

namespace StageParts

/-- The code of the modules. -/
def moduleCode (p : StageParts) : List Char := p.modules.flatMap String.toList

/-- The parts below the version line, one after the other. -/
def frame (p : StageParts) : List Char :=
  p.prologue ++ p.moduleCode ++ "\n\n".toList ++ Injection.lines p.declarations ++ "\n\n".toList ++
    p.hooks ++ p.source.body

/-- The marker of the declarations occurs in none of the parts around them, nor in themselves. -/
structure MarkerFree (p : StageParts) : Prop where
  prologue : Splice.MarkerFree p.prologue
  modules : ∀ c ∈ p.modules, Splice.MarkerFree c.toList
  declarations : ∀ i ∈ p.declarations, Splice.MarkerFree i.content.toList

/-- The parts are those that are asked for. -/
structure IsOf (p : StageParts) (a : Assembler) (stage : Stage) (source : Value)
    (r : StageRequest) : Prop where
  split : Glsl.VersionedSource.ofValue source = .ok p.source
  prologue : ∃ defines, Defines.merge r.modules r.defines = .ok defines ∧
    (r.hasPrologue.truth = .ok false ∧ p.prologue = [] ∨
      r.hasPrologue.truth = .ok true ∧ ∃ text,
        a.prologue stage (source.text?.getD "") r.id defines = .ok text ∧
          p.prologue = text.toList)
  modules : List.Forall₂
    (fun m c => m.code a.surroundings stage (.int p.source.version) = .ok c) r.modules p.modules
  arranged : Injection.arrange ((r.contributions stage).filter Slots.isDeclaration) =
    .ok p.declarations
  inOrder : Injection.InOrder ((r.contributions stage).filter Slots.isDeclaration) p.declarations
  hooks : Hook.codeAll r.hooks (Slots.classify stage r.injections r.modules).hooks = .ok p.hooks

end StageParts

/-- What a request is made of: injections that were read, modules that were made, and orders and
keys without peculiarities. -/
structure StageRequest.Regular (r : StageRequest) (stage : Stage) : Prop where
  injections : ∃ inject, Injection.ofApplication inject = .ok r.injections
  modules : ∀ m ∈ r.modules, m.IsMade
  /-- No order is without a quantity. -/
  number : ∀ i ∈ r.contributions stage, i.order.quantity ≠ .missing
  /-- No key ends with a line break. -/
  key : ∀ i ∈ r.contributions stage, endsWith '\n' i.key.toList = false

namespace StageRequest.Regular

variable {r : StageRequest} {stage : Stage}

lemma isRead (h : r.Regular stage) {i : Injection} (hi : i ∈ r.contributions stage) :
    i.IsRead ∧ i.appliesTo stage := by
  obtain ⟨inject, hinject⟩ := h.injections
  refine Slots.isRead_of_mem_contributions ?_ h.modules hi
  exact fun i hi => Injection.isRead_of_ofApplication hinject hi

/-- The declarations target the stage, under one key. -/
lemma declaration (h : r.Regular stage) {i : Injection}
    (hi : i ∈ (r.contributions stage).filter Slots.isDeclaration) :
    i.target = .declarations stage ∧ i.key = declarationKey stage := by
  obtain ⟨hmem, hdeclaration⟩ := List.mem_filter.1 hi
  obtain ⟨hread, happlies⟩ := h.isRead hmem
  have htarget : i.target = .declarations stage := by
    unfold Slots.isDeclaration at hdeclaration
    split at hdeclaration
    · next s hs =>
      obtain rfl : s = stage := by
        simpa [Injection.appliesTo, Target.appliesTo, hs, Target.stage?] using happlies
      exact hs
    · exact absurd hdeclaration (by simp)
  exact ⟨htarget, key_of_declarations hread htarget (h.key i hmem)⟩

/-- The buckets of the body belong to the stage. -/
lemma fits (h : r.Regular stage) {b : Bucket}
    (hb : b ∈ (Slots.classify stage r.injections r.modules).body) :
    Splice.Fits stage.label b := by
  have hmembers := (Bucket.groups_collect _).members b hb
  have hmem : ∀ i ∈ b.members, i ∈ r.contributions stage ∧ Slots.isBody i := by
    intro i hi
    rw [hmembers] at hi
    exact List.mem_filter.1 (List.mem_of_mem_filter hi)
  obtain ⟨hfirst, hbody⟩ := hmem b.first (by simp [Bucket.members])
  refine ⟨hbody, ?_, fun i hi => h.number i (hmem i hi).1⟩
  have happlies := (h.isRead hfirst).2
  unfold Splice.isForeign
  split
  · next s hs =>
    obtain rfl : s = stage := by simpa [Injection.appliesTo, Target.appliesTo, hs] using happlies
    simp
  · rfl

end StageRequest.Regular

namespace Assembler

variable {a : Assembler} {stage : Stage} {source : Value} {r : StageRequest}

/-! ### Parts that end with a line break -/

/-- The text is empty or ends with a line break. -/
def Ended (cs : List Char) : Prop := cs = [] ∨ ∃ front, cs = front ++ ['\n']

lemma Ended.markerFree_append {front back : List Char} (hended : Ended front)
    (hfront : Splice.MarkerFree front) (hback : Splice.MarkerFree back) :
    Splice.MarkerFree (front ++ back) := by
  rcases hended with rfl | ⟨line, rfl⟩
  · exact hback
  · rw [List.append_assoc]
    exact Splice.markerFree_append_cons.2 ⟨(Splice.markerFree_append_cons.1 hfront).1, hback⟩

lemma ended_prologue {text source : String} {id : Value} {defines : Entries}
    (h : a.prologue stage source id defines = .ok text) : Ended text.toList := by
  obtain ⟨name, -, h⟩ := bind_eq_ok.1 h
  obtain ⟨type, -, h⟩ := bind_eq_ok.1 h
  obtain ⟨application, -, h⟩ := bind_eq_ok.1 h
  obtain ⟨rendered, -, h⟩ := bind_eq_ok.1 h
  obtain rfl := Except.ok.inj h
  exact .inr ⟨rendered.toList, by simp⟩

lemma ended_code {m : ShaderModule} {surroundings : Template.Surroundings} {version : Value}
    {code : String} (h : m.code surroundings stage version = .ok code) : Ended code.toList := by
  obtain ⟨bare, -, h⟩ := bind_eq_ok.1 h
  obtain ⟨body, -, h⟩ := bind_eq_ok.1 h
  obtain rfl := Except.ok.inj h
  right
  refine ⟨["#define ", m.presenceMacro, "\n", body, "// END MODULE_", m.name,
    "\n"].flatMap String.toList, ?_⟩
  rw [toList_joinTexts_empty]
  simp

lemma markerFree_flatMap {codes : List String} (hended : ∀ c ∈ codes, Ended c.toList)
    (hfree : ∀ c ∈ codes, Splice.MarkerFree c.toList) :
    Splice.MarkerFree (codes.flatMap String.toList) := by
  induction codes with
  | nil => exact Splice.markerFree_nil
  | cons c codes ih =>
    rw [List.flatMap_cons]
    refine (hended c (by simp)).markerFree_append (hfree c (by simp)) ?_
    exact ih (fun d hd => hended d (by simp [hd])) fun d hd => hfree d (by simp [hd])

/-! ### The layout -/

lemma moduleCode_eq_ok {version : ℕ} {modules : List ShaderModule} {code : String}
    (h : a.moduleCode stage version modules = .ok code) :
    ∃ codes, List.Forall₂ (fun m c => m.code a.surroundings stage (.int version) = .ok c)
      modules codes ∧ code.toList = codes.flatMap String.toList := by
  obtain ⟨codes, hcodes, h⟩ := bind_eq_ok.1 h
  obtain rfl := Except.ok.inj h
  exact ⟨codes, mapM_eq_ok_iff.1 hcodes, toList_joinTexts_empty codes⟩

lemma head_eq_ok {defines : Entries} {head : String}
    (h : a.head stage source r defines = .ok head) :
    r.hasPrologue.truth = .ok false ∧ head.toList = [] ∨
      r.hasPrologue.truth = .ok true ∧
        a.prologue stage (source.text?.getD "") r.id defines = .ok head := by
  obtain ⟨b, hb, h⟩ := bind_eq_ok.1 h
  rw [liftM_answer_eq_ok] at hb
  cases b with
  | false =>
    obtain rfl : "" = head := by simpa using h
    exact .inl ⟨hb, by simp⟩
  | true => exact .inr ⟨hb, h⟩

/-- Finished code of a stage, when the code is not converted: the version line, and below it the
parts of the stage in their sequence, into which the fragments of the other buckets are inserted one
after the other. -/
theorem assembleStage_layout {code : String} {j : Journal}
    (hconvert : ∀ code version stage, a.convert code version stage = .ok code)
    (hregular : r.Regular stage)
    (h : ((a.assembleStage stage source r).run.run j).1 = .ok code) :
    ∃ p : StageParts, p.IsOf a stage source r ∧
      (p.MarkerFree →
        ∃ buckets spliced,
          Bucket.Groups ((r.contributions stage).filter Slots.isBody) buckets ∧
          Splice.Inserted buckets p.frame spliced ∧ p.frame.Sublist spliced ∧
          (Splice.MarkerFree spliced →
            code.toList = p.source.versionLine ++ '\n' :: spliced)) := by
  have hcode : a.stageCode stage source r = .ok code := by
    rw [← yields_assembleStage a stage source r j, Work.outcome, h]
  obtain ⟨parts, hparts, hcode⟩ := bind_eq_ok.1 hcode
  obtain ⟨defines, hdefines, hcode⟩ := bind_eq_ok.1 hcode
  obtain ⟨head, hhead, hcode⟩ := bind_eq_ok.1 hcode
  obtain ⟨modules, hmodules, hcode⟩ := bind_eq_ok.1 hcode
  obtain ⟨declared, hdeclared, hcode⟩ := bind_eq_ok.1 hcode
  obtain ⟨hooks, hhooks, hcode⟩ := bind_eq_ok.1 hcode
  obtain ⟨out, hout, hcode⟩ := bind_eq_ok.1 hcode
  obtain ⟨version, -, hcode⟩ := bind_eq_ok.1 hcode
  rw [liftM_answer_eq_ok] at hdefines hdeclared hhooks hout
  obtain ⟨codes, hcodes, hconcat⟩ := moduleCode_eq_ok hmodules
  -- the marker stands between two line breaks, so that the declarations are spliced in there
  have hsection : head.toList ++ modules.toList ++ declarationSection =
      Splice.around (head.toList ++ modules.toList) declarationMarker := by
    simp [declarationSection, Splice.around]
  rw [hsection] at hdeclared
  obtain ⟨declarations, harranged, hinOrder, hplaced⟩ :=
    Splice.run_declarations (fun i hi => (hregular.declaration hi).2)
      (fun i hi => (hregular.declaration hi).1)
      (fun i hi => hregular.number i (List.mem_of_mem_filter hi)) (Prod.ext rfl hdeclared)
  obtain ⟨spliced, hinserted, hremoved⟩ :=
    Splice.inserted_of_run (fun b hb => hregular.fits hb) (Prod.ext rfl hout)
  refine ⟨⟨parts, head.toList, codes, declarations, hooks⟩, ?_, ?_⟩
  · refine ⟨hparts, ⟨defines, hdefines, ?_⟩, hcodes, harranged, hinOrder, hhooks⟩
    rcases head_eq_ok hhead with hnone | ⟨htruth, htext⟩
    · exact .inl hnone
    · exact .inr ⟨htruth, head, htext, rfl⟩
  · intro hfree
    have hended : ∀ c ∈ codes, Ended c.toList := by
      intro c hc
      obtain ⟨m, -, hm⟩ := exists_of_mem_mapM (mapM_eq_ok_iff.2 hcodes) hc
      exact ended_code hm
    -- parts that end with a line break cannot form a marker together
    have hfront : Splice.MarkerFree (head.toList ++ modules.toList) := by
      rw [hconcat]
      have hhead : Ended head.toList := by
        rcases head_eq_ok hhead with ⟨-, hnil⟩ | ⟨-, htext⟩
        · exact .inl hnil
        · exact ended_prologue htext
      exact hhead.markerFree_append hfree.prologue (markerFree_flatMap hended hfree.modules)
    have hdeclarations : declared =
        Splice.around (head.toList ++ modules.toList) (Injection.lines declarations) :=
      hplaced hfront fun i hi => hfree.declarations i (hinOrder.perm.mem_iff.2 hi)
    have hframe : declared ++ hooks ++ parts.body =
        StageParts.frame ⟨parts, head.toList, codes, declarations, hooks⟩ := by
      simp [hdeclarations, Splice.around, StageParts.frame, StageParts.moduleCode, hconcat]
    rw [hframe] at hinserted
    refine ⟨_, spliced, Bucket.groups_collect _, hinserted, hinserted.sublist, ?_⟩
    intro hspliced
    rw [hconvert] at hcode
    rw [removeAll_of_not_occurs hspliced] at hremoved
    obtain rfl := Except.ok.inj hcode
    rw [hremoved, String.toList_ofList]

end Assembler

/-- An assembler that leaves finished code as it is. -/
def unconverting : Assembler where
  convert code _ _ := .ok code

/-- A module with a declaration that comes before all others. -/
def dimmer : ShaderModule where
  ref := ⟨0, "dim"⟩
  vertex := .template "float dim();"
  fragment := .absent
  dependencies := []
  defines := ⟨[], .number 0⟩
  vertexInjections := [⟨"vs:#decl", .declarations .vertex, "float a;", .whole (-1)⟩]
  fragmentInjections := []
  uniforms := []
  driver := none
  deprecations := []

lemma isMade_dimmer : dimmer.IsMade := by
  refine ⟨fun _ => ⟨fun _ => .error .unsupported, fun _ _ => .error .unsupported⟩, 0,
    { name := .text "dim", vertex := .text "float dim();", inject := .map .plain
        [(.text "vs:#decl", .map .plain [(.text "content", .text "float a;"),
          (.text "order", .int (-1))])] }, ?_⟩
  rfl

/-- A request with a declaration for each stage, and with code for the main function. -/
def dimmedRequest : StageRequest where
  modules := [dimmer]
  injections :=
    [⟨"vs:#main-start", .place .vertex "main-start", "a = dim();", .whole 0⟩,
      ⟨"vs:#decl", .declarations .vertex, "float b;", .whole 0⟩,
      ⟨"shade", .pattern "shade", "// bright", .real 0⟩,
      ⟨"fs:#decl", .declarations .fragment, "float c;", .whole 0⟩]
  hasPrologue := .bool false

lemma regular_dimmedRequest : dimmedRequest.Regular .vertex where
  injections := by
    refine ⟨.map .plain [(.text "vs:#main-start", .text "a = dim();"),
      (.text "vs:#decl", .text "float b;"),
      (.text "shade",
        .map .plain [(.text "content", .text "// bright"), (.text "order", .float 0)]),
      (.text "fs:#decl", .text "float c;")], ?_⟩
    exact toOption_eq_some.1 (by decide +kernel)
  modules := by
    intro m hm
    obtain rfl : m = dimmer := by simpa [dimmedRequest] using hm
    exact isMade_dimmer
  number := by decide +kernel
  key := by decide +kernel

lemma markerFree_dimmedRequest {p : StageParts}
    (hp : p.IsOf unconverting .vertex (.text "void main() \x7b\nshade();\n\x7d\n") dimmedRequest) :
    p.MarkerFree where
  prologue := by
    obtain ⟨defines, -, ⟨-, hnil⟩ | ⟨htrue, -⟩⟩ := hp.prologue
    · rw [hnil]
      exact Splice.markerFree_nil
    · exact absurd htrue (by simp [dimmedRequest, Value.truth])
  modules := by
    have hversion : p.source.version = 100 := by
      rw [← Except.ok.inj hp.split]
      decide +kernel
    intro c hc
    obtain ⟨m, hm, hcode⟩ := exists_of_mem_mapM (mapM_eq_ok_iff.2 hp.modules) hc
    obtain rfl : m = dimmer := by simpa [dimmedRequest] using hm
    rw [hversion] at hcode
    have hdim : dimmer.code unconverting.surroundings .vertex (.int 100) =
        .ok "#define MODULE_DIM\nfloat dim();\n// END MODULE_dim\n\n" :=
      toOption_eq_some.1 (by decide +kernel)
    obtain rfl : _ = c := Except.ok.inj (hdim.symm.trans hcode)
    show Text.occurs declarationMarker _ = false
    decide +kernel
  declarations := by
    intro i hi
    have hmem := hp.inOrder.perm.mem_iff.1 hi
    have hfree : ∀ i ∈ (dimmedRequest.contributions .vertex).filter Slots.isDeclaration,
        Text.occurs declarationMarker i.content.toList = false := by decide +kernel
    exact hfree i hmem

/-- The declaration of the module comes first, although it was contributed last. -/
theorem dimmedRequest_layout :
    ∃ p : StageParts,
      p.IsOf unconverting .vertex (.text "void main() \x7b\nshade();\n\x7d\n") dimmedRequest ∧
      ∃ buckets spliced,
        Bucket.Groups ((dimmedRequest.contributions .vertex).filter Slots.isBody) buckets ∧
        Splice.Inserted buckets p.frame spliced ∧ p.frame.Sublist spliced ∧
        (Splice.MarkerFree spliced →
          ("#version 100\n#define MODULE_DIM\nfloat dim();\n// END MODULE_dim\n\n\n\n" ++
            "float a;\nfloat b;\n\n\nvoid main() \x7b\na = dim();\nshade\n// bright();\n\x7d\n").toList =
            p.source.versionLine ++ '\n' :: spliced) := by
  have hcode : ((unconverting.assembleStage .vertex (.text "void main() \x7b\nshade();\n\x7d\n")
      dimmedRequest).run.run {}).1 =
      .ok ("#version 100\n#define MODULE_DIM\nfloat dim();\n// END MODULE_dim\n\n\n\n" ++
        "float a;\nfloat b;\n\n\nvoid main() \x7b\na = dim();\nshade\n// bright();\n\x7d\n") :=
    toOption_eq_some.1 (by decide +kernel)
  obtain ⟨p, hp, hlayout⟩ :=
    Assembler.assembleStage_layout (fun _ _ _ => rfl) regular_dimmedRequest hcode
  exact ⟨p, hp, hlayout (markerFree_dimmedRequest hp)⟩

end ShaderLoom
