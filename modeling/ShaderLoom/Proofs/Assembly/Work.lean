import ShaderLoom.Assembly.Stage
import ShaderLoom.Proofs.Outcome

/-!
# The result of work

Work reads nothing from the journal that it keeps. So its result is the same whatever journal it
starts with, and can be given without one (`Work.Yields`); for a stage this is
`Assembler.stageCode`.
-/

namespace ShaderLoom

namespace Work

variable {α β : Type}

/-- The outcome of work that starts with a journal, and the journal that it leaves. -/
def outcome (w : Work α) (j : Journal) : Result α × Journal := w.run.run j

/-- Whatever journal it starts with, the work has this result. -/
def Yields (w : Work α) (x : Result α) : Prop := ∀ j, (w.outcome j).1 = x

lemma outcome_bind (w : Work α) (f : α → Work β) (j : Journal) :
    (w >>= f).outcome j =
      match w.outcome j with
      | (.ok x, j') => (f x).outcome j'
      | (.error e, j') => (.error e, j') := by
  unfold outcome
  rw [ExceptT.run_bind, StateT.run_bind]
  match w.run.run j with
  | (.ok x, j') => rfl
  | (.error e, j') => rfl

lemma Yields.bind {w : Work α} {x : Result α} {f : α → Work β} {g : α → Result β}
    (hw : w.Yields x) (hf : ∀ a, (f a).Yields (g a)) : (w >>= f).Yields (x >>= g) := by
  intro j
  rw [outcome_bind]
  have hj := hw j
  match h : w.outcome j with
  | (.ok a, j') =>
    obtain rfl : .ok a = x := by simpa [h] using hj
    exact hf a j'
  | (.error e, j') =>
    obtain rfl : .error e = x := by simpa [h] using hj
    rfl

lemma Yields.after {w : Work α} {a : α} {f : α → Work β} {y : Result β}
    (hw : w.Yields (.ok a)) (hf : (f a).Yields y) : (w >>= f).Yields y := by
  intro j
  rw [outcome_bind]
  have hj := hw j
  match h : w.outcome j with
  | (.ok b, j') =>
    obtain rfl : b = a := by simpa [h] using hj
    exact hf j'
  | (.error e, j') => exact absurd hj (by simp [h])

lemma yields_pure (a : α) : (pure a : Work α).Yields (.ok a) := fun _ => rfl

lemma yields_result (x : Result α) : (liftM x : Work α).Yields x := by
  intro j
  cases x <;> rfl

lemma yields_answer (x : Answer α) : (liftM x : Work α).Yields (liftM x) :=
  yields_result (liftM x)

lemma yields_noteMissed (reports : List String) : (noteMissed reports).Yields (.ok ()) :=
  fun _ => rfl

lemma yields_noteNotices (notices : List Notice) : (noteNotices notices).Yields (.ok ()) :=
  fun _ => rfl

lemma yields_noteConversion (version : ℕ) (stage : Stage) :
    (noteConversion version stage).Yields (.ok ()) :=
  fun _ => rfl

end Work

namespace Assembler

/-- The prologue of a stage, if the code gets one. -/
def head (a : Assembler) (stage : Stage) (source : Value) (r : StageRequest) (defines : Entries) :
    Result String := do
  if ← r.hasPrologue.truth then a.prologue stage (source.text?.getD "") r.id defines else .ok ""

/-- The code of a stage below a prologue, or why there is none. -/
def codeBelow (a : Assembler) (stage : Stage) (parts : Glsl.VersionedSource) (r : StageRequest)
    (head : String) : Result String := do
  let slots := Slots.classify stage r.injections r.modules
  let modules ← a.moduleCode stage parts.version r.modules
  let declared ←
    (Splice.run stage.label slots.declarations
      (head.toList ++ modules.toList ++ declarationSection)).2
  let hooks ← Hook.codeAll r.hooks slots.hooks
  let spliced ← (Splice.run stage.label slots.body (declared ++ hooks ++ parts.body)).2
  let version ← targetVersion r.toOldest parts.version
  a.convert (String.ofList (parts.versionLine ++ '\n' :: spliced)) version stage

/-- The code of a stage, or why there is none. -/
def stageCode (a : Assembler) (stage : Stage) (source : Value) (r : StageRequest) :
    Result String := do
  let parts ← Glsl.VersionedSource.ofValue source
  let defines ← Defines.merge r.modules r.defines
  let head ← a.head stage source r defines
  a.codeBelow stage parts r head

lemma yields_splice (stage : Stage) (buckets : List Bucket) (code : List Char) :
    (splice stage buckets code).Yields (liftM (Splice.run stage.label buckets code).2) :=
  Work.Yields.after (Work.yields_noteMissed _) (Work.yields_answer _)

lemma yields_finish (a : Assembler) (stage : Stage) (version : ℕ) (code : String) :
    (a.finish stage version code).Yields (a.convert code version stage) :=
  Work.Yields.after (Work.yields_noteConversion version stage) (Work.yields_result _)

lemma yields_head {b : Answer Bool} {w : Work String} {x : Result String}
    {f : String → Work String} {g : String → Result String} (hw : w.Yields x)
    (hf : ∀ head, (f head).Yields (g head)) :
    (do if ← b then (do let head ← w; f head) else (do let head ← pure ""; f head) :
      Work String).Yields ((do if ← b then x else .ok "" : Result String) >>= g) := by
  cases b with
  | error e => exact fun _ => rfl
  | ok b =>
    refine Work.Yields.after (Work.yields_answer (.ok b)) ?_
    cases b with
    | true => exact hw.bind hf
    | false => exact Work.Yields.after (Work.yields_pure "") (hf "")

/-- The result of assembling a stage does not depend on the journal. -/
theorem yields_assembleStage (a : Assembler) (stage : Stage) (source : Value) (r : StageRequest) :
    (a.assembleStage stage source r).Yields (a.stageCode stage source r) := by
  unfold assembleStage stageCode head
  refine (Work.yields_result _).bind fun parts => ?_
  refine (Work.yields_answer _).bind fun defines => ?_
  refine yields_head (Work.yields_result _) fun head => ?_
  refine (Work.yields_result _).bind fun modules => ?_
  refine (yields_splice stage _ _).bind fun declared => ?_
  refine (Work.yields_answer _).bind fun hooks => ?_
  refine (yields_splice stage _ _).bind fun spliced => ?_
  refine (Work.yields_answer _).bind fun version => ?_
  exact yields_finish a stage version _

/-! ### Drafts -/

/-- The code of a stage before it is converted, with the steps that lead to it. -/
structure Draft (a : Assembler) (stage : Stage) (source : Value) (r : StageRequest) where
  parts : Glsl.VersionedSource
  defines : Entries
  head : String
  modules : String
  declared : List Char
  hooks : List Char
  spliced : List Char
  /-- The version that the code is converted to. -/
  version : ℕ
  split : Glsl.VersionedSource.ofValue source = .ok parts
  merge : Defines.merge r.modules r.defines = .ok defines
  write : a.head stage source r defines = .ok head
  render : a.moduleCode stage parts.version r.modules = .ok modules
  declare : (Splice.run stage.label (Slots.classify stage r.injections r.modules).declarations
    (head.toList ++ modules.toList ++ declarationSection)).2 = .ok declared
  hook : Hook.codeAll r.hooks (Slots.classify stage r.injections r.modules).hooks = .ok hooks
  splice : (Splice.run stage.label (Slots.classify stage r.injections r.modules).body
    (declared ++ hooks ++ parts.body)).2 = .ok spliced
  target : targetVersion r.toOldest parts.version = .ok version

/-- The code of a draft: the version line, and everything else below it. -/
def Draft.code {a : Assembler} {stage : Stage} {source : Value} {r : StageRequest}
    (d : Draft a stage source r) : List Char :=
  d.parts.versionLine ++ '\n' :: d.spliced

/-- The code of a stage is a draft, converted. -/
theorem stageCode_eq_ok_iff {a : Assembler} {stage : Stage} {source : Value} {r : StageRequest}
    {code : String} :
    a.stageCode stage source r = .ok code ↔
      ∃ d : Draft a stage source r,
        a.convert (String.ofList d.code) d.version stage = .ok code := by
  constructor
  · intro h
    obtain ⟨parts, hparts, h⟩ := bind_eq_ok.1 h
    obtain ⟨defines, hdefines, h⟩ := bind_eq_ok.1 h
    obtain ⟨head, hhead, h⟩ := bind_eq_ok.1 h
    obtain ⟨modules, hmodules, h⟩ := bind_eq_ok.1 h
    obtain ⟨declared, hdeclared, h⟩ := bind_eq_ok.1 h
    obtain ⟨hooks, hhooks, h⟩ := bind_eq_ok.1 h
    obtain ⟨spliced, hspliced, h⟩ := bind_eq_ok.1 h
    obtain ⟨version, hversion, h⟩ := bind_eq_ok.1 h
    rw [liftM_answer_eq_ok] at hdefines hdeclared hhooks hspliced hversion
    exact ⟨⟨parts, defines, head, modules, declared, hooks, spliced, version, hparts, hdefines,
      hhead, hmodules, hdeclared, hhooks, hspliced, hversion⟩, h⟩
  · rintro ⟨d, h⟩
    refine bind_eq_ok.2 ⟨d.parts, d.split, bind_eq_ok.2 ⟨d.defines, liftM_answer_eq_ok.2 d.merge,
      bind_eq_ok.2 ⟨d.head, d.write, bind_eq_ok.2 ⟨d.modules, d.render, ?_⟩⟩⟩⟩
    refine bind_eq_ok.2 ⟨d.declared, liftM_answer_eq_ok.2 d.declare,
      bind_eq_ok.2 ⟨d.hooks, liftM_answer_eq_ok.2 d.hook,
        bind_eq_ok.2 ⟨d.spliced, liftM_answer_eq_ok.2 d.splice, ?_⟩⟩⟩
    exact bind_eq_ok.2 ⟨d.version, liftM_answer_eq_ok.2 d.target, h⟩

/-- Without a conversion the code of a stage is its draft. -/
lemma Draft.stageCode_unconverted {a : Assembler} {stage : Stage} {source : Value}
    {r : StageRequest} (d : Draft a stage source r) :
    ({ a with convert := fun code _ _ => .ok code } : Assembler).stageCode stage source r =
      .ok (String.ofList d.code) :=
  stageCode_eq_ok_iff.2 ⟨⟨d.parts, d.defines, d.head, d.modules, d.declared, d.hooks, d.spliced,
    d.version, d.split, d.merge, d.write, d.render, d.declare, d.hook, d.splice, d.target⟩, rfl⟩

end Assembler

end ShaderLoom
