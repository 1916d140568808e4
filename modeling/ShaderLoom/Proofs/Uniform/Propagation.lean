import ShaderLoom.Module.UniformUnion
import ShaderLoom.Proofs.Entries
import ShaderLoom.Proofs.Outcome
import ShaderLoom.Proofs.Resolution.Cycle

/-!
# Uniforms along dependencies

The uniforms of modules are computed by a loop that hands every module the union of what the modules
before it gave. To say what happens in the loop, it is run with a history: `recordUniforms`
evaluates a module as `uniformEntries` does, and writes down what the module was given, what it
gave, and what it left behind. `IsHistory` is the invariant of the run. As resolution puts a module
after the ones that it needs, each module is given what those that it needs gave.
-/

namespace ShaderLoom

open Resolution

/-- One evaluation of the uniforms of a module. -/
structure Evaluation where
  module : ShaderModule
  /-- The uniforms that the module was given. -/
  before : Entries
  /-- The uniforms that it gave. -/
  returned : Entries
  /-- What became of the map that it was given. -/
  left : Value

/-- The evaluation shows what the module does for the options. -/
def Evaluation.IsDone (options : Value) (e : Evaluation) : Prop :=
  ∃ computed, e.module.evaluateUniforms options (.map .plain e.before) = .ok (computed, e.left) ∧
    computed.entriesOf = .ok e.returned

/-- Evaluate the uniforms of a module, and write the evaluation down. -/
def ShaderModule.recordUniforms (options : Value) (m : ShaderModule) (before : Entries) :
    StateT (List Evaluation) Result Entries := do
  let (computed, left) ← m.evaluateUniforms options (.map .plain before)
  let returned ← computed.entriesOf
  modify (· ++ [⟨m, before, returned, left⟩])
  return returned

/-- What is known about the evaluations of modules, from the first to the last. -/
structure IsHistory (options : Value) (modules : List ShaderModule) (log : List Evaluation) :
    Prop where
  modules_eq : log.map (·.module) = modules
  isDone : ∀ e ∈ log, e.IsDone options
  before_eq : ∀ i e, log[i]? = some e → e.before = Entries.union ((log.take i).map (·.returned))

namespace IsHistory

variable {options : Value} {modules : List ShaderModule} {log : List Evaluation}

lemma nil : IsHistory options [] [] where
  modules_eq := rfl
  isDone := by simp
  before_eq := by simp

/-- One more module is evaluated. -/
lemma concat (h : IsHistory options modules log) {e : Evaluation} (he : e.IsDone options)
    (hbefore : e.before = Entries.union (log.map (·.returned))) :
    IsHistory options (modules ++ [e.module]) (log ++ [e]) where
  modules_eq := by simp [h.modules_eq]
  isDone := by
    intro e' he'
    rcases List.mem_append.1 he' with hlog | hnew
    · exact h.isDone e' hlog
    · obtain rfl : e' = e := by simpa using hnew
      exact he
  before_eq := by
    intro i e' hi
    rcases lt_trichotomy i log.length with hlt | rfl | hgt
    · rw [List.getElem?_append_left hlt] at hi
      rw [List.take_append_of_le_length hlt.le]
      exact h.before_eq i e' hi
    · obtain rfl : e = e' := by simpa using hi
      simpa using hbefore
    · rw [List.getElem?_eq_none (by simp; omega)] at hi
      exact absurd hi (by simp)

/-- The evaluation of the module at a position. -/
lemma exists_evaluation (h : IsHistory options modules log) {i : ℕ} {m : ShaderModule}
    (hi : modules[i]? = some m) : ∃ e, log[i]? = some e ∧ e.module = m := by
  rw [← h.modules_eq, List.getElem?_map] at hi
  obtain ⟨e, he, rfl⟩ := Option.map_eq_some_iff.1 hi
  exact ⟨e, he, rfl⟩

end IsHistory

/-! ### The run of the loop -/

section Run

variable {options : Value}

lemma uniformEntries_eq_ok {m : ShaderModule} {before returned : Entries} :
    m.uniformEntries options before = .ok returned ↔
      ∃ left, (⟨m, before, returned, left⟩ : Evaluation).IsDone options := by
  unfold ShaderModule.uniformEntries ShaderModule.computeUniforms Evaluation.IsDone
  constructor
  · intro h
    obtain ⟨computed, hcomputed, h⟩ := bind_eq_ok.1 h
    obtain ⟨⟨v, left⟩, hv, hfirst⟩ := bind_eq_ok.1 hcomputed
    obtain rfl : v = computed := by simpa using hfirst
    obtain ⟨es, hes, h⟩ := bind_eq_ok.1 h
    obtain rfl : es = returned := by simpa using h
    exact ⟨left, v, hv, liftM_answer_eq_ok.1 hes⟩
  · rintro ⟨left, computed, hcomputed, hes⟩
    refine bind_eq_ok.2 ⟨computed, bind_eq_ok.2 ⟨_, hcomputed, rfl⟩, ?_⟩
    exact bind_eq_ok.2 ⟨returned, liftM_answer_eq_ok.2 hes, rfl⟩

lemma recordUniforms_run {e : Evaluation} (h : e.IsDone options) (log : List Evaluation) :
    (e.module.recordUniforms options e.before).run log = .ok (e.returned, log ++ [e]) := by
  obtain ⟨computed, hcomputed, hentries⟩ := h
  unfold ShaderModule.recordUniforms
  rw [StateT.run_bind, hcomputed]
  refine bind_eq_ok.2 ⟨((computed, e.left), log), rfl, ?_⟩
  dsimp only
  rw [StateT.run_bind, hentries]
  rfl

lemma extendUniforms_eq_ok {before after : Entries} {m : ShaderModule} :
    extendUniforms (ShaderModule.uniformEntries options) before m = .ok after ↔
      ∃ returned left, (⟨m, before, returned, left⟩ : Evaluation).IsDone options ∧
        before.putAll returned = after := by
  unfold extendUniforms
  rw [bind_eq_ok]
  constructor
  · rintro ⟨returned, hreturned, hafter⟩
    obtain ⟨left, hdone⟩ := uniformEntries_eq_ok.1 hreturned
    exact ⟨returned, left, hdone, Except.ok.inj hafter⟩
  · rintro ⟨returned, left, hdone, rfl⟩
    exact ⟨returned, uniformEntries_eq_ok.2 ⟨left, hdone⟩, rfl⟩

/-- The run with a history does what the run without one does. -/
lemma exists_history_foldlM {done rest : List ShaderModule} {log : List Evaluation}
    {before result : Entries} (h : IsHistory options done log)
    (hbefore : before = Entries.union (log.map (·.returned)))
    (hrun : rest.foldlM (extendUniforms (ShaderModule.uniformEntries options)) before =
      .ok result) :
    ∃ log', IsHistory options (done ++ rest) log' ∧
      result = Entries.union (log'.map (·.returned)) ∧
      (rest.foldlM (extendUniforms (ShaderModule.recordUniforms options)) before).run log =
        .ok (result, log') := by
  -- the induction is on the modules that are left; the history is that of the ones before them
  induction rest generalizing done log before with
  | nil =>
    obtain rfl : before = result := Except.ok.inj hrun
    exact ⟨log, by simpa using h, hbefore, rfl⟩
  | cons m rest ih =>
    rw [List.foldlM_cons] at hrun ⊢
    obtain ⟨after, hafter, hrun⟩ := bind_eq_ok.1 hrun
    obtain ⟨returned, left, hdone, rfl⟩ := extendUniforms_eq_ok.1 hafter
    obtain ⟨log', hlog', hresult, hrecord⟩ :=
      ih (h.concat hdone hbefore) (by simp [hbefore]) hrun
    refine ⟨log', by simpa using hlog', hresult, ?_⟩
    rw [StateT.run_bind]
    refine bind_eq_ok.2 ⟨(_, log ++ [⟨m, before, returned, left⟩]), ?_, hrecord⟩
    rw [extendUniforms, StateT.run_bind, recordUniforms_run hdone log]
    rfl

/-- The run over all modules has a history. -/
lemma exists_history {modules : List ShaderModule} {result : Entries}
    (h : uniteUniforms (ShaderModule.uniformEntries options) modules = .ok result) :
    ∃ log, IsHistory options modules log ∧
      result = Entries.union (log.map (·.returned)) ∧
      (uniteUniforms (ShaderModule.recordUniforms options) modules).run [] = .ok (result, log) :=
  exists_history_foldlM IsHistory.nil rfl h

end Run

/-! ### What is left behind -/

/-- The module whose driver returns the same and leaves the map that it is given as it is. -/
def ShaderModule.withoutTraces (m : ShaderModule) : ShaderModule :=
  { m with
    driver := m.driver.map fun f options previous => do
      let (computed, _) ← f options previous
      .ok (computed, previous) }

lemma computeUniforms_withoutTraces (m : ShaderModule) (options previous : Value) :
    m.withoutTraces.computeUniforms options previous = m.computeUniforms options previous := by
  unfold ShaderModule.computeUniforms ShaderModule.evaluateUniforms ShaderModule.withoutTraces
  cases m.driver with
  | none => rfl
  | some f =>
    cases options.orElse (.map .plain []) with
    | error e => rfl
    | ok given =>
      cases previous.orElse (.map .plain []) with
      | error e => rfl
      | ok before =>
        change (liftM (f given before >>= fun p => (.ok (p.1, before) : Answer _)) : Result _) >>=
            (fun p => .ok p.1) = (liftM (f given before) : Result _) >>= fun p => .ok p.1
        cases f given before <;> rfl

lemma extendUniforms_withoutTraces (options : Value) (before : Entries) (m : ShaderModule) :
    extendUniforms (ShaderModule.uniformEntries options) before m.withoutTraces =
      extendUniforms (ShaderModule.uniformEntries options) before m := by
  simp only [extendUniforms, ShaderModule.uniformEntries, computeUniforms_withoutTraces]

/-- What drivers leave behind has no effect. -/
lemma combineUniforms_withoutTraces (modules : List ShaderModule) (options : Value) :
    combineUniforms (modules.map (·.withoutTraces)) options = combineUniforms modules options := by
  unfold combineUniforms uniteUniforms
  simp only [List.foldlM_map, extendUniforms_withoutTraces]

/-! ### What modules need -/

namespace Resolution

/-- The names that a module needs when names lead to modules of a list: those of the modules it
depends on, and those that the modules of the list with these names need. -/
inductive Needs (d : Directory) (t : List ShaderModule) : ShaderModule → String → Prop
  | direct {m k : ShaderModule} (hk : DependsOn d m k) : Needs d t m k.name
  | through {m k n : ShaderModule} {name : String} (hk : DependsOn d m k) (hn : n ∈ t)
      (hname : n.name = k.name) (hneeds : Needs d t n name) : Needs d t m name

variable {d : Directory} {requests : List Value} {t : List ShaderModule}

/-- The module of a needed name stands before the module that needs it. -/
lemma Needs.before (hsound : Sound d requests [] t) {m : ShaderModule} {name : String}
    (h : Needs d t m name) {i : ℕ} (hi : t[i]? = some m) :
    ∃ j < i, ∃ n, t[j]? = some n ∧ n.name = name := by
  have direct : ∀ {m k : ShaderModule} {i : ℕ}, DependsOn d m k → t[i]? = some m →
      ∃ j < i, ∃ n, t[j]? = some n ∧ n.name = k.name := by
    rintro m k i ⟨v, hv, hk⟩ hi
    obtain ⟨k', hk', hbefore⟩ := hsound.lookup_before hi hv
    obtain rfl : k = k' := Except.ok.inj (hk.symm.trans hk')
    exact hbefore
  induction h generalizing i with
  | direct hk => exact direct hk hi
  | @through m k n name hk hn hname _ ih =>
    obtain ⟨j, hj, n', hn', hname'⟩ := direct hk hi
    -- names are distinct, so the module found before is the one that the path goes through
    obtain rfl : n' = n :=
      List.inj_on_of_nodup_map hsound.nodup (List.mem_of_getElem? hn') hn (hname'.trans hname.symm)
    obtain ⟨l, hl, hbefore⟩ := ih hn'
    exact ⟨l, hl.trans hj, hbefore⟩

/-- If no two reached modules share a name, a module needs the names of all modules that it depends
on, directly or not. -/
lemma needs_of_transGen (hnames : NamesDistinguish d requests) (h : resolve d requests = .ok t)
    {m n : ShaderModule} (hm : Reached d requests m) (hn : Relation.TransGen (DependsOn d) m n) :
    Needs d t m n.name := by
  induction hn using Relation.TransGen.head_induction_on with
  | single hk => exact .direct hk
  | head hk _ ih =>
    have hreached := Reached.dependency hm hk
    exact .through hk (mem_of_reached hnames h hreached) rfl (ih hreached)

end Resolution

/-- **Uniforms along dependencies.**  If the uniforms of a resolved list of modules can be computed
for some options, the run evaluates each module once, in the sequence of the list. A module is given
the union of what the modules before it gave, in which the last one with a key wins, and so all that
the modules gave which it needs, and nothing that was only left behind. The result is the union of
what all modules gave. -/
theorem uniforms_propagate {d : Directory} {requests : List Value} {t : List ShaderModule}
    {options : Value} {result : Entries} (hresolve : resolve d requests = .ok t)
    (hresult : combineUniforms t options = .ok result) :
    ∃ given log,
      options.orElse (.map .plain []) = .ok given ∧
      (uniteUniforms (ShaderModule.recordUniforms given) t).run [] = .ok (result, log) ∧
      log.map (·.module) = t ∧
      (∀ e ∈ log, e.IsDone given) ∧
      (∀ i e, log[i]? = some e →
        e.before = Entries.union ((log.take i).map (·.returned)) ∧
        Entries.IsUnion e.before ((log.take i).map (·.returned)) ∧
        ∀ name, Needs d t e.module name →
          ∃ e' ∈ log.take i, e'.module.name = name ∧ ∀ k ∈ e'.returned.keys, e.before.Holds k) ∧
      result = Entries.union (log.map (·.returned)) ∧
      Entries.IsUnion result (log.map (·.returned)) ∧
      combineUniforms (t.map (·.withoutTraces)) options = .ok result ∧
      (NamesDistinguish d requests → ∀ m ∈ t, ∀ n, Relation.TransGen (DependsOn d) m n →
        Needs d t m n.name) := by
  have hsound := (sound_resolve hresolve).1
  obtain ⟨given, hgiven, hunite⟩ := bind_eq_ok.1 hresult
  obtain ⟨log, hlog, hunion, hrun⟩ := exists_history hunite
  refine ⟨given, log, liftM_answer_eq_ok.1 hgiven, hrun, hlog.modules_eq, hlog.isDone, ?_,
    hunion, hunion ▸ Entries.isUnion_union _, (combineUniforms_withoutTraces t options).trans hresult,
    fun hnames m hm n hn => needs_of_transGen hnames hresolve (hsound.reached m hm) hn⟩
  intro i e hi
  have hbefore := hlog.before_eq i e hi
  refine ⟨hbefore, hbefore ▸ Entries.isUnion_union _, ?_⟩
  intro name hneeds
  have hmodule : t[i]? = some e.module := by
    rw [← hlog.modules_eq, List.getElem?_map, hi]
    rfl
  -- the needed module has an earlier position, and its evaluation is the one at this position
  obtain ⟨j, hj, n, hn, hname⟩ := hneeds.before hsound hmodule
  obtain ⟨e', he', rfl⟩ := hlog.exists_evaluation hn
  have hmem : e' ∈ log.take i := List.mem_of_getElem? (by rw [List.getElem?_take_of_lt hj, he'])
  refine ⟨e', hmem, hname, fun k hk => ?_⟩
  rw [hbefore]
  exact Entries.holds_union (List.mem_map_of_mem hmem) hk

/-- A module with one declared uniform, a module that leaves a note in the map it is given, and a
module that gives what it was given. -/
def washModules : List ShaderModule :=
  [{ ShaderModule.plain 0 "base" [] with
      uniforms := [⟨.text "tint", .text "number", .int 1, .null, .null, false⟩] },
    { ShaderModule.plain 1 "wash" [.moduleRef ⟨0, "base"⟩] with
      driver := some fun _ previous =>
        .ok (.map .plain [(.text "wash", .int 2)], .map .plain [(.text "note", previous)]) },
    { ShaderModule.plain 2 "top" [.text "wash"] with
      driver := some fun _ previous => .ok (previous, previous) }]

/-- The modules, the second one in a registry as well. -/
def washDirectory : Directory where
  catalog := washModules
  registry := some ⟨washModules.drop 1 |>.take 1, false⟩

/-- The last module is given what both other modules gave, and the note is nowhere. -/
theorem washModules_propagate :
    resolve washDirectory [.moduleRef ⟨2, "top"⟩] = .ok washModules ∧
    combineUniforms washModules .null = .ok [(.text "tint", .int 1), (.text "wash", .int 2)] ∧
    ∃ given log e, (uniteUniforms (ShaderModule.recordUniforms given) washModules).run [] =
        .ok ([(.text "tint", .int 1), (.text "wash", .int 2)], log) ∧
      log[2]? = some e ∧
      ∃ e' ∈ log.take 2, e'.module.name = "base" ∧ ∀ k ∈ e'.returned.keys, e.before.Holds k := by
  have hresolve : resolve washDirectory [.moduleRef ⟨2, "top"⟩] = .ok washModules := by
    cbv
  have hresult : combineUniforms washModules .null =
      .ok [(.text "tint", .int 1), (.text "wash", .int 2)] := by
    rfl
  have hneeds : Needs washDirectory washModules washModules[2] "base" := by
    refine .through (k := washModules[1]) (n := washModules[1]) ?_ (by simp) rfl ?_
    · exact ⟨.text "wash", by simp [washModules, ShaderModule.plain], rfl⟩
    · refine .direct (k := washModules[0]) ⟨.moduleRef ⟨0, "base"⟩, ?_, rfl⟩
      simp [washModules, ShaderModule.plain]
  obtain ⟨given, log, -, hrun, hmodules, -, hbefore, -⟩ := uniforms_propagate hresolve hresult
  obtain ⟨e, he, hmodule⟩ : ∃ e, log[2]? = some e ∧ e.module = washModules[2] := by
    have hi : (log.map (·.module))[2]? = some washModules[2] := by rw [hmodules]; rfl
    rw [List.getElem?_map] at hi
    exact Option.map_eq_some_iff.1 hi
  refine ⟨hresolve, hresult, given, log, e, hrun, he, ?_⟩
  exact (hbefore 2 e he).2.2 "base" (hmodule ▸ hneeds)

end ShaderLoom
