import ShaderLoom.Proofs.Defines.Override
import ShaderLoom.Proofs.Uniform.Propagation

/-!
# Defines along dependencies

Resolution puts a module after the ones that it needs, and merging lets the last module with a key
win. So under a key that the application leaves alone, a module overrides everything that it needs:
the value comes from the module itself or from a later one, and the modules before it could be any
others (`dependents_override`). The keys do not follow the values: each stands where it was
contributed first.
-/

namespace ShaderLoom

open Resolution

namespace Defines

/-- The entries that the defines of an application are read as. -/
def given? (application : Value) : Answer Entries := do
  (← application.orElse (.map .plain [])).entriesOf

variable {modules : List ShaderModule} {given : Entries}

lemma merge_of_given? {application : Value} (h : given? application = .ok given) :
    merge modules application = .ok (Entries.union (sources modules given)) := by
  obtain ⟨v, hv, hentries⟩ := bind_eq_ok.1 h
  rw [sources, Entries.union_concat, ← ofModules_eq_union]
  refine bind_eq_ok.2 ⟨v, hv, bind_eq_ok.2 ⟨given, hentries, rfl⟩⟩

lemma keys_union_sources (modules : List ShaderModule) (given : Entries) :
    (Entries.union (sources modules given)).keys =
      (modules.flatMap (·.defines.entries.keys) ++ given.keys).eraseDupsBy
        fun k k' => k'.sameKey k := by
  rw [Entries.keys_union, sources, List.flatMap_append, List.flatMap_map, List.flatMap_singleton]

/-! ### Maps with each key once -/

lemma entriesProper_defines {m : ShaderModule} (hm : m.defines.toValue.IsProper) :
    Value.EntriesProper m.defines.entries := by
  rwa [SealedMap.toValue, Value.IsProper] at hm

lemma isProper_of_mem_sources (hmodules : ∀ m ∈ modules, m.defines.toValue.IsProper)
    (hgiven : ∀ a ∈ given.keys, a.IsProper) :
    ∀ es ∈ sources modules given, ∀ a ∈ es.keys, a.IsProper := by
  intro es hes a ha
  rcases List.mem_append.1 hes with hes | hes
  · obtain ⟨m, hm, rfl⟩ := List.mem_map.1 hes
    obtain ⟨e, he, rfl⟩ := List.mem_map.1 ha
    exact ((Value.entriesProper_iff.1 (entriesProper_defines (hmodules m hm))).1 e he).1
  · obtain rfl : es = given := by simpa using hes
    exact hgiven a ha

/-! ### The last module with a key -/

lemma exists_last_with {k : Value} {m : ShaderModule} (hmem : m ∈ modules)
    (hm : m.defines.entries.has k = true) :
    ∃ earlier n later, modules = earlier ++ n :: later ∧ n.defines.entries.has k = true ∧
      ∀ n' ∈ later, n'.defines.entries.has k = false := by
  induction modules using List.reverseRecOn with
  | nil => simp at hmem
  | append_singleton modules last ih =>
    by_cases hlast : last.defines.entries.has k = true
    · exact ⟨modules, last, [], rfl, hlast, by simp⟩
    · have hne : m ≠ last := by
        rintro rfl
        exact hlast hm
      have hfront : m ∈ modules := by simpa [hne] using hmem
      obtain ⟨earlier, n, later, rfl, hn, hlater⟩ := ih hfront
      refine ⟨earlier, n, later ++ [last], by simp, hn, fun n' hn' => ?_⟩
      rcases List.mem_append.1 hn' with hn' | hn'
      · exact hlater n' hn'
      · obtain rfl : n' = last := by simpa using hn'
        exact Bool.not_eq_true _ ▸ hlast

/-- Under a key that neither later modules nor the application have, a module decides. -/
lemma get?_union_sources {k : Value} (hk : k.IsProper) {earlier later : List ShaderModule}
    {n : ShaderModule} (hmodules : ∀ m ∈ earlier ++ n :: later, m.defines.toValue.IsProper)
    (hgiven : ∀ a ∈ given.keys, a.IsProper) (hnone : given.has k = false)
    (hn : n.defines.entries.has k = true)
    (hlater : ∀ m ∈ later, m.defines.entries.has k = false) :
    (Entries.union (sources (earlier ++ n :: later) given)).get? k =
      n.defines.entries.get? k := by
  have hproper := isProper_of_mem_sources hmodules hgiven
  have hsources : sources (earlier ++ n :: later) given =
      earlier.map (·.defines.entries) ++
        n.defines.entries :: (later.map (·.defines.entries) ++ [given]) := by
    simp [sources]
  rw [hsources] at hproper ⊢
  refine Entries.get?_union_of_last (Value.agreesOn_isProper.isClassOn hk) hproper ?_ hn ?_
  · exact (Value.entriesProper_iff.1 (entriesProper_defines (hmodules n (by simp)))).2
  · intro es hes
    rcases List.mem_append.1 hes with hes | hes
    · obtain ⟨m, hm, rfl⟩ := List.mem_map.1 hes
      exact hlater m hm
    · obtain rfl : es = given := by simpa using hes
      exact hnone

/-- The last module with a key does not stand before another one with the key. -/
lemma le_length_of_last {k : Value} {earlier later : List ShaderModule} {n m : ShaderModule}
    {i : ℕ} (hi : (earlier ++ n :: later)[i]? = some m) (hm : m.defines.entries.has k = true)
    (hlater : ∀ m ∈ later, m.defines.entries.has k = false) : i ≤ earlier.length := by
  by_contra hlt
  obtain ⟨l, rfl⟩ : ∃ l, i = earlier.length + (l + 1) := ⟨i - earlier.length - 1, by omega⟩
  rw [List.getElem?_append_right (by omega), Nat.add_sub_cancel_left,
    List.getElem?_cons_succ] at hi
  rw [hlater m (List.mem_of_getElem? hi)] at hm
  exact absurd hm (by simp)

/-- **Dependents override what they depend on.**  The merged defines of a resolved list of modules
and an application have the keys of both and no others, each at the place of its first contribution.
Under a key that the application does not have, but some module has, the value is that of the last
module with the key. It stands no earlier than the given module, and the modules before this one
could be any others. So it is none of the modules that the given one needs, which all stand before
it. -/
theorem dependents_override {d : Directory} {requests : List Value} {t : List ShaderModule}
    {application : Value} {given : Entries} (hresolve : resolve d requests = .ok t)
    (hgiven : given? application = .ok given)
    (hmodules : ∀ m ∈ t, m.defines.toValue.IsProper)
    (happlication : ∀ k ∈ given.keys, k.IsProper) :
    ∃ merged, merge t application = .ok merged ∧
      merged.keys = (t.flatMap (·.defines.entries.keys) ++ given.keys).eraseDupsBy
        (fun k k' => k'.sameKey k) ∧
      ∀ k : Value, k.IsProper → given.has k = false →
        ∀ i m, t[i]? = some m → m.defines.entries.has k = true →
          (∃ earlier n later, t = earlier ++ n :: later ∧ i ≤ earlier.length ∧
            n.defines.entries.has k = true ∧
            (∀ n' ∈ later, n'.defines.entries.has k = false) ∧
            merged.get? k = n.defines.entries.get? k ∧
            ∀ name, Needs d t m name →
              n.name ≠ name ∧ ∃ n' ∈ earlier.take i, n'.name = name) ∧
          ∀ front, (∀ n ∈ front, n.defines.toValue.IsProper) →
            ∃ merged', merge (front ++ t.drop i) application = .ok merged' ∧
              merged'.get? k = merged.get? k := by
  refine ⟨_, merge_of_given? hgiven, keys_union_sources t given, ?_⟩
  intro k hk hnone i m hi hm
  obtain ⟨earlier, n, later, rfl, hn, hlater⟩ := exists_last_with (List.mem_of_getElem? hi) hm
  have hle : i ≤ earlier.length := le_length_of_last hi hm hlater
  have hvalue := get?_union_sources hk hmodules happlication hnone hn hlater
  constructor
  · refine ⟨earlier, n, later, rfl, hle, hn, hlater, hvalue, fun name hneeds => ?_⟩
    have hsound := (sound_resolve hresolve).1
    obtain ⟨j, hj, n', hn', hname⟩ := hneeds.before hsound hi
    have hjlt : j < earlier.length := by omega
    rw [List.getElem?_append_left hjlt] at hn'
    have hmem : n' ∈ earlier.take i :=
      List.mem_of_getElem? (by rw [List.getElem?_take_of_lt hj, hn'])
    refine ⟨?_, n', hmem, hname⟩
    -- names are distinct, and the needed module stands before the last one with the key
    have hnodup := hsound.nodup
    rw [List.map_append, List.nodup_append] at hnodup
    intro heq
    refine hnodup.2.2 name ?_ n.name (by simp) heq.symm
    exact List.mem_map.2 ⟨n', List.mem_of_mem_take hmem, hname⟩
  · intro front hfront
    refine ⟨_, merge_of_given? hgiven, ?_⟩
    have hdrop : front ++ (earlier ++ n :: later).drop i =
        (front ++ earlier.drop i) ++ n :: later := by
      rw [List.drop_append_of_le_length hle, List.append_assoc]
    rw [hvalue, hdrop]
    refine get?_union_sources hk ?_ happlication hnone hn hlater
    intro m' hm'
    rw [List.append_assoc] at hm'
    rcases List.mem_append.1 hm' with hm' | hm'
    · exact hfront m' hm'
    · refine hmodules m' ?_
      rw [← List.drop_append_of_le_length hle] at hm'
      exact List.mem_of_mem_drop hm'

end Defines

/-- A module with defines. -/
def ShaderModule.defining (id : ℕ) (name : String) (dependencies : List Value) (defines : Entries) :
    ShaderModule :=
  { ShaderModule.plain id name dependencies with defines := ⟨defines, .mapping []⟩ }

/-- Two modules that override the quality of the one they depend on, and one that needs all. -/
def qualityModules : List ShaderModule :=
  [.defining 0 "base" [] [(.text "quality", .int 1), (.text "debug", .int 0)],
    .defining 1 "left" [.moduleRef ⟨0, "base"⟩] [(.text "glow", .bool true), (.text "quality", .int 2)],
    .defining 2 "right" [.moduleRef ⟨0, "base"⟩] [(.text "quality", .int 3)],
    .defining 3 "top" [.moduleRef ⟨1, "left"⟩, .moduleRef ⟨2, "right"⟩] []]

/-- Of the two modules that override the quality the later one decides, and not what they need. -/
theorem qualityModules_override :
    resolve ⟨qualityModules, none⟩ [.moduleRef ⟨3, "top"⟩] = .ok qualityModules ∧
    Needs ⟨qualityModules, none⟩ qualityModules qualityModules[1] "base" ∧
    ∃ merged, Defines.merge qualityModules (.map .plain [(.text "debug", .int 7)]) = .ok merged ∧
      merged.keys = [.text "quality", .text "debug", .text "glow"] ∧
      ∃ n : ShaderModule, n.name ≠ "base" ∧ merged.get? (.text "quality") =
        n.defines.entries.get? (.text "quality") := by
  have hresolve : resolve ⟨qualityModules, none⟩ [.moduleRef ⟨3, "top"⟩] = .ok qualityModules := by
    cbv
  have hneeds : Needs ⟨qualityModules, none⟩ qualityModules qualityModules[1] "base" :=
    .direct (k := qualityModules[0]) ⟨.moduleRef ⟨0, "base"⟩, by
      simp [qualityModules, ShaderModule.defining, ShaderModule.plain], rfl⟩
  have hproper : ∀ m ∈ qualityModules, m.defines.toValue.IsProper := by
    intro m hm
    simp only [qualityModules, List.mem_cons, List.not_mem_nil, or_false] at hm
    rcases hm with rfl | rfl | rfl | rfl <;>
      simp [ShaderModule.defining, SealedMap.toValue, Value.IsProper, Value.EntriesProper]
  obtain ⟨merged, hmerged, hkeys, hoverride⟩ :=
    @Defines.dependents_override _ _ _ (.map .plain [(.text "debug", .int 7)])
      [(.text "debug", .int 7)] hresolve rfl hproper (by simp [Entries.keys, Value.IsProper])
  obtain ⟨⟨earlier, n, later, -, -, -, -, hvalue, hnames⟩, -⟩ :=
    hoverride (.text "quality") trivial rfl 1 _ rfl rfl
  exact ⟨hresolve, hneeds, merged, hmerged, hkeys.trans (by rfl), n, (hnames _ hneeds).1, hvalue⟩

end ShaderLoom
