import ShaderLoom.Hook.Basic
import ShaderLoom.Proofs.Injection.Slots

/-!
# Which hooks are kept

Of the hooks that are declared for a stage, one is kept for each key: the one that is declared last,
at the place where the key is declared first (`Hook.kept_forStage`). The key of a hook names its
stage, so the stages do not meet although all hooks are read from one list.
-/

namespace ShaderLoom

namespace Hook

variable {g h : Hook} {hs : List Hook}

/-! ### Keys -/

lemma toList_key (h : Hook) : h.key.toList = h.stage.label.toList ++ ':' :: h.name.toList := by
  simp [key, toString, String.toList_append]

lemma stage_eq_of_key (hkey : g.key = h.key) : g.stage = h.stage := by
  have hlist : g.key.toList = h.key.toList := by rw [hkey]
  rw [toList_key, toList_key] at hlist
  -- the first letter tells the stages apart
  cases hg : g.stage <;> cases hh : h.stage <;> simp [hg, hh, Stage.label] at hlist ⊢

/-! ### Putting hooks -/

lemma eq_or_mem_of_mem_put (hnodup : (hs.map key).Nodup) (hg : g ∈ put hs h) :
    g = h ∨ g ∈ hs ∧ g.key ≠ h.key := by
  induction hs with
  | nil => exact .inl (by simpa [put] using hg)
  | cons k ks ih =>
    rw [List.map_cons, List.nodup_cons] at hnodup
    rw [put] at hg
    split at hg
    · next hkey =>
      rcases List.mem_cons.1 hg with rfl | hg
      · exact .inl rfl
      · -- the hook that was replaced is the only one with its key
        refine .inr ⟨List.mem_cons_of_mem k hg, fun hgh => hnodup.1 ?_⟩
        rw [hkey, ← hgh]
        exact List.mem_map_of_mem hg
    · next hkey =>
      rcases List.mem_cons.1 hg with rfl | hg
      · exact .inr ⟨List.mem_cons_self, hkey⟩
      · exact (ih hnodup.2 hg).imp_right fun hmem => ⟨List.mem_cons_of_mem k hmem.1, hmem.2⟩

/-- The hooks that are kept of those that are declared. -/
structure Kept (declared kept : List Hook) : Prop where
  /-- There is one for each key, in the order in which the keys are first declared. -/
  keys : kept.map key = (declared.map key).eraseDups
  /-- No other hook with its key is declared after it. -/
  last : ∀ h ∈ kept, ∃ earlier later,
    declared = earlier ++ h :: later ∧ ∀ g ∈ later, g.key ≠ h.key

theorem kept_foldl_put (declared : List Hook) : Kept declared (declared.foldl put []) := by
  induction declared using List.reverseRecOn with
  | nil => exact ⟨rfl, by simp⟩
  | append_singleton declared h ih =>
    rw [List.foldl_append, List.foldl_cons, List.foldl_nil]
    constructor
    · rw [keys_put, ih.keys, List.map_append, List.map_singleton, eraseDups_concat]
      simp only [List.mem_eraseDups]
    · intro g hg
      have hnodup : ((declared.foldl put []).map key).Nodup := ih.keys ▸ nodup_eraseDups _
      rcases eq_or_mem_of_mem_put hnodup hg with rfl | ⟨hmem, hkey⟩
      · exact ⟨declared, [], rfl, by simp⟩
      · obtain ⟨earlier, later, rfl, hlater⟩ := ih.last g hmem
        refine ⟨earlier, later ++ [h], by simp, ?_⟩
        intro k hk
        rcases List.mem_append.1 hk with hk | hk
        · exact hlater k hk
        · obtain rfl : k = h := by simpa using hk
          exact hkey.symm

/-! ### The hooks of a stage -/

lemma forStage_put (hs : List Hook) (h : Hook) (stage : Stage) :
    forStage (put hs h) stage =
      if h.stage = stage then put (forStage hs stage) h else forStage hs stage := by
  induction hs with
  | nil => by_cases hstage : h.stage = stage <;> simp [put, forStage, hstage]
  | cons k ks ih =>
    simp only [forStage] at ih ⊢
    rw [put]
    split
    · next hkey =>
      have hsame := stage_eq_of_key hkey
      by_cases hstage : h.stage = stage
      · simp [put, hkey, hsame, hstage]
      · simp [hsame, hstage]
    · next hkey =>
      rw [List.filter_cons, ih]
      by_cases hstage : h.stage = stage <;> by_cases hk : k.stage = stage <;>
        simp [put, hkey, hstage, hk]

lemma forStage_foldl_put (declared hs : List Hook) (stage : Stage) :
    forStage (declared.foldl put hs) stage =
      (forStage declared stage).foldl put (forStage hs stage) := by
  induction declared generalizing hs with
  | nil => rfl
  | cons h declared ih =>
    rw [List.foldl_cons, ih, forStage_put]
    by_cases hstage : h.stage = stage <;> simp [forStage, hstage]

/-- All hooks that are declared, in the sequence of the declarations. -/
def readAll (declarations : Value) : Result (List Hook) := do
  let declarations ← declarations.orElse (.list [])
  .ok (← (← declarations.members).mapM declare).flatten

/-- Of the hooks that are declared for a stage the last one of each key is kept. -/
theorem kept_forStage {declarations : Value} (h : ofDeclarations declarations = .ok hs)
    (stage : Stage) :
    ∃ declared, readAll declarations = .ok declared ∧
      Kept (forStage declared stage) (forStage hs stage) := by
  obtain ⟨v, hv, h⟩ := bind_eq_ok.1 h
  obtain ⟨vs, hvs, h⟩ := bind_eq_ok.1 h
  obtain ⟨read, hread, h⟩ := bind_eq_ok.1 h
  obtain rfl : read.flatten.foldl put [] = hs := by simpa using h
  refine ⟨read.flatten, ?_, ?_⟩
  · exact bind_eq_ok.2 ⟨v, hv, bind_eq_ok.2 ⟨vs, hvs, bind_eq_ok.2 ⟨read, hread, rfl⟩⟩⟩
  · rw [forStage_foldl_put]
    exact kept_foldl_put (forStage read.flatten stage)

end Hook

end ShaderLoom
