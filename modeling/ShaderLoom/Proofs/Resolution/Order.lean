import ShaderLoom.Proofs.Resolution.Reach

/-!
# The order of resolution

The search keeps a list of finished modules and the path of names that it is on. `Sound` is the
invariant that ties the two together: every finished module was reached from the requests, comes
after the names that it depends on, and has a name of its own that is not on the path. A module is
finished only when its name leaves the path, which is why a name is never finished twice, although
several modules may have it: the one that is completed first counts.
-/

namespace ShaderLoom

namespace Resolution

variable {d : Directory} {requests : List Value}

/-- Every dependency of the module leads to a module whose name is among the given ones. -/
def Served (d : Directory) (names : List String) (m : ShaderModule) : Prop :=
  ∀ v ∈ m.dependencies, ∃ n, d.lookup (some m.name) v = .ok n ∧ n.name ∈ names

/-- What holds of the finished modules while the search is on a path. -/
structure Sound (d : Directory) (requests : List Value) (path : List String)
    (done : List ShaderModule) : Prop where
  nodup : (done.map (·.name)).Nodup
  reached : ∀ m ∈ done, Reached d requests m
  served : ∀ i m, done[i]? = some m → Served d ((done.take i).map (·.name)) m
  unfinished : ∀ name ∈ path, name ∉ done.map (·.name)

namespace Sound

lemma nil : Sound d requests [] [] where
  nodup := by simp
  reached := by simp
  served := by simp
  unfinished := by simp

/-- Going down to a module that is neither finished nor on the path. -/
lemma enter {path : List String} {done : List ShaderModule} {name : String}
    (h : Sound d requests path done) (hname : name ∉ done.map (·.name)) :
    Sound d requests (path ++ [name]) done where
  nodup := h.nodup
  reached := h.reached
  served := h.served
  unfinished := by
    intro n hn
    rcases List.mem_append.1 hn with hn | hn
    · exact h.unfinished n hn
    · obtain rfl : n = name := by simpa using hn
      exact hname

/-- Coming back from a module whose dependencies are finished. -/
lemma leave {path : List String} {done : List ShaderModule} {m : ShaderModule}
    (h : Sound d requests (path ++ [m.name]) done) (hpath : m.name ∉ path)
    (hm : Reached d requests m) (hserved : Served d (done.map (·.name)) m) :
    Sound d requests path (done ++ [m]) where
  nodup := by
    have hnew : m.name ∉ done.map (·.name) := h.unfinished m.name (by simp)
    rw [List.map_append, List.nodup_append]
    refine ⟨h.nodup, by simp, ?_⟩
    intro a ha b hb hab
    obtain rfl : b = m.name := by simpa using hb
    exact hnew (hab ▸ ha)
  reached := by
    intro n hn
    rcases List.mem_append.1 hn with hn | hn
    · exact h.reached n hn
    · obtain rfl : n = m := by simpa using hn
      exact hm
  served := by
    intro i n hi
    -- an earlier module, the new one, or none
    rcases lt_trichotomy i done.length with hlt | heq | hgt
    · rw [List.getElem?_append_left hlt] at hi
      rw [List.take_append_of_le_length hlt.le]
      exact h.served i n hi
    · subst heq
      obtain rfl : m = n := by simpa using hi
      simpa using hserved
    · rw [List.getElem?_eq_none (by simp; omega)] at hi
      exact absurd hi (by simp)
  unfinished := by
    intro n hn hmem
    rw [List.map_append, List.mem_append] at hmem
    rcases hmem with hmem | hmem
    · exact h.unfinished n (List.mem_append_left _ hn) hmem
    · obtain rfl : n = m.name := by simpa using hmem
      exact hpath hn

/-- The dependencies of a module of the list stand before it. -/
lemma lookup_before {path : List String} {t : List ShaderModule} (h : Sound d requests path t)
    {i : ℕ} {m : ShaderModule} (hi : t[i]? = some m) {v : Value} (hv : v ∈ m.dependencies) :
    ∃ n, d.lookup (some m.name) v = .ok n ∧ ∃ j < i, ∃ k, t[j]? = some k ∧ k.name = n.name := by
  obtain ⟨n, hn, hmem⟩ := h.served i m hi v hv
  obtain ⟨k, hk, hname⟩ := List.mem_map.1 hmem
  obtain ⟨j, hj, hjk⟩ := List.mem_iff_getElem.1 hk
  have hlt : j < i := by
    rw [List.length_take] at hj
    omega
  refine ⟨n, hn, j, hlt, k, ?_, hname⟩
  rw [← hjk, List.getElem_take, List.getElem?_eq_getElem]

end Sound

/-- What a search that comes back has done to the finished modules. -/
structure Extends (d : Directory) (requests : List Value) (path : List String)
    (done done' : List ShaderModule) : Prop where
  sound : Sound d requests path done'
  grows : done <+: done'

namespace Extends

variable {path : List String} {a b c : List ShaderModule}

lemma trans (hab : Extends d requests path a b) (hbc : Extends d requests path b c) :
    Extends d requests path a c :=
  ⟨hbc.sound, hab.grows.trans hbc.grows⟩

lemma names_subset (h : Extends d requests path a b) : a.map (·.name) ⊆ b.map (·.name) :=
  (h.grows.map _).subset

end Extends

/-- One visit finishes the name of the visited module, and a series of visits the name of every
module that is referred to. -/
lemma sound_visit_and_visitAll (d : Directory) (requests : List Value) :
    (∀ (path : List String) (done : List ShaderModule) (m : { m : ShaderModule // m ∈ d.pool }),
      ∀ done', Sound d requests path done → Reached d requests m.val →
        visit d path done m = .ok done' →
        Extends d requests path done done' ∧ m.val.name ∈ done'.map (·.name)) ∧
    (∀ (path : List String) (dependent : Option String) (references : List Value)
        (done : List ShaderModule),
      ∀ done', Sound d requests path done → (∀ v ∈ references, Referred d requests dependent v) →
        visitAll d path dependent references done = .ok done' →
        Extends d requests path done done' ∧
          ∀ v ∈ references, ∃ n, d.lookup dependent v = .ok n ∧ n.name ∈ done'.map (·.name)) := by
  refine visit.mutual_induct d _ _ ?_ ?_ ?_ ?_ ?_ ?_ ?_ ?_
  · -- the name is finished already
    intro path done m hdone done' hs _ h
    rw [visit, if_pos hdone] at h
    obtain rfl : done = done' := by simpa using h
    exact ⟨⟨hs, List.prefix_rfl⟩, any_name_eq_true_iff.1 hdone⟩
  · intro path done m hdone hpath done' _ _ h
    rw [visit, if_neg hdone, dif_pos hpath] at h
    exact absurd h (by simp)
  · -- the module is put after its dependencies
    intro path done m hdone hpath done₁ hall ih done' hs hm h
    rw [visit, if_neg hdone, dif_neg hpath, hall] at h
    obtain rfl : done₁ ++ [m.val] = done' := by simpa using h
    have hnew : m.val.name ∉ done.map (·.name) := fun hmem => hdone (any_name_eq_true_iff.2 hmem)
    obtain ⟨hext, hserved⟩ := ih done₁ (hs.enter hnew) (fun v hv => .dependency hm hv) hall
    have hleft := hext.sound.leave hpath hm hserved
    exact ⟨⟨hleft, hext.grows.trans (List.prefix_append _ _)⟩, by simp⟩
  · intro path done m hdone hpath e hall _ done' _ _ h
    rw [visit, if_neg hdone, dif_neg hpath, hall] at h
    exact absurd h (by simp)
  · intro path dependent done done' hs _ h
    rw [visitAll] at h
    obtain rfl : done = done' := by simpa using h
    exact ⟨⟨hs, List.prefix_rfl⟩, by simp⟩
  · intro path dependent done v vs e he done' _ _ h
    rw [visitAll_cons_error he] at h
    exact absurd h (by simp)
  · -- the first reference, then the others
    intro path dependent done v vs m hm done₁ hvisit ihm ihvs done' hs hrefs h
    rw [visitAll_cons hm, hvisit] at h
    obtain ⟨hext₁, hmem⟩ := ihm done₁ hs ((hrefs v (by simp)).reached hm) hvisit
    obtain ⟨hext₂, hvs⟩ :=
      ihvs done' hext₁.sound (fun w hw => hrefs w (List.mem_cons_of_mem _ hw)) h
    refine ⟨hext₁.trans hext₂, ?_⟩
    intro w hw
    rcases List.mem_cons.1 hw with rfl | hw
    · exact ⟨m, hm, hext₂.names_subset hmem⟩
    · exact hvs w hw
  · intro path dependent done v vs m hm e hvisit _ done' _ _ h
    rw [visitAll_cons hm, hvisit] at h
    exact absurd h (by simp)

/-- A result of resolution meets the invariant, and every request is looked up to a name in it. -/
lemma sound_resolve {t : List ShaderModule} (h : resolve d requests = .ok t) :
    Sound d requests [] t ∧
      ∀ v ∈ requests, ∃ m, d.lookup none v = .ok m ∧ m.name ∈ t.map (·.name) := by
  obtain ⟨hext, hreq⟩ := (sound_visit_and_visitAll d requests).2 [] none requests [] t Sound.nil
    (fun v hv => .request hv) h
  exact ⟨hext.sound, hreq⟩

end Resolution

open Resolution

/-- **Soundness of resolution.**  A result has each name once, every module in it comes after the
modules that its dependencies are looked up to (which count by their names), every request is looked
up to a name in it, and it holds no module that is not reached from a request. -/
theorem resolve_orders_dependencies {d : Directory} {requests : List Value}
    {t : List ShaderModule} (h : resolve d requests = .ok t) :
    (t.map (·.name)).Nodup ∧
    (∀ (i : ℕ) (m : ShaderModule), t[i]? = some m → ∀ v ∈ m.dependencies,
      ∃ n, d.lookup (some m.name) v = .ok n ∧ ∃ j < i, ∃ k, t[j]? = some k ∧ k.name = n.name) ∧
    (∀ v ∈ requests, ∃ m, d.lookup none v = .ok m ∧ m.name ∈ t.map (·.name)) ∧
    ∀ m ∈ t, Reached d requests m := by
  obtain ⟨hsound, hrequests⟩ := sound_resolve h
  exact ⟨hsound.nodup, fun i m hi v hv => hsound.lookup_before hi hv, hrequests, hsound.reached⟩

/-- Modules that refer to one another by name and by reference; two of them are named `base`. -/
def twoBases : Directory where
  catalog := [.plain 0 "base" [], .plain 1 "left" [.moduleRef ⟨0, "base"⟩], .plain 2 "base" [],
    .plain 3 "top" [.text "left", .moduleRef ⟨2, "base"⟩]]
  registry := some ⟨[.plain 1 "left" [.moduleRef ⟨0, "base"⟩]], false⟩

/-- The `base` that is completed first stays, and the other one is left out. -/
theorem twoBases_in_order :
    resolve twoBases [.moduleRef ⟨3, "top"⟩, .text "left"] =
      .ok [.plain 0 "base" [], .plain 1 "left" [.moduleRef ⟨0, "base"⟩],
        .plain 3 "top" [.text "left", .moduleRef ⟨2, "base"⟩]] ∧
    Reached twoBases [.moduleRef ⟨3, "top"⟩, .text "left"] (.plain 0 "base" []) := by
  have h : resolve twoBases [.moduleRef ⟨3, "top"⟩, .text "left"] =
      .ok [.plain 0 "base" [], .plain 1 "left" [.moduleRef ⟨0, "base"⟩],
        .plain 3 "top" [.text "left", .moduleRef ⟨2, "base"⟩]] := by
    cbv
  exact ⟨h, (resolve_orders_dependencies h).2.2.2 _ (by simp)⟩

end ShaderLoom
