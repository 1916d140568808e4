import Mathlib.Data.List.TakeWhile
import ShaderLoom.Proofs.Resolution.Depth
import ShaderLoom.Proofs.Resolution.Order

/-!
# Failures of resolution

Resolution fails for one of two reasons only: a reference that was reached leads to no module, or
the names on the path close a cycle. The invariant of the failing search is that the names on the
path, and the name it goes down to, are linked by dependencies of reached modules. If no two reached
modules share a name, links of names are dependencies of modules, and resolution succeeds exactly
when every reference leads to a module and no reached module depends on itself.
-/

namespace ShaderLoom

namespace Resolution

variable {d : Directory} {requests : List Value}

/-- A reached module with the one name depends on a module with the other name. -/
def Linked (d : Directory) (requests : List Value) (a b : String) : Prop :=
  ∃ m, Reached d requests m ∧ m.name = a ∧ ∃ n, DependsOn d m n ∧ n.name = b

/-- Names that lead along dependencies of reached modules from a name back to it, and pass no other
name twice. -/
structure IsCycle (d : Directory) (requests : List Value) (names : List String) : Prop where
  closed : ∃ name between, names = name :: (between ++ [name])
  nodup : names.dropLast.Nodup
  linked : names.IsChain (Linked d requests)

/-- The reasons for which resolution fails. -/
inductive Explained (d : Directory) (requests : List Value) : Failure → Prop
  | cycle {names : List String} (h : IsCycle d requests names) :
      Explained d requests (.cyclicDependency names)
  | lookup {dependent : Option String} {v : Value} {e : Failure}
      (hv : Referred d requests dependent v) (he : d.lookup dependent v = .error e) :
      Explained d requests e

lemma lookup_ne_cyclicDependency {dependent : Option String} {v : Value} {names : List String} :
    d.lookup dependent v ≠ .error (.cyclicDependency names) := by
  unfold Directory.lookup
  split
  · simp
  · split
    · split <;> simp
    · simp

lemma Explained.isCycle {names : List String}
    (h : Explained d requests (.cyclicDependency names)) : IsCycle d requests names := by
  cases h with
  | cycle h => exact h
  | lookup _ he => exact absurd he lookup_ne_cyclicDependency

/-! ### The path of the search -/

/-- A reference of the last module of the path links the path to the module it leads to. -/
lemma isChain_concat {path : List String} {v : Value} {m : ShaderModule}
    (hpath : path.IsChain (Linked d requests)) (hv : Referred d requests path.getLast? v)
    (hm : d.lookup path.getLast? v = .ok m) :
    (path ++ [m.name]).IsChain (Linked d requests) := by
  rw [List.isChain_append]
  refine ⟨hpath, by simp, ?_⟩
  intro a ha b hb
  obtain rfl : b = m.name := by simpa using hb.symm
  rw [Option.mem_def] at ha
  rw [ha] at hv hm
  cases hv with
  | dependency hn hv => exact ⟨_, hn, rfl, m, ⟨v, hv, hm⟩, rfl⟩

/-- Coming back to a name of the path closes a cycle. -/
lemma isCycle_cycleAt {path : List String} {name : String} (hmem : name ∈ path)
    (hnodup : path.Nodup) (hchain : (path ++ [name]).IsChain (Linked d requests)) :
    IsCycle d requests (cycleAt name path) where
  closed := by
    have hhead := head?_cycleAt hmem
    obtain ⟨rest, hrest⟩ : ∃ rest, path.dropWhile (· ≠ name) = name :: rest := by
      cases hdrop : path.dropWhile (· ≠ name) with
      | nil =>
        rw [List.dropWhile_eq_nil_iff] at hdrop
        exact absurd (hdrop name hmem) (by simp)
      | cons a rest =>
        rw [cycleAt, hdrop] at hhead
        obtain rfl : a = name := by simpa using hhead
        exact ⟨rest, rfl⟩
    exact ⟨name, rest, by rw [cycleAt, hrest, List.cons_append]⟩
  nodup := by
    rw [cycleAt, List.dropLast_concat]
    exact hnodup.sublist (List.dropWhile_sublist _)
  linked := by
    rw [← List.takeWhile_append_dropWhile (p := (· ≠ name)) (l := path), List.append_assoc] at hchain
    exact hchain.right_of_append

/-- Every failure of the search is explained. -/
lemma explained_visit_and_visitAll (d : Directory) (requests : List Value) :
    (∀ (path : List String) (done : List ShaderModule) (m : { m : ShaderModule // m ∈ d.pool }),
      ∀ e, path.Nodup → (path ++ [m.val.name]).IsChain (Linked d requests) →
        Reached d requests m.val → visit d path done m = .error e → Explained d requests e) ∧
    (∀ (path : List String) (dependent : Option String) (references : List Value)
        (done : List ShaderModule),
      ∀ e, path.Nodup → path.IsChain (Linked d requests) → dependent = path.getLast? →
        (∀ v ∈ references, Referred d requests dependent v) →
        visitAll d path dependent references done = .error e → Explained d requests e) := by
  refine visit.mutual_induct d _ _ ?_ ?_ ?_ ?_ ?_ ?_ ?_ ?_
  · intro path done m hdone e _ _ _ h
    rw [visit, if_pos hdone] at h
    exact absurd h (by simp)
  · -- the name is on the path
    intro path done m hdone hpath e hnodup hchain _ h
    rw [visit, if_neg hdone, dif_pos hpath] at h
    obtain rfl : Failure.cyclicDependency (cycleAt m.val.name path) = e := by simpa using h
    exact .cycle (isCycle_cycleAt hpath hnodup hchain)
  · intro path done m hdone hpath done₁ hall _ e _ _ _ h
    rw [visit, if_neg hdone, dif_neg hpath, hall] at h
    exact absurd h (by simp)
  · -- a failure below the module, with its name on the path
    intro path done m hdone hpath e hall ih e' hnodup hchain hm h
    rw [visit, if_neg hdone, dif_neg hpath, hall] at h
    obtain rfl : e = e' := by simpa using h
    refine ih e ?_ hchain (by simp) (fun v hv => .dependency hm hv) hall
    rw [List.nodup_append]
    refine ⟨hnodup, by simp, ?_⟩
    intro a ha b hb hab
    obtain rfl : b = m.val.name := by simpa using hb
    exact hpath (hab ▸ ha)
  · intro path dependent done e _ _ _ _ h
    rw [visitAll] at h
    exact absurd h (by simp)
  · -- the reference leads to no module
    intro path dependent done v vs e he e' _ _ _ hrefs h
    rw [visitAll_cons_error he] at h
    obtain rfl : e = e' := by simpa using h
    exact .lookup (hrefs v (by simp)) he
  · intro path dependent done v vs m hm done₁ hvisit _ ihvs e hnodup hchain hlast hrefs h
    rw [visitAll_cons hm, hvisit] at h
    exact ihvs e hnodup hchain hlast (fun w hw => hrefs w (List.mem_cons_of_mem _ hw)) h
  · -- a failure of the first visit
    intro path dependent done v vs m hm e hvisit ihm e' hnodup hchain hlast hrefs h
    rw [visitAll_cons hm, hvisit] at h
    obtain rfl : e = e' := by simpa using h
    subst hlast
    have hv := hrefs v (by simp)
    exact ihm e hnodup (isChain_concat hchain hv hm) (hv.reached hm) hvisit

lemma explained_resolve {e : Failure} (h : resolve d requests = .error e) :
    Explained d requests e :=
  (explained_visit_and_visitAll d requests).2 [] none requests [] e (by simp) (by simp) rfl
    (fun _ hv => .request hv) h

/-! ### Reached modules without a shared name -/

/-- No two reached modules share a name. -/
def NamesDistinguish (d : Directory) (requests : List Value) : Prop :=
  ∀ m n, Reached d requests m → Reached d requests n → m.name = n.name → m = n

/-- Linked names are names of modules that depend on one another. -/
lemma transGen_of_isChain (hnames : NamesDistinguish d requests) {m : ShaderModule}
    (hm : Reached d requests m) {names : List String} {last : String}
    (hchain : (m.name :: (names ++ [last])).IsChain (Linked d requests)) :
    ∃ n, Reached d requests n ∧ n.name = last ∧ Relation.TransGen (DependsOn d) m n := by
  induction names generalizing m with
  | nil =>
    obtain ⟨m', hm', hname, n, hn, hlast⟩ : Linked d requests m.name last := by
      simpa using hchain
    obtain rfl : m' = m := hnames m' m hm' hm hname
    exact ⟨n, .dependency hm hn, hlast, .single hn⟩
  | cons b names ih =>
    rw [List.cons_append, List.isChain_cons_cons] at hchain
    obtain ⟨⟨m', hm', hname, n, hn, hb⟩, hrest⟩ := hchain
    obtain rfl : m' = m := hnames m' m hm' hm hname
    subst hb
    obtain ⟨k, hk, hlast, htrans⟩ := ih (.dependency hm hn) hrest
    exact ⟨k, hk, hlast, .head hn htrans⟩

/-- A cycle of names makes a reached module depend on itself. -/
lemma IsCycle.exists_transGen_self (hnames : NamesDistinguish d requests) {names : List String}
    (h : IsCycle d requests names) :
    ∃ m, Reached d requests m ∧ Relation.TransGen (DependsOn d) m m := by
  obtain ⟨name, between, rfl⟩ := h.closed
  obtain ⟨m, hm, rfl⟩ : ∃ m, Reached d requests m ∧ m.name = name := by
    have hlink := h.linked
    cases between with
    | nil =>
      obtain ⟨m, hm, hname, -⟩ : Linked d requests name name := by simpa using hlink
      exact ⟨m, hm, hname⟩
    | cons b between =>
      rw [List.cons_append, List.isChain_cons_cons] at hlink
      obtain ⟨⟨m, hm, hname, -⟩, -⟩ := hlink
      exact ⟨m, hm, hname⟩
  obtain ⟨n, hn, hname, htrans⟩ := transGen_of_isChain hnames hm h.linked
  obtain rfl : n = m := hnames n m hn hm hname
  exact ⟨n, hn, htrans⟩

/-- All reached modules are in the result. -/
lemma mem_of_reached (hnames : NamesDistinguish d requests) {t : List ShaderModule}
    (h : resolve d requests = .ok t) {m : ShaderModule} (hm : Reached d requests m) : m ∈ t := by
  obtain ⟨hsound, hrequests⟩ := sound_resolve h
  have mem_of_name : ∀ {n}, Reached d requests n → n.name ∈ t.map (·.name) → n ∈ t := by
    intro n hn hmem
    obtain ⟨k, hk, hname⟩ := List.mem_map.1 hmem
    exact hnames k n (hsound.reached k hk) hn hname ▸ hk
  induction hm with
  | request hv hm =>
    obtain ⟨n, hn, hmem⟩ := hrequests _ hv
    rw [hm] at hn
    obtain rfl := Except.ok.inj hn
    exact mem_of_name (.request hv hm) hmem
  | dependency hm hn ih =>
    obtain ⟨v, hv, hlookup⟩ := id hn
    obtain ⟨i, hi, hget⟩ := List.mem_iff_getElem.1 ih
    obtain ⟨n, hn', hmem⟩ := hsound.served i _ (by rw [List.getElem?_eq_getElem hi, hget]) v hv
    rw [hlookup] at hn'
    obtain rfl := Except.ok.inj hn'
    exact mem_of_name (.dependency hm hn) ((List.take_sublist _ _).map _ |>.subset hmem)

/-- What a module of the result depends on has its name earlier. -/
lemma idxOf_lt_of_dependsOn {t : List ShaderModule} (hsound : Sound d requests [] t)
    {m n : ShaderModule} (hm : m ∈ t) (hn : DependsOn d m n) :
    (t.map (·.name)).idxOf n.name < (t.map (·.name)).idxOf m.name := by
  obtain ⟨v, hv, hlookup⟩ := hn
  obtain ⟨i, hi, rfl⟩ := List.mem_iff_getElem.1 hm
  obtain ⟨k, hk, j, hj, l, hl, hname⟩ :=
    hsound.lookup_before (List.getElem?_eq_getElem hi) hv
  rw [hlookup] at hk
  obtain rfl := Except.ok.inj hk
  have hidx : ∀ {p : ℕ} {x : ShaderModule}, t[p]? = some x →
      (t.map (·.name)).idxOf x.name = p := by
    intro p x hx
    obtain ⟨hp, rfl⟩ := List.getElem?_eq_some_iff.1 hx
    have := hsound.nodup.idxOf_getElem p (by simpa using hp)
    simpa using this
  rw [hidx (List.getElem?_eq_getElem hi), ← hname, hidx hl]
  exact hj

/-- No module of a result depends on itself. -/
lemma not_transGen_self (hnames : NamesDistinguish d requests) {t : List ShaderModule}
    (h : resolve d requests = .ok t) {m : ShaderModule} (hm : Reached d requests m) :
    ¬ Relation.TransGen (DependsOn d) m m := by
  have hsound := (sound_resolve h).1
  have hlt : ∀ {n}, Relation.TransGen (DependsOn d) m n → Reached d requests n ∧
      (t.map (·.name)).idxOf n.name < (t.map (·.name)).idxOf m.name := by
    intro n hn
    induction hn with
    | single hn =>
      exact ⟨.dependency hm hn, idxOf_lt_of_dependsOn hsound (mem_of_reached hnames h hm) hn⟩
    | tail _ hn ih =>
      have hmem := mem_of_reached hnames h ih.1
      exact ⟨.dependency ih.1 hn, (idxOf_lt_of_dependsOn hsound hmem hn).trans ih.2⟩
  intro hself
  exact absurd (hlt hself).2 (lt_irrefl _)

end Resolution

open Resolution

/-- **Completeness of resolution.**  The search ends, nested no deeper than there are modules. A
complaint about a cyclic dependency shows a cycle of names that reached modules depend on one
another by. And if no two reached modules share a name, there is a result exactly when every
reference leads to a module and no reached module depends on itself. -/
theorem resolve_ends_and_succeeds_iff (d : Directory) (requests : List Value) :
    resolveWithin d (d.pool.length + 1) requests = some (resolve d requests) ∧
    (∀ names, resolve d requests = .error (.cyclicDependency names) →
      IsCycle d requests names) ∧
    (NamesDistinguish d requests →
      ((∃ t, resolve d requests = .ok t) ↔
        (∀ dependent v, Referred d requests dependent v → ∃ m, d.lookup dependent v = .ok m) ∧
        ∀ m, Reached d requests m → ¬ Relation.TransGen (DependsOn d) m m)) := by
  refine ⟨resolveWithin_eq d requests, fun names h => (explained_resolve h).isCycle, ?_⟩
  intro hnames
  constructor
  · rintro ⟨t, h⟩
    refine ⟨?_, fun m hm => not_transGen_self hnames h hm⟩
    intro dependent v hv
    cases hv with
    | request hv =>
      obtain ⟨m, hm, -⟩ := (sound_resolve h).2 v hv
      exact ⟨m, hm⟩
    | @dependency m _ hm hv =>
      obtain ⟨i, hi, rfl⟩ := List.mem_iff_getElem.1 (mem_of_reached hnames h hm)
      obtain ⟨n, hn, -⟩ := (sound_resolve h).1.served i _ (List.getElem?_eq_getElem hi) v hv
      exact ⟨n, hn⟩
  · -- both reasons for a failure are excluded
    rintro ⟨hlookup, hacyclic⟩
    cases h : resolve d requests with
    | ok t => exact ⟨t, rfl⟩
    | error e =>
      exfalso
      cases explained_resolve h with
      | cycle hcycle =>
        obtain ⟨m, hm, htrans⟩ := hcycle.exists_transGen_self hnames
        exact hacyclic m hm htrans
      | lookup hv he =>
        obtain ⟨m, hm⟩ := hlookup _ _ hv
        rw [he] at hm
        exact absurd hm (by simp)

/-- Modules in a registry, three of which depend on one another in a ring. -/
def ringOfThree : Directory where
  catalog := []
  registry := some ⟨[.plain 0 "a" [.text "b"], .plain 1 "b" [.text "c"], .plain 2 "c" [.text "a"],
    .plain 3 "d" [.text "a"]], false⟩

/-- The cycle that is complained about leaves out the name by which the ring was entered. -/
theorem ringOfThree_is_cycle :
    resolve ringOfThree [.text "d"] = .error (.cyclicDependency ["a", "b", "c", "a"]) ∧
    IsCycle ringOfThree [.text "d"] ["a", "b", "c", "a"] := by
  have h : resolve ringOfThree [.text "d"] = .error (.cyclicDependency ["a", "b", "c", "a"]) := by
    cbv
  exact ⟨h, (resolve_ends_and_succeeds_iff ringOfThree [.text "d"]).2.1 _ h⟩

end ShaderLoom
