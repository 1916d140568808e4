import ShaderLoom.Proofs.Resolution.Reach

/-!
# The depth of resolution

A search that may only nest its visits up to a depth, and gives no answer when that is not enough.
It needs no argument for its end; that the search of resolution ends is the statement that a depth
beyond the number of modules always gives an answer, and then the same one (`resolveWithin_eq`).
Names are looked up anew at every step, so references may well lead back: what bounds the depth is
that every visit below another one puts one more name on the path.
-/

namespace ShaderLoom

namespace Resolution

/-- Visit the modules that references lead to, one after the other, by a search that may give no
answer. -/
def visitAllBy (d : Directory)
    (visit : List ShaderModule → ShaderModule → Option (Result (List ShaderModule)))
    (dependent : Option String) :
    List Value → List ShaderModule → Option (Result (List ShaderModule))
  | [], done => some (.ok done)
  | v :: vs, done =>
    match d.lookup dependent v with
    | .error e => some (.error e)
    | .ok m =>
      match visit done m with
      | some (.ok done) => visitAllBy d visit dependent vs done
      | some (.error e) => some (.error e)
      | none => none

/-- Put a module after the modules it depends on, with visits nested up to a depth. -/
def visitWithin (d : Directory) :
    ℕ → List String → List ShaderModule → ShaderModule → Option (Result (List ShaderModule))
  | 0, _, _, _ => none
  | depth + 1, path, done, m =>
    if done.any (·.name = m.name) then some (.ok done)
    else if m.name ∈ path then some (.error (.cyclicDependency (cycleAt m.name path)))
    else
      match visitAllBy d (visitWithin d depth (path ++ [m.name])) (some m.name) m.dependencies
          done with
      | some (.ok done) => some (.ok (done ++ [m]))
      | some (.error e) => some (.error e)
      | none => none

/-- Bring requested modules into order, with visits nested up to a depth. -/
def resolveWithin (d : Directory) (depth : ℕ) (requests : List Value) :
    Option (Result (List ShaderModule)) :=
  visitAllBy d (visitWithin d depth []) none requests []

/-- A depth beyond the number of modules with open names is enough. -/
lemma visitWithin_and_visitAllBy (d : Directory) :
    (∀ (path : List String) (done : List ShaderModule) (m : { m : ShaderModule // m ∈ d.pool }),
      ∀ depth, openCount d path < depth →
        visitWithin d depth path done m.val = some (visit d path done m)) ∧
    (∀ (path : List String) (dependent : Option String) (references : List Value)
        (done : List ShaderModule),
      ∀ depth, openCount d path < depth →
        visitAllBy d (visitWithin d depth path) dependent references done =
          some (visitAll d path dependent references done)) := by
  refine visit.mutual_induct d _ _ ?_ ?_ ?_ ?_ ?_ ?_ ?_ ?_
  · intro path done m hdone depth hdepth
    obtain ⟨k, rfl⟩ : ∃ k, depth = k + 1 := ⟨depth - 1, by omega⟩
    rw [visit, if_pos hdone, visitWithin, if_pos hdone]
  · intro path done m hdone hpath depth hdepth
    obtain ⟨k, rfl⟩ : ∃ k, depth = k + 1 := ⟨depth - 1, by omega⟩
    rw [visit, if_neg hdone, dif_pos hpath, visitWithin, if_neg hdone, if_pos hpath]
  · -- one name more is on the path, so one level less is enough
    intro path done m hdone hpath done₁ hall ih depth hdepth
    obtain ⟨k, rfl⟩ : ∃ k, depth = k + 1 := ⟨depth - 1, by omega⟩
    have hopen := openCount_lt m.property hpath
    have hk := ih k (by omega)
    rw [visit, if_neg hdone, dif_neg hpath, visitWithin, if_neg hdone, if_neg hpath, hk, hall]
  · intro path done m hdone hpath e hall ih depth hdepth
    obtain ⟨k, rfl⟩ : ∃ k, depth = k + 1 := ⟨depth - 1, by omega⟩
    have hopen := openCount_lt m.property hpath
    have hk := ih k (by omega)
    rw [visit, if_neg hdone, dif_neg hpath, visitWithin, if_neg hdone, if_neg hpath, hk, hall]
  · intro path dependent done depth _
    rw [visitAll, visitAllBy]
  · intro path dependent done v vs e he depth _
    rw [visitAll_cons_error he, visitAllBy, he]
  · intro path dependent done v vs m hm done₁ hvisit ihm ihvs depth hdepth
    have hk := ihm depth hdepth
    rw [visitAll_cons hm, visitAllBy, hm]
    simp only [hk, hvisit]
    exact ihvs depth hdepth
  · intro path dependent done v vs m hm e hvisit ihm depth hdepth
    have hk := ihm depth hdepth
    rw [visitAll_cons hm, visitAllBy, hm]
    simp only [hk, hvisit]

/-- The search of resolution never nests deeper than there are modules to be found. -/
lemma resolveWithin_eq (d : Directory) (requests : List Value) :
    resolveWithin d (d.pool.length + 1) requests = some (resolve d requests) := by
  refine (visitWithin_and_visitAllBy d).2 [] none requests [] _ ?_
  exact Nat.lt_succ_of_le List.countP_le_length

end Resolution

end ShaderLoom
