import Mathlib.Data.List.Chain
import Mathlib.Order.Lattice
import ShaderLoom.Value.Sorting

/-!
# What sorting guarantees

Four guarantees of `sortWith` are shown. Whatever the order is, as long as no two members come
before each other, no member of the outcome comes before its neighbour on the left
(`neighbours_sortWith`). There is an outcome if the order answers about any two members
(`exists_sortWith`).
If the answers of the order are those of a key, the outcome ascends, and the members of each key
keep their sequence (`sortedBy_sortWith`). And an order that looks at a part of the members does not
touch the rest of them (`sortWith_map`).
-/

namespace ShaderLoom

variable {α : Type} {less : α → α → Answer Bool}

/-! ### Neighbours -/

/-- No member comes before its neighbour on the left. -/
def Rises (less : α → α → Answer Bool) (xs : List α) : Prop :=
  xs.IsChain fun x y => less y x = .ok false

lemma isChain_take_risingLength {p : α} {xs : List α} {n : ℕ}
    (h : risingLength less p xs = .ok n) : Rises less (p :: xs.take n) := by
  induction xs generalizing p n with
  | nil => simp [Rises]
  | cons x xs ih =>
    simp only [risingLength, bind, Except.bind] at h
    split at h
    · exact absurd h (by simp)
    · next b hb =>
      cases b with
      | true =>
        obtain rfl : 0 = n := by simpa using h
        simp [Rises]
      | false =>
        rw [if_neg (by simp)] at h
        split at h
        · exact absurd h (by simp)
        · next k hk =>
          obtain rfl : k + 1 = n := by simpa using h
          rw [List.take_succ_cons]
          exact List.IsChain.cons_cons hb (ih hk)

lemma isChain_take_fallingLength {p : α} {xs : List α} {n : ℕ}
    (h : fallingLength less p xs = .ok n) :
    (p :: xs.take n).IsChain fun x y => less y x = .ok true := by
  induction xs generalizing p n with
  | nil => simp
  | cons x xs ih =>
    simp only [fallingLength, bind, Except.bind] at h
    split at h
    · exact absurd h (by simp)
    · next b hb =>
      cases b with
      | false =>
        obtain rfl : 0 = n := by simpa using h
        simp
      | true =>
        rw [if_pos rfl] at h
        split at h
        · exact absurd h (by simp)
        · next k hk =>
          obtain rfl : k + 1 = n := by simpa using h
          rw [List.take_succ_cons]
          exact List.IsChain.cons_cons hb (ih hk)

/-- The run at the front is as it was if it rises, and turned around if it falls. -/
lemma frontRun_cases {xs run rest : List α} (h : frontRun less xs = .ok (run, rest)) :
    (run ++ rest = xs ∧ Rises less run) ∨
      (run.reverse ++ rest = xs ∧ run.reverse.IsChain fun x y => less y x = .ok true) := by
  match xs with
  | [] =>
    obtain ⟨rfl, rfl⟩ : [] = run ∧ [] = rest := by simpa [frontRun] using h
    exact .inl ⟨rfl, List.IsChain.nil⟩
  | [x] =>
    obtain ⟨rfl, rfl⟩ : [x] = run ∧ [] = rest := by simpa [frontRun] using h
    exact .inl ⟨rfl, List.IsChain.singleton x⟩
  | x :: y :: zs =>
    simp only [frontRun, bind, Except.bind] at h
    split at h
    · exact absurd h (by simp)
    · next b hb =>
      cases b with
      | true =>
        rw [if_pos rfl] at h
        split at h
        · exact absurd h (by simp)
        · next n hn =>
          obtain ⟨rfl, rfl⟩ : ((x :: y :: zs).take (n + 2)).reverse = run ∧
              (x :: y :: zs).drop (n + 2) = rest := by simpa using h
          refine .inr ⟨by rw [List.reverse_reverse, List.take_append_drop], ?_⟩
          rw [List.reverse_reverse, List.take_succ_cons, List.take_succ_cons]
          exact List.IsChain.cons_cons hb (isChain_take_fallingLength hn)
      | false =>
        rw [if_neg (by simp)] at h
        split at h
        · exact absurd h (by simp)
        · next n hn =>
          obtain ⟨rfl, rfl⟩ : (x :: y :: zs).take (n + 2) = run ∧
              (x :: y :: zs).drop (n + 2) = rest := by simpa using h
          refine .inl ⟨by rw [List.take_append_drop], ?_⟩
          rw [List.take_succ_cons, List.take_succ_cons]
          exact List.IsChain.cons_cons hb (isChain_take_risingLength hn)

/-- A member fits at a position if it does not come before the one on the left, but comes before the
one on the right. -/
structure FitsAt (less : α → α → Answer Bool) (sorted : List α) (x : α) (i : ℕ) : Prop where
  left : ∀ y ∈ (sorted.take i).getLast?, less x y = .ok false
  right : ∀ y ∈ (sorted.drop i).head?, less x y = .ok true

lemma fitsAt_placeFor {sorted : List α} {x : α} {fuel low width i : ℕ} (hfuel : width < fuel)
    (hlow : ∀ y ∈ (sorted.take low).getLast?, less x y = .ok false)
    (hhigh : ∀ y ∈ (sorted.drop (low + width)).head?, less x y = .ok true)
    (hwidth : low + width ≤ sorted.length)
    (h : placeFor less sorted.toArray x fuel low width = .ok i) : FitsAt less sorted x i := by
  induction fuel generalizing low width with
  | zero => omega
  | succ fuel ih =>
    simp only [placeFor] at h
    split at h
    · next hzero =>
      obtain rfl : low = i := by simpa using h
      subst hzero
      exact ⟨hlow, hhigh⟩
    · next hpos =>
      have hhalf : width / 2 < width := by omega
      have hmid : low + width / 2 < sorted.length := by omega
      have hget : sorted.toArray[low + width / 2]? = some sorted[low + width / 2] := by simp [hmid]
      simp only [hget, bind, Except.bind] at h
      split at h
      · exact absurd h (by simp)
      · next b hb =>
        cases b with
        | true =>
          -- the member belongs to the left of the middle
          rw [if_pos rfl] at h
          refine ih (by omega) hlow ?_ (by omega) h
          intro y hy
          rw [List.head?_drop, List.getElem?_eq_getElem hmid] at hy
          obtain rfl : sorted[low + width / 2] = y := by simpa using hy
          exact hb
        | false =>
          rw [if_neg (by simp)] at h
          refine ih (by omega) ?_ ?_ (by omega) h
          · intro y hy
            rw [List.take_add_one, List.getElem?_eq_getElem hmid, Option.toList_some,
              List.getLast?_concat] at hy
            obtain rfl : sorted[low + width / 2] = y := by simpa using hy
            exact hb
          · have hsum : low + width / 2 + 1 + (width - width / 2 - 1) = low + width := by omega
            rw [hsum]
            exact hhigh

lemma fitsAt_of_placeFor {sorted : List α} {x : α} {i : ℕ}
    (h : placeFor less sorted.toArray x (sorted.length + 1) 0 sorted.length = .ok i) :
    FitsAt less sorted x i :=
  fitsAt_placeFor (by omega) (by simp) (by simp) (by omega) h

lemma FitsAt.rises {sorted : List α} {x : α} {i : ℕ} (h : FitsAt less sorted x i)
    (hasymm : ∀ x y, less x y = .ok true → less y x = .ok false) (hs : Rises less sorted) :
    Rises less (sorted.take i ++ x :: sorted.drop i) := by
  unfold Rises at hs ⊢
  rw [← List.take_append_drop i sorted, List.isChain_append] at hs
  obtain ⟨htake, hdrop, -⟩ := hs
  rw [List.isChain_append]
  refine ⟨htake, ?_, ?_⟩
  · rw [List.isChain_cons]
    exact ⟨fun y hy => hasymm x y (h.right y hy), hdrop⟩
  · intro y hy z hz
    obtain rfl : x = z := by simpa using hz
    exact h.left y hy

/-- The step of sorting: the member fits at the place that it is put to. -/
lemma insertAll_cons {sorted xs ys : List α} {x : α}
    (h : insertAll less sorted (x :: xs) = .ok ys) :
    ∃ i, FitsAt less sorted x i ∧
      insertAll less (sorted.take i ++ x :: sorted.drop i) xs = .ok ys := by
  simp only [insertAll, bind, Except.bind] at h
  split at h
  · exact absurd h (by simp)
  · next i hi => exact ⟨i, fitsAt_of_placeFor hi, h⟩

lemma sortWith_cases {xs ys : List α} (h : sortWith less xs = .ok ys) :
    ∃ run rest, frontRun less xs = .ok (run, rest) ∧ insertAll less run rest = .ok ys := by
  simp only [sortWith, bind, Except.bind] at h
  split at h
  · exact absurd h (by simp)
  · next p hp => exact ⟨p.1, p.2, hp, h⟩

/-- In a sorted list no member comes before its neighbour on the left. -/
theorem neighbours_sortWith (hasymm : ∀ x y, less x y = .ok true → less y x = .ok false)
    {xs ys : List α} (h : sortWith less xs = .ok ys) : Rises less ys := by
  obtain ⟨run, rest, hrun, hins⟩ := sortWith_cases h
  have hrises : Rises less run := by
    rcases frontRun_cases hrun with ⟨-, hrun⟩ | ⟨-, hrun⟩
    · exact hrun
    · rw [List.isChain_reverse] at hrun
      exact hrun.imp fun a b hab => hasymm a b hab
  clear h hrun
  induction rest generalizing run with
  | nil =>
    obtain rfl : run = ys := by simpa [insertAll] using hins
    exact hrises
  | cons x rest ih =>
    obtain ⟨i, hi, hrest⟩ := insertAll_cons hins
    exact ih _ hrest (hi.rises hasymm hrises)

/-! ### Sorting by a key -/

variable {β : Type} [LinearOrder β] {key : α → β}

/-- The second list is the first one sorted by a key: it ascends, and the members of each key keep
their sequence. -/
structure SortedBy (key : α → β) (xs ys : List α) : Prop where
  perm : ys.Perm xs
  ascending : ys.Pairwise fun x y => key x ≤ key y
  stable : ∀ k, ys.filter (key · = k) = xs.filter (key · = k)

/-- The answers of an order about members of a list are those of a key. -/
def AnswersBy (less : α → α → Answer Bool) (key : α → β) (xs : List α) : Prop :=
  ∀ x ∈ xs, ∀ y ∈ xs, ∀ b, less x y = .ok b → b = decide (key x < key y)

lemma AnswersBy.perm {xs ys : List α} (h : AnswersBy less key xs) (hp : ys.Perm xs) :
    AnswersBy less key ys :=
  fun x hx y hy => h x (hp.mem_iff.1 hx) y (hp.mem_iff.1 hy)

lemma SortedBy.refl {xs : List α} (h : xs.Pairwise fun x y => key x ≤ key y) :
    SortedBy key xs xs :=
  ⟨.refl xs, h, fun _ => rfl⟩

/-- Turning a strictly falling list around sorts it. -/
lemma SortedBy.reverse {xs : List α} (h : xs.Pairwise fun x y => key y < key x) :
    SortedBy key xs xs.reverse where
  perm := List.reverse_perm xs
  ascending := by
    rw [List.pairwise_reverse]
    exact h.imp le_of_lt
  stable := by
    intro k
    -- each key occurs at most once, so that there is nothing to keep in sequence
    have hshort : (xs.filter (key · = k)).length ≤ 1 := by
      have hfilter := h.filter (key · = k)
      have hmem : ∀ y ∈ xs.filter (key · = k), key y = k := by
        intro y hy
        simpa using (List.mem_filter.1 hy).2
      match hf : xs.filter (key · = k) with
      | [] => simp
      | [y] => simp
      | y :: z :: rest =>
        rw [hf] at hfilter hmem
        have hlt : key z < key y := List.rel_of_pairwise_cons hfilter (by simp)
        rw [hmem y (by simp), hmem z (by simp)] at hlt
        exact absurd hlt (lt_irrefl k)
    rw [List.filter_reverse]
    match hf : xs.filter (key · = k) with
    | [] => rfl
    | [y] => rfl
    | y :: z :: rest =>
      rw [hf] at hshort
      simp at hshort

/-- Behind a fitting position stand only members of greater key. -/
lemma FitsAt.lt_of_mem_drop {sorted : List α} {x : α} {i : ℕ} (h : FitsAt less sorted x i)
    (hkey : AnswersBy less key (x :: sorted)) (hs : sorted.Pairwise fun x y => key x ≤ key y)
    {y : α} (hy : y ∈ sorted.drop i) : key x < key y := by
  have hdrop := hs.sublist (List.drop_sublist i sorted)
  match hd : sorted.drop i with
  | [] => simp [hd] at hy
  | z :: rest =>
    rw [hd] at hdrop hy
    have hz : z ∈ sorted := List.mem_of_mem_drop (i := i) (by simp [hd])
    have hxz : key x < key z := by
      have htrue := h.right z (by simp [hd])
      simpa using hkey x (by simp) z (by simp [hz]) true htrue
    rcases List.mem_cons.1 hy with rfl | hy
    · exact hxz
    · exact lt_of_lt_of_le hxz (List.rel_of_pairwise_cons hdrop hy)

/-- In front of a fitting position stand only members of smaller or the same key. -/
lemma FitsAt.le_of_mem_take {sorted : List α} {x : α} {i : ℕ} (h : FitsAt less sorted x i)
    (hkey : AnswersBy less key (x :: sorted)) (hs : sorted.Pairwise fun x y => key x ≤ key y)
    {y : α} (hy : y ∈ sorted.take i) : key y ≤ key x := by
  have htake := hs.sublist (List.take_sublist i sorted)
  rcases List.eq_nil_or_concat' (sorted.take i) with hnil | ⟨front, z, hconcat⟩
  · simp [hnil] at hy
  · rw [hconcat] at htake hy
    have hz : z ∈ sorted := List.mem_of_mem_take (i := i) (by simp [hconcat])
    have hzx : key z ≤ key x := by
      have hfalse := h.left z (by simp [hconcat])
      simpa using hkey x (by simp) z (by simp [hz]) false hfalse
    rcases List.mem_append.1 hy with hy | hy
    · exact le_trans ((List.pairwise_append.1 htake).2.2 y hy z (by simp)) hzx
    · obtain rfl : y = z := by simpa using hy
      exact hzx

/-- Putting one more member to a fitting position of a sorted list. -/
lemma FitsAt.sortedBy {xs sorted : List α} {x : α} {i : ℕ} (h : FitsAt less sorted x i)
    (hkey : AnswersBy less key (x :: sorted)) (hs : SortedBy key xs sorted) :
    SortedBy key (xs ++ [x]) (sorted.take i ++ x :: sorted.drop i) where
  perm := by
    refine List.perm_middle.trans ?_
    rw [List.take_append_drop]
    exact (hs.perm.cons x).trans (List.perm_append_singleton x xs).symm
  ascending := by
    have hsplit := hs.ascending
    rw [← List.take_append_drop i sorted, List.pairwise_append] at hsplit
    obtain ⟨htake, hdrop, hcross⟩ := hsplit
    rw [List.pairwise_append, List.pairwise_cons]
    refine ⟨htake, ⟨fun y hy => (h.lt_of_mem_drop hkey hs.ascending hy).le, hdrop⟩, ?_⟩
    intro y hy z hz
    rcases List.mem_cons.1 hz with rfl | hz
    · exact h.le_of_mem_take hkey hs.ascending hy
    · exact hcross y hy z hz
  stable := by
    intro k
    have hsplit : sorted.filter (key · = k) =
        (sorted.take i).filter (key · = k) ++ (sorted.drop i).filter (key · = k) := by
      rw [← List.filter_append, List.take_append_drop]
    rw [List.filter_append, List.filter_append, ← hs.stable k, hsplit, List.append_assoc]
    congr 1
    by_cases hx : key x = k
    · -- nothing behind the member has its key
      have hnone : (sorted.drop i).filter (key · = k) = [] := by
        rw [List.filter_eq_nil_iff]
        intro y hy
        have hlt := h.lt_of_mem_drop hkey hs.ascending hy
        rw [hx] at hlt
        simpa using hlt.ne'
      simp [hx, hnone]
    · simp [hx]

/-- Sorting by an order whose answers are those of a key. -/
theorem sortedBy_sortWith {xs ys : List α} (hkey : AnswersBy less key xs)
    (h : sortWith less xs = .ok ys) : SortedBy key xs ys := by
  obtain ⟨run, rest, hrun, hins⟩ := sortWith_cases h
  obtain ⟨front, rfl, hsorted⟩ : ∃ front, front ++ rest = xs ∧ SortedBy key front run := by
    rcases frontRun_cases hrun with ⟨rfl, hchain⟩ | ⟨rfl, hchain⟩
    · refine ⟨run, rfl, SortedBy.refl ?_⟩
      rw [← List.isChain_iff_pairwise]
      refine hchain.imp_of_mem_imp fun x y hx hy hyx => ?_
      simpa using hkey y (by simp [hy]) x (by simp [hx]) false hyx
    · refine ⟨run.reverse, rfl, ?_⟩
      have hpair : run.reverse.Pairwise fun x y => key y < key x := by
        rw [← List.isChain_iff_pairwise]
        refine hchain.imp_of_mem_imp fun x y hx hy hyx => ?_
        simpa using hkey y (List.mem_append_left _ hy) x (List.mem_append_left _ hx) true hyx
      simpa using SortedBy.reverse hpair
  clear h hrun
  induction rest generalizing run front with
  | nil =>
    obtain rfl : run = ys := by simpa [insertAll] using hins
    simpa using hsorted
  | cons x rest ih =>
    obtain ⟨i, hi, hrest⟩ := insertAll_cons hins
    have hrun : AnswersBy less key (x :: run) := by
      intro a ha b hb
      refine hkey a ?_ b ?_
      · rcases List.mem_cons.1 ha with rfl | ha
        · simp
        · simp [hsorted.perm.mem_iff.1 ha]
      · rcases List.mem_cons.1 hb with rfl | hb
        · simp
        · simp [hsorted.perm.mem_iff.1 hb]
    have hstep := ih _ hrest (front ++ [x]) (hi.sortedBy hrun hsorted) (by simpa using hkey)
    simpa using hstep

/-! ### Sorted lists -/

lemma risingLength_of_rises {p : α} {xs : List α} (h : Rises less (p :: xs)) :
    risingLength less p xs = .ok xs.length := by
  induction xs generalizing p with
  | nil => rfl
  | cons x xs ih =>
    obtain ⟨hx, hrest⟩ := List.isChain_cons_cons.1 h
    simp only [risingLength, hx, ih hrest]
    rfl

/-- A list that rises already is left as it is. -/
theorem sortWith_of_rises {xs : List α} (h : Rises less xs) : sortWith less xs = .ok xs := by
  match xs with
  | [] => rfl
  | [x] => rfl
  | x :: y :: zs =>
    obtain ⟨hy, hrest⟩ := List.isChain_cons_cons.1 h
    have hlength := risingLength_of_rises hrest
    have htake : (x :: y :: zs).take (zs.length + 2) = x :: y :: zs := by simp
    have hdrop : (x :: y :: zs).drop (zs.length + 2) = [] := by simp
    have hrun : frontRun less (x :: y :: zs) = .ok (x :: y :: zs, []) := by
      simp only [frontRun, hy, hlength]
      show Except.ok ((x :: y :: zs).take (zs.length + 2), (x :: y :: zs).drop (zs.length + 2)) = _
      rw [htake, hdrop]
    unfold sortWith
    rw [hrun]
    rfl

/-! ### Orders that answer -/

section Answering

variable {α : Type} {less : α → α → Answer Bool}

/-- The order answers about any two members of a list. -/
def Answers (less : α → α → Answer Bool) (xs : List α) : Prop :=
  ∀ x ∈ xs, ∀ y ∈ xs, ∃ b, less x y = .ok b

lemma Answers.subset {xs ys : List α} (h : Answers less ys) (hsub : xs ⊆ ys) : Answers less xs :=
  fun x hx y hy => h x (hsub hx) y (hsub hy)

lemma exists_fallingLength {p : α} {xs : List α} (h : Answers less (p :: xs)) :
    ∃ n, fallingLength less p xs = .ok n := by
  induction xs generalizing p with
  | nil => exact ⟨0, rfl⟩
  | cons x xs ih =>
    obtain ⟨b, hb⟩ := h x (by simp) p (by simp)
    obtain ⟨n, hn⟩ := ih (h.subset (List.subset_cons_self p _))
    cases b with
    | true => exact ⟨n + 1, by simp [fallingLength, hb, hn, bind, Except.bind]⟩
    | false => exact ⟨0, by simp [fallingLength, hb, bind, Except.bind]⟩

lemma exists_risingLength {p : α} {xs : List α} (h : Answers less (p :: xs)) :
    ∃ n, risingLength less p xs = .ok n := by
  induction xs generalizing p with
  | nil => exact ⟨0, rfl⟩
  | cons x xs ih =>
    obtain ⟨b, hb⟩ := h x (by simp) p (by simp)
    obtain ⟨n, hn⟩ := ih (h.subset (List.subset_cons_self p _))
    cases b with
    | true => exact ⟨0, by simp [risingLength, hb, bind, Except.bind]⟩
    | false => exact ⟨n + 1, by simp [risingLength, hb, hn, bind, Except.bind]⟩

lemma exists_frontRun {xs : List α} (h : Answers less xs) : ∃ p, frontRun less xs = .ok p := by
  match xs with
  | [] => exact ⟨_, rfl⟩
  | [x] => exact ⟨_, rfl⟩
  | x :: y :: zs =>
    obtain ⟨b, hb⟩ := h y (by simp) x (by simp)
    have hrest : Answers less (y :: zs) := h.subset (List.subset_cons_self x _)
    cases b with
    | true =>
      obtain ⟨n, hn⟩ := exists_fallingLength hrest
      exact ⟨(((x :: y :: zs).take (n + 2)).reverse, (x :: y :: zs).drop (n + 2)),
        by simp [frontRun, hb, hn, bind, Except.bind]⟩
    | false =>
      obtain ⟨n, hn⟩ := exists_risingLength hrest
      exact ⟨((x :: y :: zs).take (n + 2), (x :: y :: zs).drop (n + 2)),
        by simp [frontRun, hb, hn, bind, Except.bind]⟩

lemma exists_placeFor {sorted : List α} {x : α} (h : Answers less (x :: sorted))
    (fuel low width : ℕ) : ∃ i, placeFor less sorted.toArray x fuel low width = .ok i := by
  induction fuel generalizing low width with
  | zero => exact ⟨low, rfl⟩
  | succ fuel ih =>
    simp only [placeFor, List.getElem?_toArray]
    split
    · exact ⟨low, rfl⟩
    · cases hy : sorted[low + width / 2]? with
      | none => exact ⟨low, rfl⟩
      | some y =>
        obtain ⟨b, hb⟩ := h x (by simp) y (by simp [List.mem_of_getElem? hy])
        cases b with
        | true => simpa [hb, bind, Except.bind] using ih low (width / 2)
        | false => simpa [hb, bind, Except.bind] using ih _ _

lemma exists_insertAll {sorted xs : List α} (h : Answers less (sorted ++ xs)) :
    ∃ ys, insertAll less sorted xs = .ok ys := by
  induction xs generalizing sorted with
  | nil => exact ⟨sorted, rfl⟩
  | cons x xs ih =>
    have hsub : x :: sorted ⊆ sorted ++ x :: xs := by simp
    obtain ⟨i, hi⟩ := exists_placeFor (h.subset hsub) (sorted.length + 1) 0 sorted.length
    have hperm : ((sorted.take i ++ x :: sorted.drop i) ++ xs).Perm (sorted ++ x :: xs) := by
      refine (List.perm_middle.append_right xs).trans ?_
      rw [List.take_append_drop, List.cons_append]
      exact List.perm_middle.symm
    obtain ⟨ys, hys⟩ := ih (h.subset hperm.subset)
    exact ⟨ys, by simp only [insertAll, hi, bind, Except.bind, hys]⟩

/-- A list can be sorted by an order that answers about its members. -/
theorem exists_sortWith {xs : List α} (h : Answers less xs) : ∃ ys, sortWith less xs = .ok ys := by
  obtain ⟨⟨run, rest⟩, hrun⟩ := exists_frontRun h
  obtain ⟨ys, hys⟩ := exists_insertAll (h.subset (perm_of_frontRun hrun).subset)
  exact ⟨ys, by simp only [sortWith, hrun, bind, Except.bind, hys]⟩

end Answering

/-! ### Sorting by a part of the members -/

section Image

variable {α β : Type} {less : α → α → Answer Bool} {f : β → α}

/-- An order of members by what a function gives for them. -/
def orderOf (less : α → α → Answer Bool) (f : β → α) (x y : β) : Answer Bool := less (f x) (f y)

lemma fallingLength_map (p : β) (xs : List β) :
    fallingLength less (f p) (xs.map f) = fallingLength (orderOf less f) p xs := by
  induction xs generalizing p with
  | nil => rfl
  | cons x xs ih => simp only [List.map_cons, fallingLength, ih, orderOf]

lemma risingLength_map (p : β) (xs : List β) :
    risingLength less (f p) (xs.map f) = risingLength (orderOf less f) p xs := by
  induction xs generalizing p with
  | nil => rfl
  | cons x xs ih => simp only [List.map_cons, risingLength, ih, orderOf]

lemma frontRun_map (xs : List β) :
    frontRun less (xs.map f) =
      (frontRun (orderOf less f) xs).map fun p => (p.1.map f, p.2.map f) := by
  match xs with
  | [] => rfl
  | [x] => rfl
  | x :: y :: zs =>
    have hfalling : fallingLength less (f y) (zs.map f) = fallingLength (orderOf less f) y zs :=
      fallingLength_map y zs
    have hrising : risingLength less (f y) (zs.map f) = risingLength (orderOf less f) y zs :=
      risingLength_map y zs
    simp only [frontRun, List.map_cons, hfalling, hrising]
    show (less (f y) (f x) >>= _) = Except.map _ (less (f y) (f x) >>= _)
    cases less (f y) (f x) with
    | error e => rfl
    | ok b =>
      cases b with
      | true =>
        cases fallingLength (orderOf less f) y zs with
        | error e => rfl
        | ok n => simp [bind, Except.bind, Except.map, List.map_take, List.map_drop]
      | false =>
        cases risingLength (orderOf less f) y zs with
        | error e => rfl
        | ok n => simp [bind, Except.bind, Except.map, List.map_take, List.map_drop]

lemma placeFor_map (sorted : List β) (x : β) (fuel low width : ℕ) :
    placeFor less (sorted.map f).toArray (f x) fuel low width =
      placeFor (orderOf less f) sorted.toArray x fuel low width := by
  induction fuel generalizing low width with
  | zero => rfl
  | succ fuel ih =>
    simp only [placeFor, List.getElem?_toArray, List.getElem?_map]
    cases sorted[low + width / 2]? with
    | none => rfl
    | some y => simp only [Option.map_some, ih, orderOf]

lemma insertAll_map (sorted xs : List β) :
    insertAll less (sorted.map f) (xs.map f) =
      (insertAll (orderOf less f) sorted xs).map (List.map f) := by
  induction xs generalizing sorted with
  | nil => rfl
  | cons x xs ih =>
    simp only [List.map_cons, insertAll, List.length_map, placeFor_map]
    cases placeFor (orderOf less f) sorted.toArray x (sorted.length + 1) 0 sorted.length with
    | error e => rfl
    | ok i =>
      show insertAll less _ (xs.map f) = _
      rw [← List.map_take, ← List.map_drop, ← List.map_cons, ← List.map_append, ih]
      rfl

/-- Sorting what a function gives for members is sorting the members by it. -/
theorem sortWith_map (xs : List β) :
    sortWith less (xs.map f) = (sortWith (orderOf less f) xs).map (List.map f) := by
  unfold sortWith
  rw [frontRun_map]
  cases frontRun (orderOf less f) xs with
  | error e => rfl
  | ok p => exact insertAll_map p.1 p.2

end Image
end ShaderLoom
