import ShaderLoom.Value.Comparison

/-!
# Sorting by an order that may fail

A list is sorted by asking of two members at a time whether the first comes before the second, and
the order may refuse to answer. The run at the front is found first: as long as possible, and either
nowhere falling or falling throughout; a falling run is turned around. Every further member is put
into the sorted part by bisection, behind those that it does not come before. So members that are
equally great keep their sequence, and an order with contradictions has a definite outcome as well.
The members are kept whatever the order says (`perm_of_sortWith`).
-/

namespace ShaderLoom

variable {α : Type}

/-- The length of the falling run that continues after a member. -/
def fallingLength (less : α → α → Answer Bool) (previous : α) : List α → Answer Nat
  | [] => .ok 0
  | x :: xs => do
    if ← less x previous then .ok ((← fallingLength less x xs) + 1) else .ok 0

/-- The length of the run without a fall that continues after a member. -/
def risingLength (less : α → α → Answer Bool) (previous : α) : List α → Answer Nat
  | [] => .ok 0
  | x :: xs => do
    if ← less x previous then .ok 0 else .ok ((← risingLength less x xs) + 1)

/-- The run at the front, in rising order, and what follows it. -/
def frontRun (less : α → α → Answer Bool) (xs : List α) : Answer (List α × List α) :=
  match xs with
  | x :: y :: rest => do
    if ← less y x then
      let n := (← fallingLength less y rest) + 2
      .ok ((xs.take n).reverse, xs.drop n)
    else
      let n := (← risingLength less y rest) + 2
      .ok (xs.take n, xs.drop n)
  | xs => .ok (xs, [])

/-- The place for a member among the sorted ones at positions from `low` up to `low + width`, where
`fuel` bisections are enough. -/
def placeFor (less : α → α → Answer Bool) (sorted : Array α) (x : α) :
    Nat → Nat → Nat → Answer Nat
  | 0, low, _ => .ok low
  | fuel + 1, low, width =>
    if width = 0 then .ok low
    else
      let half := width / 2
      match sorted[low + half]? with
      | none => .ok low
      | some y => do
        if ← less x y then placeFor less sorted x fuel low half
        else placeFor less sorted x fuel (low + half + 1) (width - half - 1)

/-- Put members into a sorted list, from first to last. -/
def insertAll (less : α → α → Answer Bool) (sorted : List α) : List α → Answer (List α)
  | [] => .ok sorted
  | x :: xs => do
    let i ← placeFor less sorted.toArray x (sorted.length + 1) 0 sorted.length
    insertAll less (sorted.take i ++ x :: sorted.drop i) xs

/-- Sort a list. -/
def sortWith (less : α → α → Answer Bool) (xs : List α) : Answer (List α) := do
  let (run, rest) ← frontRun less xs
  insertAll less run rest

/-- Sort a list by the values that a function gives to its members. -/
def sortByValue (key : α → Value) (xs : List α) : Answer (List α) :=
  sortWith (fun x y => (key x).less? (key y)) xs

theorem perm_of_frontRun {less : α → α → Answer Bool} {xs run rest : List α}
    (h : frontRun less xs = .ok (run, rest)) : (run ++ rest).Perm xs := by
  match xs with
  | [] => simp_all [frontRun]
  | [x] => simp_all [frontRun]
  | x :: y :: zs =>
    simp only [frontRun, bind, Except.bind] at h
    split at h
    · simp at h
    · split at h
      · split at h
        · simp at h
        · next n _ =>
          obtain ⟨rfl, rfl⟩ : ((x :: y :: zs).take (n + 2)).reverse = run ∧
              (x :: y :: zs).drop (n + 2) = rest := by simpa using h
          conv => rhs; rw [← List.take_append_drop (n + 2) (x :: y :: zs)]
          exact (List.reverse_perm _).append_right _
      · split at h
        · simp at h
        · next n _ =>
          obtain ⟨rfl, rfl⟩ : (x :: y :: zs).take (n + 2) = run ∧
              (x :: y :: zs).drop (n + 2) = rest := by simpa using h
          rw [List.take_append_drop]

theorem perm_of_insertAll {less : α → α → Answer Bool} {xs sorted ys : List α}
    (h : insertAll less sorted xs = .ok ys) : ys.Perm (sorted ++ xs) := by
  induction xs generalizing sorted with
  | nil => simp_all [insertAll]
  | cons x xs ih =>
    simp only [insertAll, bind, Except.bind] at h
    split at h
    · simp at h
    · next i _ =>
      refine (ih h).trans ?_
      rw [List.append_assoc, List.cons_append]
      refine List.perm_middle.trans ?_
      rw [← List.append_assoc, List.take_append_drop]
      exact List.perm_middle.symm

/-- A sorted list has the members of the list that was sorted. -/
theorem perm_of_sortWith {less : α → α → Answer Bool} {xs ys : List α}
    (h : sortWith less xs = .ok ys) : ys.Perm xs := by
  simp only [sortWith, bind, Except.bind] at h
  split at h
  · simp at h
  · next p hp => exact (perm_of_insertAll h).trans (perm_of_frontRun hp)

end ShaderLoom
