import Mathlib.Data.List.Forall2
import ShaderLoom.Failure

/-!
# Operations that succeed or fail

What is known about the parts of an operation that succeeds, and about the first member of a list
that an operation fails on.
-/

namespace ShaderLoom

section Except

variable {ε α β : Type}

lemma bind_eq_ok {x : Except ε α} {f : α → Except ε β} {b : β} :
    (x >>= f) = .ok b ↔ ∃ a, x = .ok a ∧ f a = .ok b := by
  cases x with
  | error e => simp [bind, Except.bind]
  | ok a => simp [bind, Except.bind]

lemma bind_eq_error {x : Except ε α} {f : α → Except ε β} {e : ε} :
    (x >>= f) = .error e ↔ x = .error e ∨ ∃ a, x = .ok a ∧ f a = .error e := by
  cases x with
  | error e => simp [bind, Except.bind]
  | ok a => simp [bind, Except.bind]

lemma map_eq_ok {x : Except ε α} {f : α → β} {b : β} :
    x.map f = .ok b ↔ ∃ a, x = .ok a ∧ f a = b := by
  cases x with
  | error e => simp [Except.map]
  | ok a => simp [Except.map]

lemma exists_map_iff {x : Except ε α} {f : α → β} : (∃ b, x.map f = .ok b) ↔ ∃ a, x = .ok a := by
  cases x <;> simp [Except.map]

lemma toOption_eq_some {x : Except ε α} {a : α} : x.toOption = some a ↔ x = .ok a := by
  cases x with
  | error e => simp [Except.toOption]
  | ok b => simp [Except.toOption]

lemma exists_of_isSome_toOption {x : Except ε α} (h : x.toOption.isSome) : ∃ a, x = .ok a := by
  obtain ⟨a, ha⟩ := Option.isSome_iff_exists.1 h
  exact ⟨a, toOption_eq_some.1 ha⟩

/-- The results of an operation on the members of a list stand in the sequence of the members. -/
lemma mapM_eq_ok_iff {f : α → Except ε β} {xs : List α} {ys : List β} :
    xs.mapM f = .ok ys ↔ List.Forall₂ (fun x y => f x = .ok y) xs ys := by
  induction xs generalizing ys with
  | nil =>
    rw [List.mapM_nil, List.forall₂_nil_left_iff]
    simp [pure, Except.pure, eq_comm]
  | cons x xs ih =>
    rw [List.mapM_cons, bind_eq_ok, List.forall₂_cons_left_iff]
    constructor
    · rintro ⟨y, hy, hrest⟩
      obtain ⟨zs, hzs, heq⟩ := bind_eq_ok.1 hrest
      obtain rfl : y :: zs = ys := by simpa [pure, Except.pure] using heq
      exact ⟨y, zs, hy, ih.1 hzs, rfl⟩
    · rintro ⟨y, zs, hy, hzs, rfl⟩
      exact ⟨y, hy, bind_eq_ok.2 ⟨zs, ih.2 hzs, rfl⟩⟩

lemma exists_of_mem_mapM {f : α → Except ε β} {xs : List α} {ys : List β}
    (h : xs.mapM f = .ok ys) {y : β} (hy : y ∈ ys) : ∃ x ∈ xs, f x = .ok y := by
  rw [mapM_eq_ok_iff] at h
  induction h with
  | nil => simp at hy
  | cons hxy _ ih =>
    rcases List.mem_cons.1 hy with rfl | hy
    · exact ⟨_, by simp, hxy⟩
    · obtain ⟨x, hx, hfx⟩ := ih hy
      exact ⟨x, List.mem_cons_of_mem _ hx, hfx⟩

lemma exists_mem_of_mapM {f : α → Except ε β} {xs : List α} {ys : List β}
    (h : xs.mapM f = .ok ys) {x : α} (hx : x ∈ xs) : ∃ y ∈ ys, f x = .ok y := by
  rw [mapM_eq_ok_iff] at h
  induction h with
  | nil => simp at hx
  | cons hxy _ ih =>
    rcases List.mem_cons.1 hx with rfl | hx
    · exact ⟨_, by simp, hxy⟩
    · obtain ⟨y, hy, hfx⟩ := ih hx
      exact ⟨y, List.mem_cons_of_mem _ hy, hfx⟩

/-- A member of the list has the second property, and all members in front of it have the first
one. -/
def MeetsFirst (p q : α → Prop) (xs : List α) : Prop :=
  ∃ front x back, xs = front ++ x :: back ∧ (∀ y ∈ front, p y) ∧ q x

lemma meetsFirst_nil {p q : α → Prop} : ¬MeetsFirst p q [] := by
  rintro ⟨front, x, back, h, -⟩
  simp at h

lemma meetsFirst_cons {p q : α → Prop} {x : α} {xs : List α} :
    MeetsFirst p q (x :: xs) ↔ q x ∨ p x ∧ MeetsFirst p q xs := by
  constructor
  · rintro ⟨front, y, back, heq, hfront, hy⟩
    cases front with
    | nil =>
      obtain ⟨rfl, -⟩ : x = y ∧ xs = back := by simpa using heq
      exact .inl hy
    | cons z front =>
      obtain ⟨rfl, rfl⟩ : x = z ∧ xs = front ++ y :: back := by simpa using heq
      rw [List.forall_mem_cons] at hfront
      exact .inr ⟨hfront.1, front, y, back, rfl, hfront.2, hy⟩
  · rintro (hx | ⟨hx, front, y, back, rfl, hfront, hy⟩)
    · exact ⟨[], x, xs, rfl, by simp, hx⟩
    · exact ⟨x :: front, y, back, rfl, List.forall_mem_cons.2 ⟨hx, hfront⟩, hy⟩

/-- An operation fails on a list as it fails on the first member that it fails on. -/
lemma mapM_eq_error_iff {f : α → Except ε β} {xs : List α} {e : ε} :
    xs.mapM f = .error e ↔ MeetsFirst (fun x => ∃ y, f x = .ok y) (fun x => f x = .error e) xs := by
  induction xs with
  | nil => exact iff_of_false (by simp [pure, Except.pure]) meetsFirst_nil
  | cons x xs ih =>
    rw [List.mapM_cons, bind_eq_error, meetsFirst_cons, ← ih]
    refine or_congr_right ?_
    constructor
    · rintro ⟨y, hy, h⟩
      refine ⟨⟨y, hy⟩, ?_⟩
      rcases bind_eq_error.1 h with hrest | ⟨ys, -, h⟩
      · exact hrest
      · simp [pure, Except.pure] at h
    · rintro ⟨⟨y, hy⟩, h⟩
      exact ⟨y, hy, bind_eq_error.2 (.inl h)⟩

/-- An operation fails on a list as it fails on one of the members. -/
lemma exists_of_mapM_eq_error {f : α → Except ε β} {xs : List α} {e : ε}
    (h : xs.mapM f = .error e) : ∃ x ∈ xs, f x = .error e := by
  obtain ⟨front, x, back, rfl, -, hx⟩ := mapM_eq_error_iff.1 h
  exact ⟨x, by simp, hx⟩

/-- An operation succeeds on a list just if it succeeds on every member. -/
lemma exists_mapM_iff {f : α → Except ε β} {xs : List α} :
    (∃ ys, xs.mapM f = .ok ys) ↔ ∀ x ∈ xs, ∃ y, f x = .ok y := by
  induction xs with
  | nil => simp [pure, Except.pure]
  | cons x xs ih =>
    rw [List.forall_mem_cons, ← ih]
    simp only [mapM_eq_ok_iff, List.forall₂_cons_left_iff]
    constructor
    · rintro ⟨_, y, ys, hy, hys, rfl⟩
      exact ⟨⟨y, hy⟩, ys, hys⟩
    · rintro ⟨⟨y, hy⟩, ys, hys⟩
      exact ⟨y :: ys, y, ys, hy, hys, rfl⟩

end Except

section Answer

variable {α : Type}

@[simp] lemma liftM_answer_eq_ok {x : Answer α} {a : α} :
    (liftM x : Result α) = .ok a ↔ x = .ok a := by
  cases x with
  | error f => exact iff_of_false (by simp [liftM, monadLift]) (by simp)
  | ok b => simp [liftM, monadLift]

end Answer

end ShaderLoom
