import Mathlib.Data.List.Basic
import Mathlib.Data.List.Infix
import Mathlib.Order.Bounds.Basic
import ShaderLoom.Glsl.Main

/-!
# Braces

The braces of a text cancel if as many of them close as open. An open brace is closed where the
braces behind it have closed once more than they have opened, for the first time; counting the depth
finds this place (`isFirst_closingBrace?`). A text whose braces are balanced is passed over
(`closingBrace?_balanced`).
-/

namespace ShaderLoom.Glsl

/-! ### The first member of a set -/

/-- The least member of a set of numbers, or none if it is empty. -/
def IsFirst (s : Set ℕ) : Option ℕ → Prop
  | some n => IsLeast s n
  | none => s = ∅

section First

variable {s t : Set ℕ} {n : Option ℕ}

lemma isFirst_some {n : ℕ} : IsFirst s (some n) ↔ n ∈ s ∧ ∀ i ∈ s, n ≤ i := Iff.rfl

lemma isFirst_none : IsFirst s none ↔ s = ∅ := Iff.rfl

/-- Where all members are moved by the same distance, the first one is. -/
lemma IsFirst.map_add {k : ℕ} (h : IsFirst t n) (hs : ∀ j, j ∈ s ↔ ∃ i ∈ t, j = i + k) :
    IsFirst s (n.map (· + k)) := by
  cases n with
  | none =>
    rw [isFirst_none] at h
    rw [Option.map_none, isFirst_none, Set.eq_empty_iff_forall_notMem]
    intro j hj
    obtain ⟨i, hi, -⟩ := (hs j).1 hj
    rw [h] at hi
    exact hi
  | some n =>
    obtain ⟨hn, hle⟩ := isFirst_some.1 h
    refine isFirst_some.2 ⟨(hs _).2 ⟨n, hn, rfl⟩, fun j hj => ?_⟩
    obtain ⟨i, hi, rfl⟩ := (hs j).1 hj
    exact Nat.add_le_add_right (hle i hi) k

end First

/-! ### Counting braces -/

/-- How many more braces of a text open than close. -/
def braceSum (cs : List Char) : ℤ := cs.count '\x7b' - cs.count '\x7d'

@[simp] lemma braceSum_nil : braceSum [] = 0 := rfl

lemma braceSum_append (front cs : List Char) :
    braceSum (front ++ cs) = braceSum front + braceSum cs := by
  simp only [braceSum, List.count_append]
  omega

lemma braceSum_cons (c : Char) (cs : List Char) :
    braceSum (c :: cs) = braceSum [c] + braceSum cs := braceSum_append [c] cs

lemma braceSum_open : braceSum ['\x7b'] = 1 := rfl

lemma braceSum_close : braceSum ['\x7d'] = -1 := rfl

lemma braceSum_other {c : Char} (hopen : c ≠ '\x7b') (hclose : c ≠ '\x7d') :
    braceSum [c] = 0 := by
  simp [braceSum, hopen, hclose]

/-- A character changes the depth, unless it closes the last open brace. -/
lemma depth_cases (depth : ℕ) (c : Char) :
    (∃ next : ℕ, (next : ℤ) = depth + braceSum [c]) ∨ depth = 0 ∧ c = '\x7d' := by
  by_cases hopen : c = '\x7b'
  · exact .inl ⟨depth + 1, by rw [hopen, braceSum_open]; rfl⟩
  by_cases hclose : c = '\x7d'
  · cases depth with
    | zero => exact .inr ⟨rfl, hclose⟩
    | succ depth => exact .inl ⟨depth, by rw [hclose, braceSum_close]; omega⟩
  · exact .inl ⟨depth, by rw [braceSum_other hopen hclose]; omega⟩

lemma closingBrace?_close (cs : List Char) : closingBrace? 0 ('\x7d' :: cs) = some 0 := rfl

/-- Behind another character, counting goes on with the changed depth. -/
lemma closingBrace?_cons {depth next : ℕ} {c : Char} (h : (next : ℤ) = depth + braceSum [c])
    (cs : List Char) : closingBrace? depth (c :: cs) = (closingBrace? next cs).map (· + 1) := by
  by_cases hopen : c = '\x7b'
  · rw [hopen, braceSum_open] at h
    obtain rfl : next = depth + 1 := by omega
    rw [hopen]
    rfl
  by_cases hclose : c = '\x7d'
  · rw [hclose, braceSum_close] at h
    obtain rfl : depth = next + 1 := by omega
    rw [hclose]
    rfl
  · rw [braceSum_other hopen hclose] at h
    obtain rfl : next = depth := by omega
    simp [closingBrace?, hopen, hclose]

/-- A text whose first character is the closing brace starts with a brace. -/
lemma eq_close_of_closingBrace?_zero {depth : ℕ} {c : Char} {cs : List Char}
    (h : closingBrace? depth (c :: cs) = some 0) : c = '\x7d' := by
  rcases depth_cases depth c with ⟨next, hnext⟩ | ⟨-, hc⟩
  · rw [closingBrace?_cons hnext] at h
    obtain ⟨n, -, hn⟩ := Option.map_eq_some_iff.1 h
    exact absurd hn (Nat.succ_ne_zero n)
  · exact hc

/-- The places at which the braces of a text have closed `depth` braces and one more. -/
def closings (depth : ℕ) (cs : List Char) : Set ℕ :=
  {n | n < cs.length ∧ braceSum (cs.take (n + 1)) = -(depth + 1)}

/-- Behind a character that does not close the last open brace, the depth has changed by that
character. -/
lemma mem_closings_cons {depth depth' : ℕ} {c : Char} (cs : List Char)
    (hdepth : (depth' : ℤ) = depth + braceSum [c]) (j : ℕ) :
    j ∈ closings depth (c :: cs) ↔ ∃ i ∈ closings depth' cs, j = i + 1 := by
  cases j with
  | zero =>
    refine iff_of_false ?_ (by simp)
    rintro ⟨-, hsum⟩
    have hone : braceSum [c] = -(depth + 1) := hsum
    omega
  | succ j =>
    have hsum : braceSum ((c :: cs).take (j + 1 + 1)) = -(depth + 1) ↔
        braceSum (cs.take (j + 1)) = -(depth' + 1) := by
      rw [List.take_succ_cons, braceSum_cons]
      omega
    have hmem : j + 1 ∈ closings depth (c :: cs) ↔ j ∈ closings depth' cs :=
      and_congr (by simp) hsum
    rw [hmem]
    exact ⟨fun h => ⟨j, h, rfl⟩, fun ⟨i, hi, heq⟩ => (Nat.succ.inj heq) ▸ hi⟩

/-- Counting the depth finds the first place where one brace more is closed. -/
theorem isFirst_closingBrace? (depth : ℕ) (cs : List Char) :
    IsFirst (closings depth cs) (closingBrace? depth cs) := by
  induction cs generalizing depth with
  | nil =>
    rw [closingBrace?, isFirst_none, Set.eq_empty_iff_forall_notMem]
    rintro n ⟨hn, -⟩
    exact absurd hn (Nat.not_lt_zero n)
  | cons c cs ih =>
    rcases depth_cases depth c with ⟨next, hnext⟩ | ⟨rfl, rfl⟩
    · rw [closingBrace?_cons hnext]
      exact (ih next).map_add (mem_closings_cons cs hnext)
    · rw [closingBrace?_close]
      exact isFirst_some.2 ⟨⟨by simp, rfl⟩, fun i _ => Nat.zero_le i⟩

/-! ### Balanced texts -/

/-- No brace of the text closes one in front of it, and none is left open. -/
structure Balanced (cs : List Char) : Prop where
  total : braceSum cs = 0
  opened : ∀ front, front <+: cs → 0 ≤ braceSum front

instance (cs : List Char) : Decidable (Balanced cs) :=
  decidable_of_iff (braceSum cs = 0 ∧ ∀ front ∈ cs.inits, 0 ≤ braceSum front)
    ⟨fun h => ⟨h.1, fun front hfront => h.2 front ((List.mem_inits front cs).2 hfront)⟩,
      fun h => ⟨h.total, fun front hfront => h.opened front ((List.mem_inits front cs).1 hfront)⟩⟩

/-- A text that does not close the last open brace is passed over, and changes the depth. -/
lemma closingBrace?_append {depth next : ℕ} {cs : List Char}
    (hopened : ∀ front, front <+: cs → 0 ≤ depth + braceSum front)
    (hnext : (next : ℤ) = depth + braceSum cs) (rest : List Char) :
    closingBrace? depth (cs ++ rest) = (closingBrace? next rest).map (· + cs.length) := by
  induction cs generalizing depth with
  | nil =>
    obtain rfl : next = depth := by
      rw [braceSum_nil] at hnext
      omega
    simp
  | cons c cs ih =>
    have hfirst := hopened [c] (List.cons_prefix_cons.2 ⟨rfl, List.nil_prefix⟩)
    obtain ⟨behind, hbehind⟩ : ∃ behind : ℕ, (behind : ℤ) = depth + braceSum [c] :=
      ⟨_, Int.toNat_of_nonneg hfirst⟩
    have hrec : closingBrace? behind (cs ++ rest) =
        (closingBrace? next rest).map (· + cs.length) := by
      refine ih (fun front hfront => ?_) ?_
      · have hmore := hopened (c :: front) (List.cons_prefix_cons.2 ⟨rfl, hfront⟩)
        rw [braceSum_cons] at hmore
        omega
      · rw [hnext, braceSum_cons]
        omega
    rw [List.cons_append, closingBrace?_cons hbehind, hrec, Option.map_map]
    rfl

/-- A balanced text is passed over. -/
theorem closingBrace?_balanced {cs : List Char} (h : Balanced cs) (depth : ℕ) (rest : List Char) :
    closingBrace? depth (cs ++ rest) = (closingBrace? depth rest).map (· + cs.length) := by
  refine closingBrace?_append (fun front hfront => ?_) ?_ rest
  · have hfront := h.opened front hfront
    omega
  · rw [h.total]
    omega

end ShaderLoom.Glsl
