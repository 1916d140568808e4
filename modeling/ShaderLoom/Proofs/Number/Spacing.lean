import Mathlib.Algebra.Order.Field.Power
import Mathlib.Data.Rat.Lemmas
import Mathlib.Tactic.FieldSimp
import Mathlib.Tactic.LinearCombination
import Mathlib.Tactic.Linarith
import Mathlib.Tactic.Positivity
import Mathlib.Tactic.Ring
import ShaderLoom.Number.Shortest

/-!
# The values of a floating point format

The values of a format ascend with the patterns. From one value to the next there is one unit in the
last place (`Format.value_succ`), which is doubled where the exponent field grows.
-/

namespace ShaderLoom.Number

lemma tenPow_eq (e : ℤ) : tenPow e = (10 : ℚ) ^ e := by
  unfold tenPow
  split
  · next he =>
    obtain ⟨n, rfl⟩ := Int.eq_ofNat_of_zero_le he
    simp [Nat.pow_eq]
  · next he =>
    obtain ⟨n, rfl⟩ : ∃ n : ℕ, e = -n := ⟨(-e).toNat, by omega⟩
    simp [Nat.pow_eq, Rat.mkRat_eq_div]

namespace Format

lemma twoPow_eq (e : ℤ) : twoPow e = (2 : ℚ) ^ e := by
  unfold twoPow
  split
  · next he =>
    obtain ⟨n, rfl⟩ := Int.eq_ofNat_of_zero_le he
    simp [Nat.pow_eq]
  · next he =>
    obtain ⟨n, rfl⟩ : ∃ n : ℕ, e = -n := ⟨(-e).toNat, by omega⟩
    simp [Nat.pow_eq, Rat.mkRat_eq_div]

variable {f : Format} {p : ℕ}

/-- The unit in the last place of a pattern. -/
def ulp (f : Format) (p : ℕ) : ℚ := 2 ^ (f.minExponent + (max (p / 2 ^ f.fractionBits) 1 : ℕ) - 1)

/-- How many units a value is. -/
def units (f : Format) (p : ℕ) : ℕ :=
  if p / 2 ^ f.fractionBits = 0 then p % 2 ^ f.fractionBits
  else 2 ^ f.fractionBits + p % 2 ^ f.fractionBits

lemma ulp_pos (f : Format) (p : ℕ) : 0 < f.ulp p := zpow_pos (by norm_num) _

lemma value_eq (f : Format) (p : ℕ) : f.value p = f.units p * f.ulp p := by
  unfold value units ulp
  simp only [Nat.pow_eq, twoPow_eq]
  split
  · next h => simp [h]
  · next h =>
    rw [max_eq_left (Nat.one_le_iff_ne_zero.2 h)]

lemma units_lt (f : Format) (p : ℕ) : f.units p < 2 ^ (f.fractionBits + 1) := by
  have hmod : p % 2 ^ f.fractionBits < 2 ^ f.fractionBits := Nat.mod_lt p (by positivity)
  unfold units
  rw [pow_succ]
  split <;> omega

lemma div_mod_succ_of_last {n p : ℕ} (hn : 0 < n) (h : p % n + 1 = n) :
    (p + 1) / n = p / n + 1 ∧ (p + 1) % n = 0 := by
  have hp := Nat.mod_add_div p n
  have hsum : p + 1 = n * (p / n + 1) := by
    rw [mul_add, mul_one]
    omega
  rw [hsum]
  exact ⟨Nat.mul_div_cancel_left _ hn, Nat.mul_mod_right _ _⟩

lemma div_mod_succ_of_inner {n p : ℕ} (h : p % n + 1 < n) :
    (p + 1) / n = p / n ∧ (p + 1) % n = p % n + 1 := by
  have hp := Nat.mod_add_div p n
  have hsum : p + 1 = p % n + 1 + n * (p / n) := by omega
  constructor
  · rw [hsum, Nat.add_mul_div_left _ _ (by omega), Nat.div_eq_of_lt h, zero_add]
  · conv_lhs => rw [hsum]
    rw [Nat.add_mul_mod_self_left, Nat.mod_eq_of_lt h]

/-- The next pattern has one more unit of the same size, or half as many units that are twice as
large. -/
lemma succ_cases (f : Format) (p : ℕ) :
    (f.ulp (p + 1) = f.ulp p ∧ f.units (p + 1) = f.units p + 1) ∨
      (f.ulp (p + 1) = 2 * f.ulp p ∧ f.units (p + 1) = 2 ^ f.fractionBits ∧
        f.units p + 1 = 2 * 2 ^ f.fractionBits) := by
  have hpos : 0 < 2 ^ f.fractionBits := by positivity
  have hmod := Nat.mod_lt p hpos
  by_cases hlast : p % 2 ^ f.fractionBits + 1 = 2 ^ f.fractionBits
  · obtain ⟨hdiv, hrest⟩ := div_mod_succ_of_last hpos hlast
    -- the fraction overflows into the exponent, which has no effect on the smallest numbers
    by_cases hfield : p / 2 ^ f.fractionBits = 0
    · left
      simp only [ulp, units, hdiv, hrest, hfield]
      simp [hlast]
    · right
      have hmax : max (p / 2 ^ f.fractionBits) 1 = p / 2 ^ f.fractionBits :=
        max_eq_left (Nat.one_le_iff_ne_zero.2 hfield)
      have hmax' : max (p / 2 ^ f.fractionBits + 1) 1 = p / 2 ^ f.fractionBits + 1 :=
        max_eq_left (Nat.succ_pos _)
      simp only [ulp, units, hdiv, hrest, hmax, hmax', if_neg hfield, Nat.succ_ne_zero, if_false]
      refine ⟨?_, by simp, by omega⟩
      rw [← zpow_one_add₀ (by norm_num)]
      congr 1
      push_cast
      ring
  · left
    obtain ⟨hdiv, hrest⟩ := div_mod_succ_of_inner (show p % 2 ^ f.fractionBits + 1 <
      2 ^ f.fractionBits by omega)
    simp only [ulp, units, hdiv, hrest]
    split <;> simp [Nat.add_assoc]

theorem value_succ (f : Format) (p : ℕ) : f.value (p + 1) = f.value p + f.ulp p := by
  rw [value_eq, value_eq]
  rcases succ_cases f p with ⟨hulp, hunits⟩ | ⟨hulp, hunits, hlast⟩
  · rw [hulp, hunits]
    push_cast
    ring
  · have hlast' : (f.units p : ℚ) + 1 = 2 * 2 ^ f.fractionBits := by exact_mod_cast hlast
    rw [hulp, hunits]
    push_cast
    linear_combination (-f.ulp p) * hlast'

lemma value_strictMono (f : Format) : StrictMono f.value :=
  strictMono_nat_of_lt_succ fun p => by
    rw [value_succ]
    linarith [f.ulp_pos p]

end Format

end ShaderLoom.Number
