import Mathlib.Data.Rat.Floor
import ShaderLoom.Proofs.Number.Spacing

/-!
# Shortest decimals read back

The basins of two patterns do not overlap (`Format.eq_of_holds`), and the shortest decimal of a
pattern lies in its basin, since seventeen digits always suffice (`Format.holds_shortest`). So the
shortest decimal determines the pattern.
-/

namespace ShaderLoom.Number

/-! ### Basins -/

namespace Format

variable {f : Format} {p q : ℕ} {x : ℚ}

lemma holds_iff (f : Format) (p : ℕ) (x : ℚ) :
    (f.basin p).holds x = true ↔
      if p % 2 = 0 then (f.basin p).low ≤ x ∧ x ≤ (f.basin p).high
      else (f.basin p).low < x ∧ x < (f.basin p).high := by
  unfold Basin.holds basin
  by_cases h : p % 2 = 0 <;> simp [h]

lemma between_of_holds (h : (f.basin p).holds x = true) :
    (f.basin p).low ≤ x ∧ x ≤ (f.basin p).high := by
  rw [holds_iff] at h
  split at h
  · exact h
  · exact ⟨h.1.le, h.2.le⟩

/-- A basin ends where a later one starts, or before. -/
lemma high_le_low (h : p < q) : (f.basin p).high ≤ (f.basin q).low := by
  obtain ⟨k, rfl⟩ : ∃ k, q = k + 1 := ⟨q - 1, by omega⟩
  have hp : f.value p ≤ f.value k := f.value_strictMono.monotone (by omega)
  have hsucc : f.value (p + 1) ≤ f.value (k + 1) := f.value_strictMono.monotone (by omega)
  simp only [basin, Nat.add_sub_cancel]
  linarith

lemma not_holds_both (h : p < q) (hp : (f.basin p).holds x = true)
    (hq : (f.basin q).holds x = true) : False := by
  have hbetween := between_of_holds hp
  have hbetween' := between_of_holds hq
  have hle : (f.basin p).high ≤ (f.basin q).low := high_le_low h
  have hhigh : x = (f.basin p).high := le_antisymm hbetween.2 (hle.trans hbetween'.1)
  have hlow : x = (f.basin q).low := le_antisymm (hbetween.2.trans hle) hbetween'.1
  rw [holds_iff] at hp hq
  -- both ends are closed, although one of two neighbours is odd
  have hpeven : p % 2 = 0 := by
    by_contra hodd
    rw [if_neg hodd] at hp
    exact absurd hp.2 (by rw [hhigh]; exact lt_irrefl _)
  have hqeven : q % 2 = 0 := by
    by_contra hodd
    rw [if_neg hodd] at hq
    exact absurd hq.1 (by rw [hlow]; exact lt_irrefl _)
  have hfar : p + 1 < q := by omega
  have hstrict : (f.basin p).high < (f.basin q).low := by
    have hp : f.value p < f.value (q - 1) := f.value_strictMono (by omega)
    have hsucc : f.value (p + 1) < f.value q := f.value_strictMono hfar
    simp only [basin]
    linarith
  linarith

/-- A number lies in one basin only. -/
theorem eq_of_holds (hp : (f.basin p).holds x = true) (hq : (f.basin q).holds x = true) :
    p = q := by
  rcases lt_trichotomy p q with h | h | h
  · exact (not_holds_both h hp hq).elim
  · exact h
  · exact (not_holds_both h hq hp).elim

/-- A basin is wide enough for a decimal with one digit more than the fraction field can tell
apart. -/
lemma value_lt_width (hp : 0 < p) :
    f.value p < 2 ^ (f.fractionBits + 1) * ((f.basin p).high - (f.basin p).low) := by
  obtain ⟨k, rfl⟩ : ∃ k, p = k + 1 := ⟨p - 1, by omega⟩
  have hpos := f.ulp_pos (k + 1)
  have hwidth : (f.basin (k + 1)).high - (f.basin (k + 1)).low = (f.ulp (k + 1) + f.ulp k) / 2 := by
    simp only [basin, Nat.add_sub_cancel]
    linarith [f.value_succ k, f.value_succ (k + 1)]
  have hpow : (0 : ℚ) < 2 ^ f.fractionBits := by positivity
  rw [hwidth, value_eq, pow_succ]
  rcases succ_cases f k with ⟨hulp, -⟩ | ⟨hulp, hunits, -⟩
  · have hlt : (f.units (k + 1) : ℚ) < 2 ^ f.fractionBits * 2 := by
      exact_mod_cast f.units_lt (k + 1)
    rw [← hulp]
    nlinarith
  · have hunits : (f.units (k + 1) : ℚ) = 2 ^ f.fractionBits := by exact_mod_cast hunits
    rw [hunits]
    nlinarith

lemma low_lt_value (hp : 0 < p) : (f.basin p).low < f.value p := by
  have hlt : f.value (p - 1) < f.value p := f.value_strictMono (by omega)
  simp only [basin]
  linarith

lemma value_lt_high (f : Format) (p : ℕ) : f.value p < (f.basin p).high := by
  have hlt : f.value p < f.value (p + 1) := f.value_strictMono (by omega)
  simp only [basin]
  linarith

end Format

/-! ### Decimals in a basin -/

namespace Basin

variable {b : Basin} {q : ℚ} {e : ℤ} {d : Decimal}

lemma holds_of_onGrid? (h : b.onGrid? q e = some d) : b.holds d.value = true := by
  unfold onGrid? at h
  simp only at h
  split at h
  · next hlower hupper =>
    split at h
    · obtain rfl := Option.some.inj h
      exact hlower
    · obtain rfl := Option.some.inj h
      exact hupper
  · next hlower _ =>
    obtain rfl := Option.some.inj h
    exact hlower
  · next _ hupper =>
    obtain rfl := Option.some.inj h
    exact hupper
  · cases h

lemma holds_of_search {fuel : ℕ} (h : b.search q fuel e = some d) : b.holds d.value = true := by
  induction fuel generalizing e with
  | zero => cases h
  | succ fuel ih =>
    unfold search at h
    split at h
    · next d' hd =>
      obtain rfl := Option.some.inj h
      exact holds_of_onGrid? hd
    · exact ih h

lemma search_ne_none {fuel : ℕ} (n : ℕ) (hn : n < fuel) (h : b.onGrid? q (e - n) ≠ none) :
    b.search q fuel e ≠ none := by
  induction fuel generalizing e n with
  | zero => omega
  | succ fuel ih =>
    unfold search
    split
    · simp
    · next hnone =>
      cases n with
      | zero => exact absurd (by simpa using hnone) h
      | succ n =>
        refine ih n (by omega) ?_
        have he : e - 1 - (n : ℤ) = e - ((n + 1 : ℕ) : ℤ) := by
          push_cast
          ring
        rw [he]
        exact h

end Basin

namespace Basin

variable {b : Basin} {q : ℚ} {e : ℤ}

/-- The number of steps of a grid below a number. -/
lemma floor_eq (hq : 0 ≤ q) (s : ℚ) (hs : 0 < s) :
    (((q / s).num.toNat / (q / s).den : ℕ) : ℚ) * s ≤ q ∧
      q < (((q / s).num.toNat / (q / s).den : ℕ) + 1) * s := by
  have hnonneg : 0 ≤ (q / s).num := Rat.num_nonneg.2 (div_nonneg hq hs.le)
  have hfloor : (((q / s).num.toNat / (q / s).den : ℕ) : ℤ) = ⌊q / s⌋ := by
    rw [Rat.floor_def']
    push_cast
    rw [Int.toNat_of_nonneg hnonneg]
  have hle := Int.floor_le (q / s)
  have hlt := Int.lt_floor_add_one (q / s)
  rw [← hfloor] at hle hlt
  push_cast at hle hlt
  exact ⟨(le_div_iff₀ hs).1 hle, (div_lt_iff₀ hs).1 hlt⟩

/-- A grid that is finer than a basin has a number in it, next to every number between its ends. -/
lemma onGrid?_ne_none (hlow : b.low < q) (hhigh : q < b.high) (hq : 0 ≤ q)
    (hwidth : (10 : ℚ) ^ e < b.high - b.low) : b.onGrid? q e ≠ none := by
  have hholds : ∀ x : ℚ, b.low < x → x < b.high → b.holds x = true := by
    intro x hx hx'
    unfold holds
    split
    · simp [hx.le, hx'.le]
    · simp [hx, hx']
  obtain ⟨hle, hlt⟩ := floor_eq hq ((10 : ℚ) ^ e) (by positivity)
  unfold onGrid?
  simp only [Decimal.value, tenPow_eq]
  generalize (q / 10 ^ e).num.toNat / (q / 10 ^ e).den = n at hle hlt
  -- if the number below is too low, the one above is not too high
  by_cases hn : b.low < n * 10 ^ e
  · rw [hholds _ hn (hle.trans_lt hhigh)]
    cases b.holds ((n + 1 : ℕ) * 10 ^ e) with
    | true =>
      dsimp only
      split <;> simp
    | false => simp
  · have hupper : b.holds ((n + 1 : ℕ) * 10 ^ e) = true := by
      push_cast
      exact hholds _ (by linarith) (by linarith)
    rw [hupper]
    cases b.holds (n * 10 ^ e) with
    | true =>
      dsimp only
      split <;> simp
    | false => simp

end Basin

lemma value_trimZeros (fuel : ℕ) (d : Decimal) : (d.trimZeros fuel).value = d.value := by
  induction fuel generalizing d with
  | zero => rfl
  | succ fuel ih =>
    unfold Decimal.trimZeros
    split
    · next h =>
      have hdigits : (d.digits : ℚ) = 10 * (d.digits / 10 : ℕ) := by
        have hdiv : d.digits = 10 * (d.digits / 10) := by omega
        exact_mod_cast hdiv
      rw [ih]
      simp only [Decimal.value, tenPow_eq]
      rw [hdigits, zpow_add_one₀ (by norm_num)]
      ring
    · rfl

lemma decimalLength_bounds {n : ℕ} (hn : 0 < n) :
    10 ^ (decimalLength n - 1) ≤ n ∧ n < 10 ^ decimalLength n := by
  have hpos : 0 < decimalLength n := Nat.length_toDigits_pos
  constructor
  · by_contra hlt
    rcases Nat.eq_zero_or_pos (decimalLength n - 1) with hzero | hlength
    · simp [hzero] at hlt
      omega
    · have hle := (Nat.length_toDigits_le_iff (by decide) hlength).2 (not_le.1 hlt)
      unfold decimalLength at *
      omega
  · exact (Nat.length_toDigits_le_iff (by decide) hpos).1 le_rfl

/-- A positive number is at least the power of ten below its scale. -/
lemma zpow_decimalScale_le {q : ℚ} (hq : 0 < q) : (10 : ℚ) ^ (decimalScale q - 1) ≤ q := by
  have hnum : 0 < q.num.toNat := by
    have := Rat.num_pos.2 hq
    omega
  have hdiv : q = (q.num.toNat : ℚ) / q.den := by
    have hcast : ((q.num.toNat : ℕ) : ℚ) = (q.num : ℚ) := by
      exact_mod_cast congrArg (Int.cast (R := ℚ)) (Int.toNat_of_nonneg (Rat.num_pos.2 hq).le)
    rw [hcast, Rat.num_div_den]
  unfold decimalScale
  simp only [tenPow_eq]
  split
  · have hlow : (10 : ℚ) ^ (decimalLength q.num.toNat - 1) ≤ q.num.toNat := by
      exact_mod_cast (decimalLength_bounds hnum).1
    have hhigh : (q.den : ℚ) ≤ 10 ^ decimalLength q.den := by
      exact_mod_cast (decimalLength_bounds q.den_pos).2.le
    have hlength : 0 < decimalLength q.num.toNat := Nat.length_toDigits_pos
    have hexponent : (decimalLength q.num.toNat : ℤ) - decimalLength q.den - 1 =
        (decimalLength q.num.toNat - 1 : ℕ) - (decimalLength q.den : ℤ) := by omega
    have hden : (0 : ℚ) < q.den := by exact_mod_cast q.den_pos
    calc (10 : ℚ) ^ ((decimalLength q.num.toNat : ℤ) - decimalLength q.den - 1)
        = 10 ^ (decimalLength q.num.toNat - 1) / 10 ^ decimalLength q.den := by
          rw [hexponent, zpow_sub₀ (by norm_num), zpow_natCast, zpow_natCast]
      _ ≤ q.num.toNat / 10 ^ decimalLength q.den :=
          div_le_div_of_nonneg_right hlow (by positivity)
      _ ≤ q.num.toNat / q.den :=
          div_le_div_of_nonneg_left (Nat.cast_nonneg _) hden hhigh
      _ = q := hdiv.symm
  · next hlt =>
    rw [Int.add_sub_cancel]
    exact not_lt.1 hlt

/-- The shortest decimal of a positive pattern lies in its basin. -/
theorem Format.holds_shortest {p : ℕ} (hp : 0 < p) :
    (Format.double.basin p).holds (Format.double.shortest p).value = true := by
  have hpos : 0 < Format.double.value p := by
    have hzero : Format.double.value 0 = 0 := by rw [value_eq]; simp [units]
    rw [← hzero]
    exact Format.double.value_strictMono hp
  have hwide : Format.double.value p < _ := value_lt_width hp
  have hscale := zpow_decimalScale_le hpos
  -- seventeen digits are always enough
  have hgrid : (Format.double.basin p).onGrid? (Format.double.value p)
      (decimalScale (Format.double.value p) - 1 - (16 : ℕ)) ≠ none := by
    refine Basin.onGrid?_ne_none (low_lt_value hp) (value_lt_high _ p) hpos.le ?_
    rw [zpow_sub₀ (by norm_num), zpow_natCast]
    have hbits : Format.double.fractionBits = 52 := rfl
    rw [hbits] at hwide
    rw [div_lt_iff₀ (by positivity)]
    generalize (Format.double.basin p).high - (Format.double.basin p).low = width at hwide ⊢
    norm_num at hwide ⊢
    linarith
  have hfound : (Format.double.basin p).search (Format.double.value p) 17
      (decimalScale (Format.double.value p) - 1) ≠ none :=
    Basin.search_ne_none 16 (by omega) hgrid
  unfold shortest
  simp only
  split
  · next d hd =>
    rw [value_trimZeros]
    exact Basin.holds_of_search hd
  · next hnone => exact absurd hnone hfound

/-- The shortest decimal determines the pattern. -/
theorem Format.shortest_inj {p q : ℕ} (hp : 0 < p) (hq : 0 < q)
    (h : (Format.double.shortest p).value = (Format.double.shortest q).value) : p = q := by
  have hmem := holds_shortest hq
  rw [← h] at hmem
  exact eq_of_holds (holds_shortest hp) hmem

end ShaderLoom.Number
