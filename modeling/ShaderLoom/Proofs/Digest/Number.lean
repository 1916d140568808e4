import ShaderLoom.Proofs.Digest.Equality
import ShaderLoom.Value.Digest

/-!
# Digests of numbers

The digest of a number is made of its quantity alone: a number without an imaginary part has the
digest of its real part, since such digests are small and never the reserved one. So numbers that
are the same key of a map have one digest, however they are represented, and so have all other
values whose members need not be looked at (`Value.digests_agree_of_sameKey`).
-/

namespace ShaderLoom

open Number

/-! ### Quantities -/

lemma Number.Quantity.eq_of_equal {p q : Quantity} (h : p.equal q = true) : p = q ∧ p ≠ .missing := by
  cases p <;> cases q <;> simp_all [Quantity.equal]

lemma Number.Quantity.equal_iff {p q : Quantity} (hp : p ≠ .missing) :
    p.equal q = true ↔ p = q := by
  cases p <;> cases q <;> simp_all [Quantity.equal]

lemma exists_quantityDigest? {p : Quantity} (h : p ≠ .missing) :
    ∃ n, quantityDigest? p = some n := by
  cases p with
  | finite q => exact ⟨_, rfl⟩
  | infinite negative => exact ⟨_, rfl⟩
  | missing => exact absurd rfl h

lemma settle_of_ne {n : ℤ} (h : n ≠ -1) : settle n = n := if_neg h

lemma settle_ne (n : ℤ) : settle n ≠ -1 := by
  unfold settle
  split <;> omega

lemma wrap64_of_natAbs_le {n : ℤ} (h : n.natAbs ≤ digestModulus) : wrap64 n = n := by
  have hmodulus : digestModulus = 2305843009213693951 := rfl
  simp only [wrap64, IntWidth.wrap, IntWidth.bounds, Int.reduceSub, Int.reduceAdd]
  omega

lemma natAbs_settle_le {n : ℤ} (h : n.natAbs < digestModulus) :
    (settle n).natAbs ≤ digestModulus := by
  have hmodulus : digestModulus = 2305843009213693951 := rfl
  unfold settle
  split <;> omega

lemma natAbs_rationalDigest_le (q : Rat) : (rationalDigest q).natAbs ≤ digestModulus := by
  have hmod : ∀ n, n % digestModulus < digestModulus := fun n => Nat.mod_lt n (by decide)
  refine natAbs_settle_le ?_
  split
  · rw [Int.natAbs_neg, Int.natAbs_natCast]
    exact hmod _
  · rw [Int.natAbs_natCast]
    exact hmod _

/-- A digest of a quantity is at most the modulus, and not the reserved one. -/
lemma bounds_of_quantityDigest? {p : Quantity} {n : ℤ} (h : quantityDigest? p = some n) :
    n ≠ -1 ∧ n.natAbs ≤ digestModulus := by
  cases p with
  | finite q =>
    obtain rfl := Option.some.inj h
    exact ⟨settle_ne _, natAbs_rationalDigest_le q⟩
  | infinite negative =>
    obtain rfl := Option.some.inj h
    cases negative <;> decide
  | missing => cases h

namespace Value

/-! ### Numbers -/

/-- The digest of a real and an imaginary quantity. -/
def pairDigest (p : Quantity × Quantity) : Digest :=
  match quantityDigest? p.1, quantityDigest? p.2 with
  | some a, some b => .number (settle (wrap64 (a + 1000003 * b)))
  | _, _ => .unique

lemma pairDigest_real (p : Quantity) : pairDigest (p, .ofInt 0) = quantityDigest p := by
  have hzero : quantityDigest? (.ofInt 0) = some 0 := rfl
  unfold pairDigest quantityDigest
  rw [hzero]
  cases h : quantityDigest? p with
  | none => rfl
  | some n =>
    obtain ⟨hne, hle⟩ := bounds_of_quantityDigest? h
    have hsum : n + 1000003 * 0 = n := by omega
    simp only [hsum, wrap64_of_natAbs_le hle, settle_of_ne hne]

/-- The digest of a number is that of its quantities. -/
lemma digest?_of_complexQuantity? {v : Value} {p : Quantity × Quantity}
    (h : v.complexQuantity? = some p) : v.digest? = .ok (pairDigest p) := by
  cases v with
  | bool b =>
    obtain rfl := Option.some.inj h
    rw [pairDigest_real]
    cases b <;> rfl
  | int n | float x | scalar s =>
    obtain rfl := Option.some.inj h
    rw [digest?, pairDigest_real]
  | complex re im | complexScalar isWide re im =>
    obtain rfl := Option.some.inj h
    rw [digest?]
    rfl
  | _ => simp [complexQuantity?] at h

/-- Numbers of the same quantity have one digest. -/
lemma exists_digest_of_sameQuantity {v w : Value} (h : v.sameQuantity w = true) :
    ∃ n, v.digest? = .ok (.number n) ∧ w.digest? = .ok (.number n) := by
  unfold sameQuantity at h
  split at h
  · next a b c d hv hw =>
    rw [Bool.and_eq_true] at h
    obtain ⟨rfl, ha⟩ := Quantity.eq_of_equal h.1
    obtain ⟨rfl, hb⟩ := Quantity.eq_of_equal h.2
    obtain ⟨m, hm⟩ := exists_quantityDigest? ha
    obtain ⟨n, hn⟩ := exists_quantityDigest? hb
    have hdigest : pairDigest (a, b) = .number (settle (wrap64 (m + 1000003 * n))) := by
      simp only [pairDigest, hm, hn]
    rw [digest?_of_complexQuantity? hv, digest?_of_complexQuantity? hw, hdigest]
    exact ⟨_, rfl, rfl⟩
  · exact absurd h (by simp)

/-! ### Values without members -/

lemma rangeDigest_eq {a b c a' b' c' : ℤ} (h : sameRange a b c a' b' c' = true) :
    rangeDigest a b c = rangeDigest a' b' c' := by
  simp only [sameRange, rangeDigest] at *
  grind

lemma agreeAll_rangeDigest (a b c : ℤ) :
    Digest.agreeAll (rangeDigest a b c) (rangeDigest a b c) = true := by
  simp only [rangeDigest, Digest.agreeAll]
  split <;> split <;> simp [Digest.agrees]

lemma agrees_textDigest (s : String) : (textDigest s).agrees (textDigest s) = true := by
  unfold textDigest
  split <;> simp [Digest.agrees]

/-- Values without members that are the same key have digests that agree. -/
theorem digests_agree_of_sameKey {v w : Value} {d e : Digest} (hv : v.isWhole = true)
    (h : v.sameKey w = true) (hd : v.digest? = .ok d) (he : w.digest? = .ok e) :
    d.agrees e = true := by
  have hnumber : v.isQuantity = true → d.agrees e = true := by
    intro hquantity
    rw [sameKey_of_isQuantity hquantity] at h
    obtain ⟨n, hvn, hwn⟩ := exists_digest_of_sameQuantity h
    obtain rfl := Except.ok.inj (hd.symm.trans hvn)
    obtain rfl := Except.ok.inj (he.symm.trans hwn)
    simp [Digest.agrees]
  cases v with
  | bool | int | float | complex | scalar | complexScalar => exact hnumber rfl
  | text s =>
    cases w <;> simp [sameKey] at h
    subst h
    obtain rfl := Except.ok.inj hd
    obtain rfl := Except.ok.inj he
    exact agrees_textDigest s
  | null | moduleRef | functionRef =>
    cases w <;> simp [sameKey] at h
    all_goals
      obtain rfl := Except.ok.inj hd
      obtain rfl := Except.ok.inj he
      simp [Digest.agrees, h]
  | range a b c =>
    cases w <;> simp [sameKey] at h
    obtain rfl := Except.ok.inj hd
    obtain rfl := Except.ok.inj he
    rw [← rangeDigest_eq h]
    simpa [Digest.agrees] using agreeAll_rangeDigest a b c
  | _ => simp_all [isWhole, digest?]

end Value

end ShaderLoom
