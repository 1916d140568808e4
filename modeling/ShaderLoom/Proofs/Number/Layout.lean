import Mathlib.Data.List.TakeWhile
import ShaderLoom.Proofs.Number.Shortest

/-!
# Reading the text of a double

The text of a decimal stands for the value of the decimal, however it is laid out
(`readLayout_layout`). As the shortest decimal determines the pattern, two doubles with the same
text are the same double (`doubleText_inj`).
-/

namespace ShaderLoom.Number

/-! ### Layouts -/

/-- The power of ten at the end of a text: a mark, a sign and digits. -/
def readPower : List Char → ℤ
  | _ :: '-' :: ds => -(Nat.ofDigitChars 10 ds 0 : ℤ)
  | _ :: _ :: ds => Nat.ofDigitChars 10 ds 0
  | _ => 0

/-- The number that a text stands for: digits with or without a point, and possibly a power. -/
def readLayout (cs : List Char) : ℚ :=
  let mantissa := cs.takeWhile (· ≠ 'e')
  let whole := mantissa.takeWhile (· ≠ '.')
  let fraction := (mantissa.dropWhile (· ≠ '.')).drop 1
  Nat.ofDigitChars 10 (whole ++ fraction) 0 *
    10 ^ (readPower (cs.dropWhile (· ≠ 'e')) - fraction.length)

/-- The text consists of digits. -/
def IsDigits (cs : List Char) : Prop := ∀ c ∈ cs, c.isDigit = true

lemma isDigits_digitChars (n : ℕ) : IsDigits (digitChars n) :=
  fun _ hc => Nat.isDigit_of_mem_toDigits (by decide) (by decide) hc

namespace IsDigits

variable {cs ds : List Char}

lemma append (hc : IsDigits cs) (hd : IsDigits ds) : IsDigits (cs ++ ds) := by
  intro c h
  rcases List.mem_append.1 h with h | h
  · exact hc c h
  · exact hd c h

lemma replicate (n : ℕ) : IsDigits (List.replicate n '0') := by
  intro c hc
  obtain rfl := List.eq_of_mem_replicate hc
  rfl

lemma of_subset (hc : IsDigits cs) (h : ds ⊆ cs) : IsDigits ds := fun c hmem => hc c (h hmem)

lemma ne {c d : Char} (hc : IsDigits cs) (hmem : c ∈ cs) (hd : d.isDigit = false) : c ≠ d := by
  rintro rfl
  exact absurd ((hc c hmem).symm.trans hd) (by decide)

end IsDigits

/-- Nothing follows, or a power of ten. -/
def IsPower (cs : List Char) : Prop := cs = [] ∨ ∃ rest, cs = 'e' :: rest

lemma split_power {cs power : List Char} (hcs : ∀ c ∈ cs, c ≠ 'e') (hpower : IsPower power) :
    (cs ++ power).takeWhile (· ≠ 'e') = cs ∧ (cs ++ power).dropWhile (· ≠ 'e') = power := by
  rw [List.takeWhile_append_of_pos fun c hc => by simpa using hcs c hc,
    List.dropWhile_append_of_pos fun c hc => by simpa using hcs c hc]
  rcases hpower with rfl | ⟨rest, rfl⟩
  · simp
  · simp

lemma readLayout_point {whole fraction power : List Char} (hwhole : IsDigits whole)
    (hfraction : IsDigits fraction) (hpower : IsPower power) :
    readLayout (whole ++ '.' :: fraction ++ power) =
      Nat.ofDigitChars 10 (whole ++ fraction) 0 * 10 ^ (readPower power - fraction.length) := by
  have hmantissa : ∀ c ∈ whole ++ '.' :: fraction, c ≠ 'e' := by
    intro c hc
    rcases List.mem_append.1 hc with hc | hc
    · exact hwhole.ne hc rfl
    · rcases List.mem_cons.1 hc with rfl | hc
      · decide
      · exact hfraction.ne hc rfl
  obtain ⟨htake, hdrop⟩ := split_power hmantissa hpower
  have hpoint : ∀ c ∈ whole, (decide (c ≠ '.')) = true := by
    intro c hc
    simpa using hwhole.ne hc rfl
  unfold readLayout
  simp only [htake, hdrop]
  rw [List.takeWhile_append_of_pos hpoint, List.dropWhile_append_of_pos hpoint]
  simp

lemma readLayout_whole {whole power : List Char} (hwhole : IsDigits whole)
    (hpower : IsPower power) :
    readLayout (whole ++ power) = Nat.ofDigitChars 10 whole 0 * 10 ^ readPower power := by
  obtain ⟨htake, hdrop⟩ := split_power (fun c hc => hwhole.ne hc rfl) hpower
  have hpoint : ∀ c ∈ whole, (decide (c ≠ '.')) = true := by
    intro c hc
    simpa using hwhole.ne hc rfl
  unfold readLayout
  simp only [htake, hdrop, List.takeWhile_eq_self_iff.2 hpoint, List.dropWhile_eq_nil_iff.2 hpoint]
  simp

lemma ofDigitChars_digitChars (n : ℕ) : Nat.ofDigitChars 10 (digitChars n) 0 = n :=
  Nat.ofDigitChars_ten_toDigits

section

variable {ds : List Char}

/-- All digits stand behind the point, with zeros in between. -/
lemma readLayout_behind (hds : IsDigits ds) (k : ℕ) :
    readLayout (['0', '.'] ++ List.replicate k '0' ++ ds) =
      Nat.ofDigitChars 10 ds 0 * 10 ^ (-((k + ds.length : ℕ) : ℤ)) := by
  have htext : ['0', '.'] ++ List.replicate k '0' ++ ds =
      List.replicate 1 '0' ++ '.' :: (List.replicate k '0' ++ ds) ++ [] := by simp
  rw [htext, readLayout_point (.replicate 1) ((IsDigits.replicate k).append hds) (.inl rfl),
    Nat.ofDigitChars_append, Nat.ofDigitChars_append, Nat.ofDigitChars_replicate_zero,
    Nat.ofDigitChars_replicate_zero]
  simp [readPower]

/-- The point stands between two digits. -/
lemma readLayout_between (hds : IsDigits ds) {n : ℕ} (hn : n ≤ ds.length) :
    readLayout (ds.take n ++ '.' :: ds.drop n) =
      Nat.ofDigitChars 10 ds 0 * 10 ^ ((n : ℤ) - ds.length) := by
  have htext : ds.take n ++ '.' :: ds.drop n = ds.take n ++ '.' :: ds.drop n ++ [] := by simp
  rw [htext, readLayout_point (hds.of_subset (List.take_subset _ _))
    (hds.of_subset (List.drop_subset _ _)) (.inl rfl), List.take_append_drop, List.length_drop]
  have hexponent : readPower [] - ((ds.length - n : ℕ) : ℤ) = (n : ℤ) - ds.length := by
    simp only [readPower]
    omega
  rw [hexponent]

/-- All digits stand before the point, with zeros in between. -/
lemma readLayout_before (hds : IsDigits ds) (k : ℕ) :
    readLayout (ds ++ List.replicate k '0' ++ ['.', '0']) =
      Nat.ofDigitChars 10 ds 0 * 10 ^ (k : ℤ) := by
  have htext : ds ++ List.replicate k '0' ++ ['.', '0'] =
      ds ++ List.replicate k '0' ++ '.' :: List.replicate 1 '0' ++ [] := by simp
  rw [htext, readLayout_point (hds.append (.replicate k)) (.replicate 1) (.inl rfl),
    Nat.ofDigitChars_append, Nat.ofDigitChars_append, Nat.ofDigitChars_replicate_zero,
    Nat.ofDigitChars_replicate_zero]
  simp only [readPower, List.length_replicate]
  push_cast
  rw [zpow_natCast]
  field_simp

/-- A power of ten that is written out. -/
def powerText (power : ℤ) : List Char :=
  ['e', if power < 0 then '-' else '+'] ++
    List.replicate (2 - (digitChars power.natAbs).length) '0' ++ digitChars power.natAbs

lemma isPower_powerText (power : ℤ) : IsPower (powerText power) := .inr ⟨_, rfl⟩

lemma readPower_powerText (power : ℤ) : readPower (powerText power) = power := by
  have hdigits : ∀ k, Nat.ofDigitChars 10 (List.replicate k '0' ++ digitChars power.natAbs) 0 =
      power.natAbs := by
    intro k
    rw [Nat.ofDigitChars_append, Nat.ofDigitChars_replicate_zero, mul_zero,
      ofDigitChars_digitChars]
  unfold powerText
  by_cases hneg : power < 0
  · rw [if_pos hneg]
    show -((Nat.ofDigitChars 10 (List.replicate (2 - (digitChars power.natAbs).length) '0' ++
      digitChars power.natAbs) 0 : ℕ) : ℤ) = power
    rw [hdigits]
    omega
  · rw [if_neg hneg]
    show ((Nat.ofDigitChars 10 (List.replicate (2 - (digitChars power.natAbs).length) '0' ++
      digitChars power.natAbs) 0 : ℕ) : ℤ) = power
    rw [hdigits]
    omega

lemma readLayout_power (hds : IsDigits ds) (power : ℤ) :
    readLayout (ds.take 1 ++ (if ds.length = 1 then [] else '.' :: ds.drop 1) ++ powerText power) =
      Nat.ofDigitChars 10 ds 0 * 10 ^ (power - (ds.length - 1 : ℕ)) := by
  by_cases hone : ds.length = 1
  · rw [if_pos hone, List.take_of_length_le hone.le, List.append_nil,
      readLayout_whole hds (isPower_powerText power), readPower_powerText, hone]
    simp
  · rw [if_neg hone, readLayout_point (hds.of_subset (List.take_subset _ _))
      (hds.of_subset (List.drop_subset _ _)) (isPower_powerText power), List.take_append_drop,
      List.length_drop, readPower_powerText]

end

/-- A laid out decimal stands for its value. -/
theorem readLayout_layout (d : Decimal) (isTiny : Bool) (most : ℤ) :
    readLayout (d.layout isTiny most) = d.value := by
  have hdigits := isDigits_digitChars d.digits
  have hvalue := ofDigitChars_digitChars d.digits
  have hlength : 0 < (digitChars d.digits).length := Nat.length_toDigits_pos
  unfold Decimal.layout Decimal.value
  simp only [tenPow_eq]
  generalize digitChars d.digits = ds at hdigits hvalue hlength ⊢
  -- the point stands before the digits, behind or among them, or there is a power
  split
  · split
    · next hpoint =>
      rw [readLayout_behind hdigits, hvalue]
      congr 2
      push_cast
      omega
    · next hpoint =>
      obtain ⟨n, hn⟩ : ∃ n : ℕ, (ds.length : ℤ) + d.exponent = n :=
        Int.eq_ofNat_of_zero_le (by omega)
      rw [hn, Int.toNat_natCast]
      by_cases hle : ds.length ≤ n
      · rw [List.take_of_length_le hle, List.drop_of_length_le hle, if_pos rfl,
          readLayout_before hdigits, hvalue]
        congr 2
        omega
      · have hdrop : ds.drop n ≠ [] := by
          rw [ne_eq, List.drop_eq_nil_iff]
          omega
        have hzeros : n - ds.length = 0 := by omega
        rw [if_neg hdrop, hzeros, List.replicate_zero, List.append_nil,
          readLayout_between hdigits (by omega), hvalue]
        congr 2
        omega
  · have htext := readLayout_power hdigits ((ds.length : ℤ) + d.exponent - 1)
    simp only [powerText, ← List.append_assoc] at htext
    rw [htext, hvalue]
    congr 2
    omega

/-! ### The text of a double -/

/-- A missing number has one pattern only. -/
lemma toBits_of_missing {x : Float}
    (h : Format.double.infinity < x.toBits.toNat % Format.double.signBit) :
    x.toBits.toBitVec = Float.Model.UnpackedFloat.packedNaN .binary64 := by
  have hbits : x.toBits.toNat = x.toBits.toBitVec.toNat := rfl
  have hinfinity : Format.double.infinity = 2047 * 2 ^ 52 := by decide
  have hsign : Format.double.signBit = 2 ^ 63 := by decide
  rw [hinfinity, hsign, hbits] at h
  refine x.toModel.valid.eq_packedNaN ?_ ?_
  · apply BitVec.eq_of_toNat_eq
    show (x.toBits.toBitVec.toNat >>> 52) % 2 ^ 11 = 2047
    rw [Nat.shiftRight_eq_div_pow]
    have hlt := x.toBits.toBitVec.isLt
    omega
  · intro hzero
    have hmantissa : (x.toBits.toBitVec.toNat >>> 0) % 2 ^ 52 = 0 := congrArg BitVec.toNat hzero
    rw [Nat.shiftRight_zero] at hmantissa
    omega

/-- The text of a pattern without sign that is not missing. -/
def magnitudeText (m : ℕ) : List Char :=
  if m = 0 then ['0', '.', '0']
  else if m < Format.double.infinity then
    (Format.double.shortest m).layout (Format.double.value m < tenPow (-4)) Format.double.mostWhole
  else ['i', 'n', 'f']

lemma text_of_missing {p : ℕ} (h : Format.double.infinity < p % Format.double.signBit) :
    Format.double.text p = ['n', 'a', 'n'] := by
  have hinfinity : 0 < Format.double.infinity := by decide
  unfold Format.text
  simp only
  rw [if_neg (by omega), if_neg (by omega), if_neg (by omega)]

lemma text_of_not_missing {p : ℕ} (h : p % Format.double.signBit ≤ Format.double.infinity) :
    Format.double.text p = (if Format.double.signBit ≤ p then ['-'] else []) ++
      magnitudeText (p % Format.double.signBit) := by
  unfold Format.text magnitudeText
  simp only
  split
  · rfl
  split
  · rfl
  · rw [if_pos (by omega)]

lemma exists_layout_eq_cons (d : Decimal) (isTiny : Bool) (most : ℤ) :
    ∃ c cs, d.layout isTiny most = c :: cs ∧ c.isDigit = true := by
  have hdigits := isDigits_digitChars d.digits
  have hne : digitChars d.digits ≠ [] := Nat.toDigits_ne_nil
  unfold Decimal.layout
  simp only
  generalize digitChars d.digits = ds at hdigits hne ⊢
  obtain ⟨c, cs, rfl⟩ := List.exists_cons_of_ne_nil hne
  split
  · split
    · exact ⟨'0', _, rfl, rfl⟩
    · next hpoint =>
      obtain ⟨n, hn⟩ : ∃ n : ℕ, ((c :: cs).length : ℤ) + d.exponent = n + 1 :=
        ⟨(((c :: cs).length : ℤ) + d.exponent - 1).toNat, by omega⟩
      have htake : (((c :: cs).length : ℤ) + d.exponent).toNat = n + 1 := by omega
      rw [htake, List.take_succ_cons]
      exact ⟨c, _, rfl, hdigits c (by simp)⟩
  · exact ⟨c, _, rfl, hdigits c (by simp)⟩

/-- What the text of a pattern without sign starts with. -/
lemma exists_magnitudeText_eq_cons (m : ℕ) :
    ∃ c cs, magnitudeText m = c :: cs ∧
      (m < Format.double.infinity ∧ c.isDigit = true ∨ Format.double.infinity ≤ m ∧ c = 'i') := by
  have hinfinity : 0 < Format.double.infinity := by decide
  unfold magnitudeText
  split
  · exact ⟨'0', _, rfl, .inl ⟨by omega, rfl⟩⟩
  split
  · next hlt =>
    obtain ⟨c, cs, hcons, hdigit⟩ := exists_layout_eq_cons (Format.double.shortest m)
      (Format.double.value m < tenPow (-4)) Format.double.mostWhole
    exact ⟨c, cs, hcons, .inl ⟨hlt, hdigit⟩⟩
  · exact ⟨'i', _, rfl, .inr ⟨by omega, rfl⟩⟩

lemma readLayout_magnitudeText {m : ℕ} (h : m < Format.double.infinity) :
    readLayout (magnitudeText m) = if m = 0 then 0 else (Format.double.shortest m).value := by
  unfold magnitudeText
  split
  · have hzero : readLayout (['0'] ++ List.replicate 0 '0' ++ ['.', '0']) = _ :=
      readLayout_before (.replicate 1) 0
    simpa [Nat.ofDigitChars] using hzero
  · exact readLayout_layout _ _ _

lemma shortest_value_pos {m : ℕ} (h : 0 < m) : 0 < (Format.double.shortest m).value := by
  have hlow := (Format.between_of_holds (Format.holds_shortest h)).1
  have hvalue : Format.double.value (m - 1) < Format.double.value m :=
    Format.double.value_strictMono (by omega)
  have hnonneg : 0 ≤ Format.double.value (m - 1) := by
    rw [Format.value_eq]
    exact mul_nonneg (Nat.cast_nonneg _) (Format.ulp_pos _ _).le
  simp only [Format.basin] at hlow
  linarith

lemma magnitudeText_inj {m n : ℕ} (hm : m ≤ Format.double.infinity)
    (hn : n ≤ Format.double.infinity) (h : magnitudeText m = magnitudeText n) : m = n := by
  obtain ⟨c, cs, hc, hcm⟩ := exists_magnitudeText_eq_cons m
  obtain ⟨d, ds, hd, hdn⟩ := exists_magnitudeText_eq_cons n
  obtain ⟨rfl, -⟩ : c = d ∧ cs = ds := by simpa [hc, hd] using h
  rcases hcm with ⟨hlt, hdigit⟩ | ⟨hge, rfl⟩
  · rcases hdn with ⟨hlt', -⟩ | ⟨-, rfl⟩
    · have hread := congrArg readLayout h
      rw [readLayout_magnitudeText hlt, readLayout_magnitudeText hlt'] at hread
      rcases Nat.eq_zero_or_pos m with rfl | hpos <;> rcases Nat.eq_zero_or_pos n with rfl | hpos'
      · rfl
      · rw [if_pos rfl, if_neg hpos'.ne'] at hread
        exact absurd hread (shortest_value_pos hpos').ne
      · rw [if_pos rfl, if_neg hpos.ne'] at hread
        exact absurd hread (shortest_value_pos hpos).ne'
      · rw [if_neg hpos.ne', if_neg hpos'.ne'] at hread
        exact Format.shortest_inj hpos hpos' hread
    · exact absurd hdigit (by decide)
  · rcases hdn with ⟨-, hdigit⟩ | ⟨hge', -⟩
    · exact absurd hdigit (by decide)
    · omega

/-- Two patterns with the same text are the same pattern, unless a number is missing. -/
lemma text_inj {p q : ℕ} (hp : p < 2 ^ 64) (hq : q < 2 ^ 64)
    (hp' : p % Format.double.signBit ≤ Format.double.infinity)
    (hq' : q % Format.double.signBit ≤ Format.double.infinity)
    (h : Format.double.text p = Format.double.text q) : p = q := by
  rw [text_of_not_missing hp', text_of_not_missing hq'] at h
  obtain ⟨c, cs, hc, hcp⟩ := exists_magnitudeText_eq_cons (p % Format.double.signBit)
  obtain ⟨d, ds, hd, hdq⟩ := exists_magnitudeText_eq_cons (q % Format.double.signBit)
  have hne : ∀ e : Char, e.isDigit = true ∨ e = 'i' → e ≠ '-' := by
    rintro e (he | rfl)
    · rintro rfl
      exact absurd he (by decide)
    · decide
  have hc' : c ≠ '-' := hne c (hcp.imp And.right And.right)
  have hd' : d ≠ '-' := hne d (hdq.imp And.right And.right)
  have hsign : Format.double.signBit = 2 ^ 63 := by decide
  -- the signs agree, since a text without a sign does not start with one
  by_cases hneg : Format.double.signBit ≤ p <;> by_cases hneg' : Format.double.signBit ≤ q
  · rw [if_pos hneg, if_pos hneg'] at h
    have hmagnitude := magnitudeText_inj hp' hq' (List.append_cancel_left h)
    rw [hsign] at hmagnitude hneg hneg'
    omega
  · rw [if_pos hneg, if_neg hneg', hd] at h
    exact absurd (List.cons.inj h).1.symm hd'
  · rw [if_neg hneg, if_pos hneg', hc] at h
    exact absurd (List.cons.inj h).1 hc'
  · rw [if_neg hneg, if_neg hneg'] at h
    have hmagnitude := magnitudeText_inj hp' hq' h
    rw [hsign] at hmagnitude hneg hneg'
    omega

/-- The text of a number that is not missing starts with no letter that stands for a missing one. -/
lemma text_ne_of_not_missing {p : ℕ} (h : p % Format.double.signBit ≤ Format.double.infinity) :
    Format.double.text p ≠ ['n', 'a', 'n'] := by
  rw [text_of_not_missing h]
  obtain ⟨c, cs, hc, hcp⟩ := exists_magnitudeText_eq_cons (p % Format.double.signBit)
  intro heq
  split at heq
  · exact absurd (List.cons.inj heq).1 (by decide)
  · rw [hc] at heq
    obtain rfl : c = 'n' := (List.cons.inj heq).1
    rcases hcp with ⟨-, hdigit⟩ | ⟨-, hletter⟩
    · exact absurd hdigit (by decide)
    · exact absurd hletter (by decide)

lemma float_ext {x y : Float} (h : x.toBits = y.toBits) : x = y := by
  obtain ⟨⟨bits, hvalid⟩⟩ := x
  obtain ⟨⟨bits', hvalid'⟩⟩ := y
  obtain rfl : bits = bits' := h
  rfl

/-- Two doubles with the same text are the same double. -/
theorem doubleText_inj {x y : Float} (h : doubleText x = doubleText y) : x = y := by
  have htext : Format.double.text x.toBits.toNat = Format.double.text y.toBits.toNat := by
    simpa [doubleText] using congrArg String.toList h
  by_cases hx : Format.double.infinity < x.toBits.toNat % Format.double.signBit <;>
    by_cases hy : Format.double.infinity < y.toBits.toNat % Format.double.signBit
  · have hbits := (toBits_of_missing hx).trans (toBits_of_missing hy).symm
    exact float_ext (UInt64.toBitVec_inj.1 hbits)
  · rw [text_of_missing hx] at htext
    exact absurd htext.symm (text_ne_of_not_missing (not_lt.1 hy))
  · rw [text_of_missing hy] at htext
    exact absurd htext (text_ne_of_not_missing (not_lt.1 hx))
  · refine float_ext (UInt64.toNat_inj.1 ?_)
    exact text_inj x.toBits.toNat_lt y.toBits.toNat_lt (not_lt.1 hx) (not_lt.1 hy) htext

end ShaderLoom.Number
