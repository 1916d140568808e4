import ShaderLoom.Proofs.Number.Layout
import ShaderLoom.Value.KeyText

/-!
# Words of keys

Numbers, truth values, the absent value and identities stand in a key as words, which contain none
of the characters that set the parts of a key apart. A word tells what it stands for: an integer has
digits only, a double has a point, a power or a capital letter, and the other words start with
small letters.
-/

namespace ShaderLoom

open Number Text

/-- Whether a character sets the parts of a key apart. -/
def isKeyMark (c : Char) : Bool := ['"', '[', ']', '\x7b', '\x7d', ',', ':', ' '].contains c

/-- No character of the text is a mark. -/
def Clear (cs : List Char) : Prop := ∀ c ∈ cs, isKeyMark c = false

instance (cs : List Char) : Decidable (Clear cs) :=
  List.decidableBAll (fun c => isKeyMark c = false) cs

/-- A text without marks: a number, or the name of something. -/
structure KeyWord where
  chars : List Char
  ne_nil : chars ≠ []
  clear : Clear chars

lemma KeyWord.ext {v w : KeyWord} (h : v.chars = w.chars) : v = w := by
  cases v
  cases w
  simpa using h

namespace Clear

variable {cs ds : List Char}

lemma append (hc : Clear cs) (hd : Clear ds) : Clear (cs ++ ds) := by
  intro c h
  rcases List.mem_append.1 h with h | h
  · exact hc c h
  · exact hd c h

lemma of_subset (hc : Clear cs) (h : ds ⊆ cs) : Clear ds := fun c hmem => hc c (h hmem)

lemma cons {c : Char} (h : isKeyMark c = false) (hc : Clear cs) : Clear (c :: cs) := by
  intro d hd
  rcases List.mem_cons.1 hd with rfl | hd
  · exact h
  · exact hc d hd

lemma replicate (n : ℕ) : Clear (List.replicate n '0') := by
  intro c hc
  obtain rfl := List.eq_of_mem_replicate hc
  rfl

end Clear

lemma clear_digitChars (n : ℕ) : Clear (digitChars n) := by
  intro c hc
  have hdigit : c.isDigit = true := Nat.isDigit_of_mem_toDigits (by decide) (by decide) hc
  unfold isKeyMark
  rw [Bool.eq_false_iff]
  intro hmark
  have hmem := List.contains_iff_mem.1 hmark
  simp only [List.mem_cons, List.not_mem_nil, or_false] at hmem
  rcases hmem with rfl | rfl | rfl | rfl | rfl | rfl | rfl | rfl <;>
    exact absurd hdigit (by decide)

lemma clear_layout (d : Decimal) (isTiny : Bool) (most : ℤ) : Clear (d.layout isTiny most) := by
  have hdigits := clear_digitChars d.digits
  unfold Decimal.layout
  simp only
  split
  · split
    · exact ((Clear.cons rfl (Clear.cons rfl fun _ h => by cases h)).append (.replicate _)).append
        hdigits
    · refine ((hdigits.of_subset (List.take_subset _ _)).append (.replicate _)).append ?_
      refine .cons rfl ?_
      split
      · exact .cons rfl fun _ h => by cases h
      · exact hdigits.of_subset (List.drop_subset _ _)
  · refine Clear.append (Clear.append (Clear.append (Clear.append ?_ ?_) ?_) (.replicate _))
      (clear_digitChars _)
    · exact hdigits.of_subset (List.take_subset _ _)
    · split
      · exact fun _ h => by cases h
      · exact .cons rfl (hdigits.of_subset (List.drop_subset _ _))
    · split
      · exact .cons rfl (.cons rfl fun _ h => by cases h)
      · exact .cons rfl (.cons rfl fun _ h => by cases h)

lemma layout_ne_nil (d : Decimal) (isTiny : Bool) (most : ℤ) : d.layout isTiny most ≠ [] := by
  unfold Decimal.layout
  simp only
  split
  · split <;> simp
  · simp

lemma clear_doubleText (x : Float) : Clear (doubleText x).toList ∧ (doubleText x).toList ≠ [] := by
  unfold doubleText Format.text
  simp only [String.toList_ofList]
  have hmark : Clear (if Format.double.signBit ≤ x.toBits.toNat then ['-'] else []) := by
    split
    · exact .cons rfl fun _ h => by cases h
    · exact fun _ h => by cases h
  split
  · exact ⟨hmark.append (by decide), by simp⟩
  split
  · exact ⟨hmark.append (clear_layout _ _ _), by simp [layout_ne_nil]⟩
  split
  · exact ⟨hmark.append (by decide), by simp⟩
  · exact ⟨by decide, by decide⟩

/-- The word of an integer. -/
def intWord (n : ℤ) : KeyWord where
  chars := (intText n).toList
  ne_nil := by
    unfold intText digitChars
    split <;> simp [Nat.toDigits_ne_nil]
  clear := by
    unfold intText
    rw [String.toList_ofList]
    split
    · exact Clear.cons rfl (clear_digitChars _)
    · exact clear_digitChars _

/-- The word of a double. -/
def doubleWord (x : Float) : KeyWord where
  chars := (keyDouble x).toList
  ne_nil := by
    unfold keyDouble
    split
    · exact (clear_doubleText x).2
    · split <;> decide
    · decide
  clear := by
    unfold keyDouble
    split
    · exact (clear_doubleText x).1
    · split <;> decide
    · decide

/-- The word of a truth value. -/
def truthWord (b : Bool) : KeyWord where
  chars := (if b then "true" else "false").toList
  ne_nil := by cases b <;> decide
  clear := by cases b <;> decide

/-- The word of the absent value. -/
def nullWord : KeyWord where
  chars := "null".toList
  ne_nil := by decide
  clear := by decide

/-- The word of a fixed-width number. -/
def scalarWord : Scalar → KeyWord
  | .single x => doubleWord x.toFloat
  | .double x => doubleWord x
  | .integer _ n => intWord n
  | .truth b => truthWord b

/-- The word of something with an identity. -/
def identityWord (kind : String) (id : ℕ) (h : kind.toList ≠ [] ∧ Clear kind.toList) : KeyWord where
  chars := kind.toList ++ (intText id).toList
  ne_nil := by simp [h.1]
  clear := h.2.append (intWord id).clear

/-! ### What a word stands for -/

/-- What a double is written as, by its pattern without sign. -/
lemma keyDouble_cases (x : Float) :
    (x.toBits.toNat % Format.double.signBit < Format.double.infinity ∧
        keyDouble x = doubleText x) ∨
      (x.toBits.toNat % Format.double.signBit = Format.double.infinity ∧
        keyDouble x = if Format.double.signBit ≤ x.toBits.toNat then "-Infinity" else "Infinity") ∨
      (Format.double.infinity < x.toBits.toNat % Format.double.signBit ∧ keyDouble x = "NaN") := by
  unfold keyDouble Quantity.ofDouble Quantity.ofPattern
  simp only
  by_cases hlt : x.toBits.toNat % Format.double.signBit < Format.double.infinity
  · rw [if_pos hlt]
    exact .inl ⟨hlt, rfl⟩
  · rw [if_neg hlt]
    by_cases heq : x.toBits.toNat % Format.double.signBit = Format.double.infinity
    · rw [if_pos heq]
      refine .inr (.inl ⟨heq, ?_⟩)
      by_cases hneg : Format.double.signBit ≤ x.toBits.toNat <;> simp [hneg]
    · rw [if_neg heq]
      exact .inr (.inr ⟨by omega, rfl⟩)

/-- The text of a finite double. -/
lemma toList_doubleText {x : Float}
    (h : x.toBits.toNat % Format.double.signBit < Format.double.infinity) :
    (doubleText x).toList = (if Format.double.signBit ≤ x.toBits.toNat then ['-'] else []) ++
      magnitudeText (x.toBits.toNat % Format.double.signBit) := by
  rw [doubleText, String.toList_ofList, text_of_not_missing h.le]

/-- The text of a finite double has a digit at the front, behind the sign if there is one. -/
lemma doubleText_ne {x : Float} {c d : Char} {cs : List Char}
    (h : x.toBits.toNat % Format.double.signBit < Format.double.infinity)
    (hc : c.isDigit = false) (hd : c = '-' → d.isDigit = false) :
    (doubleText x).toList ≠ c :: d :: cs := by
  obtain ⟨e, es, he, hkind⟩ :=
    exists_magnitudeText_eq_cons (x.toBits.toNat % Format.double.signBit)
  have hdigit : e.isDigit = true := by
    rcases hkind with ⟨-, hdigit⟩ | ⟨hge, -⟩
    · exact hdigit
    · omega
  rw [toList_doubleText h, he]
  intro heq
  split at heq
  · have hsign : '-' = c := (List.cons.inj heq).1
    have hnext : e = d := (List.cons.inj (List.cons.inj heq).2).1
    rw [hnext, hd hsign.symm] at hdigit
    exact absurd hdigit (by decide)
  · have hfirst : e = c := (List.cons.inj heq).1
    rw [hfirst, hc] at hdigit
    exact absurd hdigit (by decide)

/-- Doubles that are written alike are the same. -/
theorem keyDouble_inj {x y : Float} (h : keyDouble x = keyDouble y) : x = y := by
  -- what stands for an infinity or for a missing number is not the text of a finite double
  have hne : ∀ z : Float, z.toBits.toNat % Format.double.signBit < Format.double.infinity →
      ∀ s ∈ ["-Infinity", "Infinity", "NaN"], doubleText z ≠ s := by
    intro z hz s hs heq
    have hchars := congrArg String.toList heq
    simp only [List.mem_cons, List.not_mem_nil, or_false] at hs
    rcases hs with rfl | rfl | rfl
    · exact doubleText_ne hz (by decide) (by decide) hchars
    · exact doubleText_ne hz (by decide) (by decide) hchars
    · exact doubleText_ne hz (by decide) (by decide) hchars
  have hinf : ∀ z : Float, (if Format.double.signBit ≤ z.toBits.toNat then "-Infinity"
      else "Infinity") ∈ ["-Infinity", "Infinity", "NaN"] := by
    intro z
    split <;> simp
  rcases keyDouble_cases x with ⟨hx, hkx⟩ | ⟨hx, hkx⟩ | ⟨hx, hkx⟩ <;>
    rcases keyDouble_cases y with ⟨hy, hky⟩ | ⟨hy, hky⟩ | ⟨hy, hky⟩ <;> rw [hkx, hky] at h
  · exact doubleText_inj h
  · exact absurd h (hne x hx _ (hinf y))
  · exact absurd h (hne x hx _ (by simp))
  · exact absurd h.symm (hne y hy _ (hinf x))
  · have hsign : Format.double.signBit = 2 ^ 63 := by decide
    have hx' := x.toBits.toNat_lt
    have hy' := y.toBits.toNat_lt
    refine float_ext (UInt64.toNat_inj.1 ?_)
    rw [hsign] at h hx hy
    split at h <;> split at h
    · omega
    · exact absurd h (by decide)
    · exact absurd h (by decide)
    · omega
  · exfalso
    split at h <;> exact absurd h (by decide)
  · exact absurd h.symm (hne y hy _ (by simp))
  · exfalso
    split at h <;> exact absurd h (by decide)
  · have hbits := (toBits_of_missing hx).trans (toBits_of_missing hy).symm
    exact float_ext (UInt64.toBitVec_inj.1 hbits)

lemma intText_inj {m n : ℤ} (h : intText m = intText n) : m = n := by
  have hhead : ∀ (k : ℕ) (cs : List Char), '-' :: cs ≠ digitChars k := by
    intro k cs heq
    have hdigit := isDigits_digitChars k '-' (by rw [← heq]; simp)
    exact absurd hdigit (by decide)
  have hread : ∀ {j k : ℕ}, digitChars j = digitChars k → j = k := by
    intro j k heq
    rw [← ofDigitChars_digitChars j, heq, ofDigitChars_digitChars]
  have hchars := congrArg String.toList h
  simp only [intText, String.toList_ofList] at hchars
  split at hchars <;> split at hchars
  · have hnat := hread (List.cons.inj hchars).2
    omega
  · exact absurd hchars (hhead _ _)
  · exact absurd hchars.symm (hhead _ _)
  · have hnat := hread hchars
    omega

/-- What a word stands for, as far as its characters tell: the absent value, a truth value, an
integer or a double. -/
def wordKind (cs : List Char) : ℕ :=
  if cs.head? = some 'n' then 0
  else if cs.head? = some 't' then 1
  else if cs.head? = some 'f' then 2
  else if cs.all (fun c => c.isDigit || c = '-') then 3
  else 4

lemma wordKind_null : wordKind nullWord.chars = 0 := by decide

lemma wordKind_truth (b : Bool) : wordKind (truthWord b).chars = if b then 1 else 2 := by
  cases b <;> decide

/-- A text that starts with something else than a small letter. -/
lemma wordKind_of_head {c : Char} {cs : List Char} (hc : c ≠ 'n' ∧ c ≠ 't' ∧ c ≠ 'f') :
    wordKind (c :: cs) = if (c :: cs).all (fun c => c.isDigit || c = '-') then 3 else 4 := by
  obtain ⟨hn, ht, hf⟩ := hc
  simp [wordKind, hn, ht, hf]

lemma ne_of_isDigit {c : Char} (h : c.isDigit = true) : c ≠ 'n' ∧ c ≠ 't' ∧ c ≠ 'f' := by
  refine ⟨?_, ?_, ?_⟩ <;> rintro rfl <;> exact absurd h (by decide)

lemma wordKind_int (n : ℤ) : wordKind (intWord n).chars = 3 := by
  have hdigits := isDigits_digitChars n.natAbs
  have hne : digitChars n.natAbs ≠ [] := Nat.toDigits_ne_nil
  simp only [intWord, intText, String.toList_ofList]
  split
  · rw [wordKind_of_head (by decide), if_pos]
    simp only [List.all_cons, Bool.and_eq_true, List.all_eq_true]
    exact ⟨by decide, fun c hc => by simp [hdigits c hc]⟩
  · obtain ⟨c, cs, hcons⟩ := List.exists_cons_of_ne_nil hne
    rw [hcons] at hdigits ⊢
    rw [wordKind_of_head (ne_of_isDigit (hdigits c (by simp))), if_pos]
    rw [List.all_eq_true]
    exact fun d hd => by simp [hdigits d hd]

lemma exists_point_layout (d : Decimal) (isTiny : Bool) (most : ℤ) :
    ∃ c ∈ d.layout isTiny most, c = '.' ∨ c = 'e' := by
  unfold Decimal.layout
  simp only
  split
  · split
    · exact ⟨'.', by simp, .inl rfl⟩
    · exact ⟨'.', by simp, .inl rfl⟩
  · exact ⟨'e', by simp, .inr rfl⟩

lemma wordKind_double (x : Float) : wordKind (doubleWord x).chars = 4 := by
  simp only [doubleWord]
  rcases keyDouble_cases x with ⟨hx, hkx⟩ | ⟨hx, hkx⟩ | ⟨hx, hkx⟩
  · have hpoint : ∃ c ∈ magnitudeText (x.toBits.toNat % Format.double.signBit),
        c = '.' ∨ c = 'e' := by
      unfold magnitudeText
      split
      · exact ⟨'.', by simp, .inl rfl⟩
      · exact exists_point_layout _ _ _
    obtain ⟨p, hp, hpoint⟩ := hpoint
    obtain ⟨e, es, he, hkind⟩ :=
      exists_magnitudeText_eq_cons (x.toBits.toNat % Format.double.signBit)
    have hdigit : e.isDigit = true := by
      rcases hkind with ⟨-, hdigit⟩ | ⟨hge, -⟩
      · exact hdigit
      · omega
    have hall : ∀ cs : List Char, p ∈ cs → cs.all (fun c => c.isDigit || c = '-') = false := by
      intro cs hmem
      rw [List.all_eq_false]
      refine ⟨p, hmem, ?_⟩
      rcases hpoint with rfl | rfl <;> decide
    rw [hkx, toList_doubleText hx, he]
    rw [he] at hp
    split
    · rw [List.singleton_append, wordKind_of_head (by decide), hall _ (by simp [hp])]
      rfl
    · rw [List.nil_append, wordKind_of_head (ne_of_isDigit hdigit), hall _ hp]
      rfl
  · rw [hkx]
    split <;> decide
  · rw [hkx]
    decide

end ShaderLoom
