import ShaderLoom.Proofs.Key.Encodable
import ShaderLoom.Proofs.Entries

/-!
# Canonical values

Data is made of the absent value, truth values, numbers, texts, sequences, arrays and maps with text
keys. Its canonical form has lists in place of tuples and arrays, and plain numbers in place of
those of a fixed width. A value and its canonical form have the same key (`keyForm_canonical`).
-/

namespace ShaderLoom

/-- The width can hold the number. -/
def Scalar.isStored : Scalar → Bool
  | .integer w n => decide (w.bounds.1 ≤ n ∧ n ≤ w.bounds.2)
  | _ => true

instance (es : Entries) : Decidable es.TextsDistinct :=
  inferInstanceAs (Decidable (List.Nodup _))

namespace Value

mutual

/-- Whether the value is data: made of the absent value, truth values, numbers, texts, lists,
tuples, fixed-width numbers, arrays of these, and maps whose keys are different texts. -/
def isData : Value → Bool
  | .null => true
  | .bool _ => true
  | .int _ => true
  | .float _ => true
  | .text _ => true
  | .list xs => allData xs
  | .tuple xs => allData xs
  | .map _ es => decide (Entries.TextsDistinct es) && entriesData es
  | .scalar s => s.isStored
  | .array a => a.cells.all Scalar.isStored
  | _ => false

/-- Whether all values are data. -/
def allData : List Value → Bool
  | [] => true
  | x :: xs => isData x && allData xs

/-- Whether all values are data under keys that are texts. -/
def entriesData : List (Value × Value) → Bool
  | [] => true
  | (k, v) :: es => k.isText && isData v && entriesData es

end

mutual

/-- The value with lists in place of tuples and arrays, and with plain numbers in place of those of
a fixed width. -/
def canonical : Value → Value
  | .list xs => .list (canonicalAll xs)
  | .tuple xs => .list (canonicalAll xs)
  | .map _ es => .map .plain (canonicalEntries es)
  | .scalar s => s.item
  | .array a => a.toLists
  | v => v

/-- The canonical forms of values. -/
def canonicalAll : List Value → List Value
  | [] => []
  | x :: xs => canonical x :: canonicalAll xs

/-- The entries with the canonical forms of their values. -/
def canonicalEntries : List (Value × Value) → List (Value × Value)
  | [] => []
  | (k, v) :: es => (k, canonical v) :: canonicalEntries es

end

lemma entriesData_text {es : List (Value × Value)} (h : entriesData es = true) :
    ∀ e ∈ es, ∃ s, e.1 = .text s := by
  induction es with
  | nil => simp
  | cons e es ih =>
    obtain ⟨k, v⟩ := e
    rw [entriesData, Bool.and_eq_true, Bool.and_eq_true] at h
    obtain ⟨⟨hk, -⟩, hrest⟩ := h
    refine List.forall_mem_cons.2 ⟨?_, ih hrest⟩
    cases k with
    | text s => exact ⟨s, rfl⟩
    | _ => cases hk

lemma map_fst_canonicalEntries (es : List (Value × Value)) :
    (canonicalEntries es).map (·.1) = es.map (·.1) := by
  induction es with
  | nil => rfl
  | cons e es ih => simp [canonicalEntries, ih]

/-! ### Numbers of a fixed width -/

lemma isPrintableInt_of_isStored {w : IntWidth} {n : ℤ}
    (h : (Scalar.integer w n).isStored = true) : isPrintableInt n = true := by
  have hbounds : w.bounds.1 ≤ n ∧ n ≤ w.bounds.2 := by simpa [Scalar.isStored] using h
  have hsmall : n.natAbs < 2 ^ 64 := by
    cases w <;> simp only [IntWidth.bounds] at hbounds <;> omega
  have hlog : n.natAbs.log2 < 3 * maxPrintedDigits := by
    rcases Nat.eq_zero_or_pos n.natAbs with hzero | hpos
    · rw [hzero]
      decide
    · exact ((Nat.log2_lt hpos.ne').2 hsmall).trans (by decide)
  simp [isPrintableInt, hlog]

lemma keyForm_item {s : Scalar} (h : s.isStored = true) :
    s.item.keyForm = .ok (.word (scalarWord s)) := by
  cases s with
  | integer w n => simp [Scalar.item, keyForm, scalarWord, isPrintableInt_of_isStored h]
  | _ => rfl

/-! ### Arrays -/

lemma subset_of_mem_pieces {α : Type} {length count : ℕ} {xs piece : List α}
    (h : piece ∈ pieces length count xs) : piece ⊆ xs := by
  induction count generalizing xs with
  | zero => cases h
  | succ count ih =>
    rcases List.mem_cons.1 h with rfl | h
    · exact List.take_subset length xs
    · exact fun x hx => List.drop_subset length xs (ih h hx)

lemma keyFormAll_map {α : Type} {f : α → Value} {g : α → KeyForm} {xs : List α}
    (h : ∀ x ∈ xs, (f x).keyForm = .ok (g x)) : keyFormAll (xs.map f) = .ok (xs.map g) := by
  induction xs with
  | nil => rfl
  | cons x xs ih =>
    rw [List.forall_mem_cons] at h
    simp [keyFormAll, h.1, ih h.2, bind, Except.bind]

/-- Nested lists of numbers have the key of the array that they are made of. -/
lemma keyForm_nested {shape : List ℕ} {cells : List Scalar}
    (h : ∀ s ∈ cells, s.isStored = true) :
    (NumericArray.nested shape (cells.map Scalar.item)).keyForm =
      .ok (arrayKeyForm shape (cells.map fun s => .word (scalarWord s))) := by
  induction shape generalizing cells with
  | nil =>
    cases cells with
    | nil => rfl
    | cons s cells => exact keyForm_item (h s (by simp))
  | cons n shape ih =>
    cases shape with
    | nil =>
      rw [NumericArray.nested, keyForm, keyFormAll_map fun s hs => keyForm_item (h s hs)]
      rfl
    | cons m shape =>
      have hrows : ∀ row ∈ pieces (cellCount (m :: shape)) n cells,
          ((NumericArray.nested (m :: shape) ∘ List.map Scalar.item) row).keyForm =
            .ok ((arrayKeyForm (m :: shape) ∘ List.map fun s => .word (scalarWord s)) row) :=
        fun row hrow => ih fun s hs => h s (subset_of_mem_pieces hrow hs)
      rw [NumericArray.nested, arrayKeyForm, pieces_map, pieces_map, List.map_map, List.map_map,
        keyForm, keyFormAll_map hrows]
      · rfl
      · simp
      · simp

/-! ### The key of a canonical form -/

mutual

/-- A value and its canonical form have the same key. -/
theorem keyForm_canonical : ∀ {v : Value}, v.isData = true → v.canonical.keyForm = v.keyForm
  | .null, _ | .bool _, _ | .int _, _ | .float _, _ | .text _, _ => rfl
  | .list xs, h => by
    rw [canonical, keyForm, keyForm, keyFormAll_canonicalAll h]
  | .tuple xs, h => by
    rw [canonical, keyForm, keyForm, keyFormAll_canonicalAll h]
  | .map _ es, h => by
    have hes : entriesData es = true := (Bool.and_eq_true_iff.1 h).2
    simp only [canonical, keyForm, keyFormEntries_canonicalEntries hes]
  | .scalar s, h => keyForm_item h
  | .array a, h => by
    rw [canonical, NumericArray.toLists, keyForm]
    exact keyForm_nested (List.all_eq_true.1 h)

theorem keyFormAll_canonicalAll : ∀ {xs : List Value}, allData xs = true →
    keyFormAll (canonicalAll xs) = keyFormAll xs
  | [], _ => rfl
  | x :: xs, h => by
    rw [allData, Bool.and_eq_true] at h
    simp only [canonicalAll, keyFormAll, keyForm_canonical h.1, keyFormAll_canonicalAll h.2]

theorem keyFormEntries_canonicalEntries : ∀ {es : List (Value × Value)}, entriesData es = true →
    keyFormEntries (canonicalEntries es) = keyFormEntries es
  | [], _ => rfl
  | (k, v) :: es, h => by
    rw [entriesData, Bool.and_eq_true, Bool.and_eq_true] at h
    simp only [canonicalEntries, keyFormEntries, keyForm_canonical h.1.2,
      keyFormEntries_canonicalEntries h.2]

end

end Value

end ShaderLoom
