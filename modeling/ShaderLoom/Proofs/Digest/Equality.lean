import Mathlib.Data.List.Forall2
import ShaderLoom.Proofs.Agreement
import ShaderLoom.Proofs.Outcome
import ShaderLoom.Value.Comparison

/-!
# What equal values have in common

Equality of values is asked part by part. Where neither side is a fixed-width number or an array,
values that are compared as a whole are equal only if they are the same key of a map
(`sameKey_of_relateWhole`); sequences and maps are equal only if their members are.
-/

namespace ShaderLoom

open Number

namespace Value

/-- The answer to an operation counts as true. -/
def Affirms (answer : Answer Value) : Prop := (answer >>= truth) = .ok true

lemma affirms_bool {b : Bool} : Affirms (.ok (.bool b)) ↔ b = true := by
  cases b <;> simp [Affirms, truth, bind, Except.bind]

lemma not_affirms_error {f : Fault} : ¬Affirms (.error f) := by
  simp [Affirms, bind, Except.bind]

lemma affirms_settledEquality {b : Bool} : Affirms (settledEquality .eq b) ↔ b = true := by
  cases b <;> simp [settledEquality, Relation.isEquality, affirms_bool]

lemma equal_eq_true_iff {v w : Value} : v.equal w = .ok true ↔ Affirms (v.relate .eq w) := Iff.rfl

/-- The value is compared as a whole, without looking at members. -/
def isWhole : Value → Bool
  | .list _ | .tuple _ | .contribution _ | .map _ _ | .array _ | .view _ _ | .singular _ _ => false
  | _ => true

lemma relate_of_isWhole {v : Value} (h : v.isWhole = true) (r : Relation) (w : Value) :
    v.relate r w = relateWhole r v w.bare := by
  cases v <;> simp [isWhole] at h <;> simp only [relate]

lemma bare_of_isWhole {v : Value} (h : v.isWhole = true) : v.bare = v := by
  cases v <;> simp [isWhole] at h <;> rfl

/-- The value carries no mark. -/
def IsUnmarked (v : Value) : Prop := ∀ m w, v ≠ .singular m w

lemma complexQuantity?_of_quantity? {v : Value} {p : Quantity} (hv : v.IsUnmarked)
    (h : v.quantity? = some p) : v.complexQuantity? = some (p, .ofInt 0) := by
  cases v with
  | singular m w => exact absurd rfl (hv m w)
  | bool | int | float | scalar => simpa [quantity?, complexQuantity?] using h
  | _ => simp [quantity?] at h

/-- An undefined value is equal to nothing but another one. -/
lemma sameKey_of_relateUndefined {v w : Value} (h : Affirms (relateUndefined .eq v w)) :
    v.sameKey w = true := by
  simp only [relateUndefined, Relation.isEquality, if_true] at h
  split at h
  · rfl
  · split at h
    · simp [affirms_settledEquality] at h
    · exact absurd h not_affirms_error
  · split at h
    · simp [affirms_settledEquality] at h
    · exact absurd h not_affirms_error
  · exact absurd h not_affirms_error

/-- Values without cells that are equal as a whole are the same key of a map. -/
theorem sameKey_of_relateWhole {v w : Value} (hv : v.IsUnmarked) (hw : w.IsUnmarked)
    (hcells : (v.hasCells || w.hasCells) = false) (h : Affirms (relateWhole .eq v w)) :
    v.sameKey w = true := by
  have hsame : v.sameQuantity w = true → v.sameKey w = true := by
    intro hquantity
    rwa [sameKey_of_isQuantity_right (isQuantity_of_sameQuantity hquantity)]
  unfold relateWhole at h
  split at h
  · exact sameKey_of_relateUndefined h
  · split at h
    · simp [hasCells] at hcells
    · rw [if_neg (by simp [hcells])] at h
      split at h
      · simpa [sameKey] using affirms_bool.1 h
      · simpa [sameKey] using affirms_settledEquality.1 h
      · rfl
      · simpa [sameKey] using affirms_settledEquality.1 h
      · simpa [sameKey] using affirms_settledEquality.1 h
      · simpa [sameKey] using affirms_settledEquality.1 h
      · split at h
        · next p q hp hq =>
          have hequal : p.equal q = true := affirms_bool.1 h
          refine hsame ?_
          simp only [sameQuantity, complexQuantity?_of_quantity? hv hp,
            complexQuantity?_of_quantity? hw hq, hequal, Bool.true_and]
          decide
        · exact hsame (affirms_settledEquality.1 h)

/-! ### Sequences -/

lemma affirms_bind {x : Answer Bool} {f : Bool → Answer Value} :
    Affirms (x >>= f) ↔ ∃ b, x = .ok b ∧ Affirms (f b) := by
  cases x with
  | error e => exact iff_of_false not_affirms_error (by simp)
  | ok b => simp [bind, Except.bind]

lemma holdsNat_eq (m n : ℕ) : Relation.eq.holdsNat m n = decide (m = n) := by
  have hcast : ((m : ℤ) : Rat) = ((n : ℤ) : Rat) ↔ m = n := by
    rw [Rat.intCast_inj, Int.natCast_inj]
  simp [Relation.holdsNat, Relation.holds, Quantity.equal, Quantity.ofInt, hcast]

lemma relateAll_cons (x y : Value) (xs ys : List Value) :
    relateAll (x :: xs) .eq (y :: ys) =
      (x.agrees y >>= fun b => if b then relateAll xs .eq ys else .ok (.bool false)) := by
  rw [relateAll, agrees, equal]
  split
  · rfl
  · cases x.relate .eq y with
    | error f => rfl
    | ok t => rfl

/-- Sequences are equal only if their members are the same or equal, one by one. -/
theorem agrees_of_relateAll {xs ys : List Value} (h : Affirms (relateAll xs .eq ys)) :
    List.Forall₂ (fun x y => x.agrees y = .ok true) xs ys := by
  induction xs generalizing ys with
  | nil =>
    rw [relateAll, affirms_bool, holdsNat_eq, decide_eq_true_iff] at h
    obtain rfl := List.length_eq_zero_iff.1 h.symm
    exact .nil
  | cons x xs ih =>
    cases ys with
    | nil =>
      rw [relateAll, affirms_bool, holdsNat_eq, decide_eq_true_iff] at h
      exact absurd h (by omega)
    | cons y ys =>
      rw [relateAll_cons, affirms_bind] at h
      obtain ⟨b, hb, h⟩ := h
      cases b with
      | true => exact .cons hb (ih h)
      | false => exact absurd (affirms_bool.1 h) (by simp)

/-- Contributions are equal only if all slots are. -/
theorem equal_of_allEqual {xs ys : List Value} (h : allEqual xs ys = .ok true) :
    List.Forall₂ (fun x y => x.equal y = .ok true) xs ys := by
  induction xs generalizing ys with
  | nil =>
    cases ys with
    | nil => exact .nil
    | cons y ys => exact absurd h (by simp [allEqual])
  | cons x xs ih =>
    cases ys with
    | nil => exact absurd h (by simp [allEqual])
    | cons y ys =>
      rw [allEqual] at h
      obtain ⟨t, ht, h⟩ := bind_eq_ok.1 h
      obtain ⟨b, hb, h⟩ := bind_eq_ok.1 h
      cases b with
      | true => exact .cons (bind_eq_ok.2 ⟨t, ht, hb⟩) (ih h)
      | false => exact absurd h (by simp)

/-! ### Maps -/

lemma entriesWithin_cons (k v : Value) (rest ys : Entries) :
    entriesWithin ((k, v) :: rest) ys =
      match ys.find? fun e => k.sameKey e.1 with
      | some e => v.agrees e.2 >>= fun b => if b then entriesWithin rest ys else .ok false
      | none => .ok false := by
  rw [entriesWithin]
  cases ys.find? fun e => k.sameKey e.1 with
  | none => rfl
  | some e =>
    dsimp only
    rw [agrees, equal]
    split
    · rfl
    · cases v.relate .eq e.2 with
      | error f => rfl
      | ok t => rfl

/-- A map is equal to another one only if its values are the same or equal to those under the same
keys. -/
theorem agrees_of_entriesWithin {xs ys : Entries} (h : entriesWithin xs ys = .ok true) :
    ∀ x ∈ xs, ∃ y ∈ ys, x.1.sameKey y.1 = true ∧ x.2.agrees y.2 = .ok true := by
  induction xs with
  | nil => simp
  | cons x xs ih =>
    obtain ⟨k, v⟩ := x
    rw [entriesWithin_cons] at h
    split at h
    · next e he =>
      obtain ⟨b, hb, h⟩ := bind_eq_ok.1 h
      cases b with
      | true =>
        refine List.forall_mem_cons.2 ⟨⟨e, List.mem_of_find?_eq_some he, ?_, hb⟩, ih h⟩
        simpa using List.find?_some he
      | false => exact absurd h (by simp)
    · exact absurd h (by simp)

/-! ### Equality of each kind of value -/

lemma agrees_of_equal_tuple {xs ys : List Value}
    (h : (Value.tuple xs).equal (.tuple ys) = .ok true) :
    List.Forall₂ (fun x y => x.agrees y = .ok true) xs ys := by
  rw [equal_eq_true_iff, relate] at h
  exact agrees_of_relateAll h

lemma equal_of_equal_contribution {xs ys : List Value}
    (h : (Value.contribution xs).equal (.contribution ys) = .ok true) :
    List.Forall₂ (fun x y => x.equal y = .ok true) xs ys := by
  rw [equal_eq_true_iff, relate, if_pos (by rfl), affirms_bind] at h
  obtain ⟨b, hb, h⟩ := h
  obtain rfl := affirms_settledEquality.1 h
  exact equal_of_allEqual hb

lemma agrees_of_equal_map {kind kind' : MapKind} {xs ys : Entries}
    (h : (Value.map kind xs).equal (.map kind' ys) = .ok true) : xs.length = ys.length ∧
      ∀ x ∈ xs, ∃ y ∈ ys, x.1.sameKey y.1 = true ∧ x.2.agrees y.2 = .ok true := by
  rw [equal_eq_true_iff, relate, if_neg (by simp [Relation.isEquality])] at h
  split at h
  · exact absurd (affirms_settledEquality.1 h) (by simp)
  · next hlength =>
    obtain ⟨b, hb, h⟩ := affirms_bind.1 h
    obtain rfl := affirms_settledEquality.1 h
    exact ⟨not_not.1 hlength, agrees_of_entriesWithin hb⟩

end Value

end ShaderLoom
