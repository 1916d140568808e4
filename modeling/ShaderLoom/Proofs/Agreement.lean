import Mathlib.Data.Int.Notation
import Mathlib.Data.List.Pairwise
import Mathlib.Data.List.Perm.Subperm
import Mathlib.Tactic.Choose
import ShaderLoom.Value.Agreement

/-!
# Being the same key

To be the same key is symmetric and transitive among values in whose maps no key stands twice
(`Value.agreesOn_isProper`); it is not reflexive, because a missing quantity is the same key as
nothing. Maps are compared entry by entry from the left: that this is symmetric is a matter of
counting, and needs the laws for the keys, so the induction is on the size of values. Without maps
the laws hold for all values.
-/

namespace ShaderLoom

open Number

namespace Number.Quantity

lemma equal_trans {a b c : Quantity} (hab : a.equal b = true) (hbc : b.equal c = true) :
    a.equal c = true := by
  cases a <;> cases b <;> cases c <;> simp_all [equal]

end Number.Quantity

lemma sameRange_comm (a b c a' b' c' : ℤ) :
    sameRange a b c a' b' c' = sameRange a' b' c' a b c := by
  unfold sameRange
  grind

lemma sameRange_trans {a b c a' b' c' a'' b'' c'' : ℤ} (h : sameRange a b c a' b' c' = true)
    (h' : sameRange a' b' c' a'' b'' c'' = true) : sameRange a b c a'' b'' c'' = true := by
  unfold sameRange at *
  grind

namespace Value

/-! ### Numbers -/

lemma sameQuantity_comm (v w : Value) : v.sameQuantity w = w.sameQuantity v := by
  unfold sameQuantity
  cases v.complexQuantity? <;> cases w.complexQuantity? <;> simp [Quantity.equal_comm]

lemma sameQuantity_trans {u v w : Value} (huv : u.sameQuantity v = true)
    (hvw : v.sameQuantity w = true) : u.sameQuantity w = true := by
  unfold sameQuantity at *
  cases hu : u.complexQuantity? <;> cases hv : v.complexQuantity? <;>
    cases hw : w.complexQuantity? <;> simp_all
  exact ⟨Quantity.equal_trans huv.1 hvw.1, Quantity.equal_trans huv.2 hvw.2⟩

/-- Whether the value is a number of any representation. -/
def isQuantity (v : Value) : Bool := v.complexQuantity?.isSome

lemma sameKey_of_isQuantity {v : Value} (h : v.isQuantity = true) (w : Value) :
    v.sameKey w = v.sameQuantity w := by
  cases v <;> simp [isQuantity, complexQuantity?] at h <;> simp [sameKey]

lemma sameKey_of_isQuantity_right {w : Value} (h : w.isQuantity = true) (v : Value) :
    v.sameKey w = v.sameQuantity w := by
  cases w <;> simp [isQuantity, complexQuantity?] at h <;>
    cases v <;> simp [sameKey, sameQuantity, complexQuantity?]

lemma isQuantity_of_sameQuantity {v w : Value} (h : v.sameQuantity w = true) :
    w.isQuantity = true := by
  unfold sameQuantity at h
  unfold isQuantity
  cases hv : v.complexQuantity? <;> cases hw : w.complexQuantity? <;> simp_all

/-! ### Maps with each key once -/

/-- Among the values with a property, being the same key is symmetric and transitive. -/
structure AgreesOn (P : Value → Prop) : Prop where
  symm : ∀ {u v}, P u → P v → u.sameKey v = true → v.sameKey u = true
  trans : ∀ {u v w}, P u → P v → P w → u.sameKey v = true → v.sameKey w = true →
    u.sameKey w = true

mutual

/-- Every map that is part of the value has each key once. -/
def IsProper : Value → Prop
  | .list xs => AllProper xs
  | .tuple xs => AllProper xs
  | .contribution xs => AllProper xs
  | .map _ es => EntriesProper es
  | _ => True

/-- Every map that is part of one of the values has each key once. -/
def AllProper : List Value → Prop
  | [] => True
  | x :: xs => IsProper x ∧ AllProper xs

/-- No key stands twice, and the same holds for every map that is part of an entry. -/
def EntriesProper : List (Value × Value) → Prop
  | [] => True
  | (k, v) :: es =>
    IsProper k ∧ IsProper v ∧ (∀ e ∈ es, k.sameKey e.1 = false) ∧ EntriesProper es

end

lemma allProper_iff {xs : List Value} : AllProper xs ↔ ∀ x ∈ xs, x.IsProper := by
  induction xs with
  | nil => simp [AllProper]
  | cons x xs ih => rw [AllProper, ih, List.forall_mem_cons]

lemma entriesProper_iff {es : List (Value × Value)} :
    EntriesProper es ↔ (∀ e ∈ es, e.1.IsProper ∧ e.2.IsProper) ∧
      es.Pairwise fun a b => a.1.sameKey b.1 = false := by
  induction es with
  | nil => simp [EntriesProper]
  | cons e es ih =>
    obtain ⟨k, v⟩ := e
    rw [EntriesProper, ih, List.forall_mem_cons, List.pairwise_cons]
    constructor
    · rintro ⟨hk, hv, hnew, hes, hdistinct⟩
      exact ⟨⟨⟨hk, hv⟩, hes⟩, hnew, hdistinct⟩
    · rintro ⟨⟨⟨hk, hv⟩, hes⟩, hnew, hdistinct⟩
      exact ⟨hk, hv, hnew, hes, hdistinct⟩

lemma sameEntries_iff {xs ys : List (Value × Value)} :
    sameEntries xs ys = true ↔
      ∀ x ∈ xs, ∃ y, ys.find? (fun e => x.1.sameKey e.1) = some y ∧ x.2.sameKey y.2 = true := by
  induction xs with
  | nil => simp [sameEntries]
  | cons x xs ih =>
    obtain ⟨k, v⟩ := x
    rw [sameEntries, Bool.and_eq_true, ih, List.forall_mem_cons]
    refine and_congr_left fun _ => ?_
    cases ys.find? fun e => k.sameKey e.1 <;> simp

namespace AgreesOn

variable {P : Value → Prop}

lemma mono {Q : Value → Prop} (h : AgreesOn P) (hQ : ∀ v, Q v → P v) : AgreesOn Q where
  symm hu hv := h.symm (hQ _ hu) (hQ _ hv)
  trans hu hv hw := h.trans (hQ _ hu) (hQ _ hv) (hQ _ hw)

lemma sameKeys_symm (h : AgreesOn P) {xs ys : List Value} (hxs : ∀ x ∈ xs, P x)
    (hys : ∀ y ∈ ys, P y) (hxy : sameKeys xs ys = true) : sameKeys ys xs = true := by
  induction xs generalizing ys with
  | nil =>
    cases ys with
    | nil => rfl
    | cons y ys => simp [sameKeys] at hxy
  | cons x xs ih =>
    cases ys with
    | nil => simp [sameKeys] at hxy
    | cons y ys =>
      rw [List.forall_mem_cons] at hxs hys
      rw [sameKeys, Bool.and_eq_true] at hxy ⊢
      exact ⟨h.symm hxs.1 hys.1 hxy.1, ih hxs.2 hys.2 hxy.2⟩

lemma sameKeys_trans (h : AgreesOn P) {xs ys zs : List Value} (hxs : ∀ x ∈ xs, P x)
    (hys : ∀ y ∈ ys, P y) (hzs : ∀ z ∈ zs, P z) (hxy : sameKeys xs ys = true)
    (hyz : sameKeys ys zs = true) : sameKeys xs zs = true := by
  induction xs generalizing ys zs with
  | nil =>
    cases ys with
    | nil => exact hyz
    | cons y ys => simp [sameKeys] at hxy
  | cons x xs ih =>
    cases ys with
    | nil => simp [sameKeys] at hxy
    | cons y ys =>
      cases zs with
      | nil => simp [sameKeys] at hyz
      | cons z zs =>
        rw [List.forall_mem_cons] at hxs hys hzs
        rw [sameKeys, Bool.and_eq_true] at hxy hyz ⊢
        exact ⟨h.trans hxs.1 hys.1 hzs.1 hxy.1 hyz.1, ih hxs.2 hys.2 hzs.2 hxy.2 hyz.2⟩

/-- The keys and values of entries have the property, and no key stands twice. -/
structure Entries (P : Value → Prop) (es : List (Value × Value)) : Prop where
  parts : ∀ e ∈ es, P e.1 ∧ P e.2
  distinct : es.Pairwise fun a b => a.1.sameKey b.1 = false

lemma Entries.eq_of_sameKey (h : AgreesOn P) {es : List (Value × Value)} (hes : Entries P es)
    {a b : Value × Value} (ha : a ∈ es) (hb : b ∈ es) (hab : a.1.sameKey b.1 = true) : a = b := by
  by_contra hne
  have hdistinct : es.Pairwise fun a b => a.1.sameKey b.1 = false ∧ b.1.sameKey a.1 = false := by
    refine hes.distinct.imp_of_mem fun {a b} ha hb hfalse => ⟨hfalse, ?_⟩
    rw [Bool.eq_false_iff] at hfalse ⊢
    exact mt (h.symm (hes.parts b hb).1 (hes.parts a ha).1) hfalse
  have hsymm : Std.Symm fun a b : Value × Value =>
      a.1.sameKey b.1 = false ∧ b.1.sameKey a.1 = false := ⟨fun _ _ h => h.symm⟩
  have hfalse := hdistinct.forall ha hb hne
  rw [hfalse.1] at hab
  exact absurd hab (by simp)

/-- An entry under a key is the one that is found. -/
lemma Entries.find?_eq (h : AgreesOn P) {es : List (Value × Value)} (hes : Entries P es)
    {k : Value} (hk : P k) {e : Value × Value} (he : e ∈ es) (hke : k.sameKey e.1 = true) :
    es.find? (fun e => k.sameKey e.1) = some e := by
  obtain ⟨f, hf⟩ : ∃ f, es.find? (fun e => k.sameKey e.1) = some f := by
    rw [← Option.isSome_iff_exists, List.find?_isSome]
    exact ⟨e, he, hke⟩
  have hmem := List.mem_of_find?_eq_some hf
  have hkf : k.sameKey f.1 = true := by simpa using List.find?_some hf
  have hef : e.1.sameKey f.1 = true :=
    h.trans (hes.parts e he).1 hk (hes.parts f hmem).1 (h.symm hk (hes.parts e he).1 hke) hkf
  rw [hf, hes.eq_of_sameKey h he hmem hef]

lemma Entries.sameEntries_iff (h : AgreesOn P) {xs ys : List (Value × Value)}
    (hxs : Entries P xs) (hys : Entries P ys) :
    sameEntries xs ys = true ↔
      ∀ x ∈ xs, ∃ y ∈ ys, x.1.sameKey y.1 = true ∧ x.2.sameKey y.2 = true := by
  rw [Value.sameEntries_iff]
  refine forall₂_congr fun x hx => ?_
  constructor
  · rintro ⟨y, hy, hvalue⟩
    exact ⟨y, List.mem_of_find?_eq_some hy, by simpa using List.find?_some hy, hvalue⟩
  · rintro ⟨y, hy, hkey, hvalue⟩
    exact ⟨y, hys.find?_eq h (hxs.parts x hx).1 hy hkey, hvalue⟩

/-- Entries that have partners among as many others are the partners of all of them, as two entries
with one partner have the same key. -/
lemma Entries.symm (h : AgreesOn P) {xs ys : List (Value × Value)} (hxs : Entries P xs)
    (hys : Entries P ys) (hlength : xs.length = ys.length) (hxy : sameEntries xs ys = true) :
    sameEntries ys xs = true := by
  rw [hxs.sameEntries_iff h hys] at hxy
  rw [hys.sameEntries_iff h hxs]
  choose! partner hmem hkey hvalue using hxy
  have hnodup : (xs.map partner).Nodup := by
    rw [List.Nodup, List.pairwise_map]
    refine hxs.distinct.imp_of_mem fun {a b} ha hb hfalse heq => ?_
    have hb' := hkey b hb
    rw [← heq] at hb'
    have hPa := (hxs.parts a ha).1
    have hPb := (hxs.parts b hb).1
    have hPy := (hys.parts _ (hmem a ha)).1
    have htrue := h.trans hPa hPy hPb (hkey a ha) (h.symm hPb hPy hb')
    rw [hfalse] at htrue
    exact absurd htrue (by simp)
  have hsubset : xs.map partner ⊆ ys := by
    intro y hy
    obtain ⟨x, hx, rfl⟩ := List.mem_map.1 hy
    exact hmem x hx
  have hperm : (xs.map partner).Perm ys :=
    (List.subperm_of_subset hnodup hsubset).perm_of_length_le (by simp [hlength])
  intro y hy
  obtain ⟨x, hx, rfl⟩ := List.mem_map.1 (hperm.symm.subset hy)
  have hPx := hxs.parts x hx
  have hPy := hys.parts _ hy
  exact ⟨x, hx, h.symm hPx.1 hPy.1 (hkey x hx), h.symm hPx.2 hPy.2 (hvalue x hx)⟩

lemma Entries.trans (h : AgreesOn P) {xs ys zs : List (Value × Value)} (hxs : Entries P xs)
    (hys : Entries P ys) (hzs : Entries P zs) (hxy : sameEntries xs ys = true)
    (hyz : sameEntries ys zs = true) : sameEntries xs zs = true := by
  rw [hxs.sameEntries_iff h hys] at hxy
  rw [hys.sameEntries_iff h hzs] at hyz
  rw [hxs.sameEntries_iff h hzs]
  intro x hx
  obtain ⟨y, hy, hxykey, hxyvalue⟩ := hxy x hx
  obtain ⟨z, hz, hyzkey, hyzvalue⟩ := hyz y hy
  have hPx := hxs.parts x hx
  have hPy := hys.parts y hy
  have hPz := hzs.parts z hz
  exact ⟨z, hz, h.trans hPx.1 hPy.1 hPz.1 hxykey hyzkey,
    h.trans hPx.2 hPy.2 hPz.2 hxyvalue hyzvalue⟩

end AgreesOn

/-- The proper values up to a size. -/
def IsProperBelow (n : ℕ) (v : Value) : Prop := v.IsProper ∧ sizeOf v < n

lemma isProperBelow_of_mem {n : ℕ} {xs : List Value} (hxs : AllProper xs) (hn : sizeOf xs < n) :
    ∀ x ∈ xs, x.IsProperBelow n := by
  intro x hx
  exact ⟨allProper_iff.1 hxs x hx, Nat.lt_trans (List.sizeOf_lt_of_mem hx) hn⟩

lemma entries_of_entriesProper {n : ℕ} {es : List (Value × Value)} (hes : EntriesProper es)
    (hn : sizeOf es < n) : AgreesOn.Entries (IsProperBelow n) es where
  parts := by
    rintro ⟨k, v⟩ he
    have hsize := List.sizeOf_lt_of_mem he
    have hparts := (entriesProper_iff.1 hes).1 (k, v) he
    rw [Prod.mk.sizeOf_spec] at hsize
    refine ⟨⟨hparts.1, ?_⟩, hparts.2, ?_⟩
    · show sizeOf k < n
      omega
    · show sizeOf v < n
      omega
  distinct := (entriesProper_iff.1 hes).2

/-- From the parts of values to the values. -/
lemma agreesOn_succ {n : ℕ} (h : AgreesOn (IsProperBelow n)) :
    AgreesOn (IsProperBelow (n + 1)) where
  symm := by
    rintro u v ⟨hu, hun⟩ ⟨hv, hvn⟩ huv
    by_cases hq : u.isQuantity = true
    · rw [sameKey_of_isQuantity hq, sameQuantity_comm] at huv
      rwa [sameKey_of_isQuantity_right hq]
    match u with
    | .list xs | .tuple xs | .contribution xs =>
      cases v <;> simp [sameKey] at huv ⊢
      rw [IsProper] at hu hv
      simp only [list.sizeOf_spec, tuple.sizeOf_spec, contribution.sizeOf_spec] at hun hvn
      exact h.sameKeys_symm (isProperBelow_of_mem hu (by omega))
        (isProperBelow_of_mem hv (by omega)) huv
    | .map _ xs =>
      cases v <;> simp [sameKey] at huv ⊢
      rw [IsProper] at hu hv
      simp only [map.sizeOf_spec] at hun hvn
      exact ⟨huv.1.symm, (entries_of_entriesProper hu (by omega)).symm h
        (entries_of_entriesProper hv (by omega)) huv.1 huv.2⟩
    | .range .. =>
      cases v <;> simp [sameKey] at huv ⊢
      rwa [sameRange_comm]
    | .bool _ | .int _ | .float _ | .complex .. | .scalar _ | .complexScalar .. =>
      exact absurd rfl hq
    | .null | .text _ | .array _ | .moduleRef _ | .functionRef _ | .view .. | .method .. |
      .undefined _ | .loop .. | .singular .. =>
      cases v <;> simp_all [sameKey]
  trans := by
    rintro u v w ⟨hu, hun⟩ ⟨hv, hvn⟩ ⟨hw, hwn⟩ huv hvw
    by_cases hq : u.isQuantity = true
    · rw [sameKey_of_isQuantity hq] at huv ⊢
      rw [sameKey_of_isQuantity (isQuantity_of_sameQuantity huv)] at hvw
      exact sameQuantity_trans huv hvw
    match u with
    | .list xs | .tuple xs | .contribution xs =>
      cases v <;> simp [sameKey] at huv
      cases w <;> simp [sameKey] at hvw ⊢
      rw [IsProper] at hu hv hw
      simp only [list.sizeOf_spec, tuple.sizeOf_spec, contribution.sizeOf_spec] at hun hvn hwn
      exact h.sameKeys_trans (isProperBelow_of_mem hu (by omega))
        (isProperBelow_of_mem hv (by omega)) (isProperBelow_of_mem hw (by omega)) huv hvw
    | .map _ xs =>
      cases v <;> simp [sameKey] at huv
      cases w <;> simp [sameKey] at hvw ⊢
      rw [IsProper] at hu hv hw
      simp only [map.sizeOf_spec] at hun hvn hwn
      exact ⟨huv.1.trans hvw.1, (entries_of_entriesProper hu (by omega)).trans h
        (entries_of_entriesProper hv (by omega)) (entries_of_entriesProper hw (by omega))
        huv.2 hvw.2⟩
    | .range .. =>
      cases v <;> simp [sameKey] at huv
      cases w <;> simp [sameKey] at hvw ⊢
      exact sameRange_trans huv hvw
    | .bool _ | .int _ | .float _ | .complex .. | .scalar _ | .complexScalar .. =>
      exact absurd rfl hq
    | .null | .text _ | .array _ | .moduleRef _ | .functionRef _ | .view .. | .method .. |
      .undefined _ | .loop .. | .singular .. =>
      cases v <;> simp [sameKey] at huv
      all_goals cases w <;> simp_all [sameKey]

lemma agreesOn_isProperBelow (n : ℕ) : AgreesOn (IsProperBelow n) := by
  induction n with
  | zero =>
    exact ⟨fun hu => absurd hu.2 (by simp), fun hu => absurd hu.2 (by simp)⟩
  | succ n ih => exact agreesOn_succ ih

/-- Being the same key is symmetric and transitive among values whose maps have each key once. -/
theorem agreesOn_isProper : AgreesOn IsProper where
  symm {u v} hu hv :=
    (agreesOn_isProperBelow (sizeOf u + sizeOf v + 1)).symm ⟨hu, by omega⟩ ⟨hv, by omega⟩
  trans {u v w} hu hv hw :=
    (agreesOn_isProperBelow (sizeOf u + sizeOf v + sizeOf w + 1)).trans ⟨hu, by omega⟩
      ⟨hv, by omega⟩ ⟨hw, by omega⟩

/-! ### Values without maps -/

mutual

/-- Whether no map is part of the value. -/
def isMapFree : Value → Bool
  | .map _ _ => false
  | .list xs => allMapFree xs
  | .tuple xs => allMapFree xs
  | .contribution xs => allMapFree xs
  | _ => true

/-- Whether no map is part of one of the values. -/
def allMapFree : List Value → Bool
  | [] => true
  | x :: xs => isMapFree x && allMapFree xs

end

mutual

lemma isProper_of_isMapFree {v : Value} (h : v.isMapFree = true) : v.IsProper := by
  match v with
  | .list xs | .tuple xs | .contribution xs =>
    rw [isMapFree] at h
    rw [IsProper]
    exact allProper_of_allMapFree h
  | .map .. => exact absurd h (by simp [isMapFree])
  | .null | .bool _ | .int _ | .float _ | .complex .. | .text _ | .scalar _ | .complexScalar .. |
    .array _ | .moduleRef _ | .functionRef _ | .range .. | .view .. | .method .. |
    .undefined _ | .loop .. | .singular .. => simp [IsProper]

lemma allProper_of_allMapFree {vs : List Value} (h : allMapFree vs = true) : AllProper vs := by
  match vs with
  | [] => exact trivial
  | v :: vs =>
    rw [allMapFree, Bool.and_eq_true] at h
    exact ⟨isProper_of_isMapFree h.1, allProper_of_allMapFree h.2⟩

end

lemma isMapFree_of_isQuantity {v : Value} (h : v.isQuantity = true) : v.isMapFree = true := by
  cases v <;> simp [isQuantity, complexQuantity?] at h <;> rfl

mutual

/-- Of two values that are the same key, maps are part of both or of neither. -/
lemma isMapFree_eq_of_sameKey {v w : Value} (h : v.sameKey w = true) :
    v.isMapFree = w.isMapFree := by
  by_cases hv : v.isQuantity = true
  · rw [sameKey_of_isQuantity hv] at h
    rw [isMapFree_of_isQuantity hv, isMapFree_of_isQuantity (isQuantity_of_sameQuantity h)]
  match v with
  | .list xs | .tuple xs | .contribution xs =>
    cases w <;> simp [sameKey] at h
    exact allMapFree_eq_of_sameKeys h
  | .bool _ | .int _ | .float _ | .complex .. | .scalar _ | .complexScalar .. =>
    exact absurd rfl hv
  | .map .. | .null | .text _ | .array _ | .moduleRef _ | .functionRef _ | .range .. | .view .. |
    .method .. | .undefined _ | .loop .. | .singular .. =>
    cases w <;> simp [sameKey] at h <;> rfl

lemma allMapFree_eq_of_sameKeys {vs ws : List Value} (h : sameKeys vs ws = true) :
    allMapFree vs = allMapFree ws := by
  match vs, ws with
  | [], [] => rfl
  | [], _ :: _ => simp [sameKeys] at h
  | _ :: _, [] => simp [sameKeys] at h
  | v :: vs, w :: ws =>
    rw [sameKeys, Bool.and_eq_true] at h
    rw [allMapFree, allMapFree, isMapFree_eq_of_sameKey h.1, allMapFree_eq_of_sameKeys h.2]

end

/-! ### Looking up a key -/

/-- Among the values with a property, those that are the same key as `k` are the same key as one
another, and as no other value. -/
structure IsClassOn (P : Value → Prop) (k : Value) : Prop where
  congr : ∀ {a b}, P a → P b → a.sameKey b = true → a.sameKey k = b.sameKey k
  common : ∀ {a b}, P a → P b → a.sameKey k = true → b.sameKey k = true → a.sameKey b = true

lemma AgreesOn.isClassOn {P : Value → Prop} (h : AgreesOn P) {k : Value} (hk : P k) :
    IsClassOn P k where
  congr ha hb hab := by
    rw [Bool.eq_iff_iff]
    exact ⟨h.trans hb ha hk (h.symm ha hb hab), h.trans ha hb hk hab⟩
  common ha hb hak hbk := h.trans ha hk hb hak (h.symm hb hk hbk)

/-- A value that no map is part of is told apart from all values, whatever they are. -/
lemma isClassOn_of_isMapFree {k : Value} (hk : k.isMapFree = true) :
    IsClassOn (fun _ => True) k := by
  have hclass := (agreesOn_isProper.mono fun v (hv : v.isMapFree = true) =>
    isProper_of_isMapFree hv).isClassOn hk
  have hfree : ∀ {a : Value}, a.sameKey k = true → a.isMapFree = true := fun ha =>
    (isMapFree_eq_of_sameKey ha).trans hk
  refine ⟨fun {a b} _ _ hab => ?_, fun _ _ hak hbk => hclass.common (hfree hak) (hfree hbk) hak hbk⟩
  -- one of the two is map-free if it is the same key as `k`, and then the other one is as well
  have hsame := isMapFree_eq_of_sameKey hab
  rw [Bool.eq_iff_iff]
  constructor
  · intro hak
    rwa [← hclass.congr (hfree hak) (hsame ▸ hfree hak) hab]
  · intro hbk
    rwa [hclass.congr (hsame ▸ hfree hbk) (hfree hbk) hab]

end Value

end ShaderLoom
