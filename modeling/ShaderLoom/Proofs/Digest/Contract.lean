import ShaderLoom.Proofs.Digest.Mapping

/-!
# Equal maps have one digest

Sealed maps that are equal have digests that agree, whatever the sequence of their entries and
however the numbers in them are represented (`SealedMap.agrees_of_equal`). The induction follows
the first of two equal values: sequences and contributions are equal member by member, and maps
entry by entry. Where a fixed-width number takes part, equality rounds, and it has to be assumed
that equal values have digests that agree (`RespectsWidths`).
-/

namespace ShaderLoom

open Number

namespace Value

/-! ### Values with ordered keys -/

mutual

/-- Wherever the value holds a map, its keys are texts or plain real numbers, each of them once, and
wherever there is a mark, it marks a number that is not equal to itself. -/
def isOrdered : Value → Bool
  | .tuple xs => allOrdered xs
  | .contribution xs => allOrdered xs
  | .map _ es =>
    es.all (·.1.isOrderedKey) && decide (es.Pairwise fun a b => a.1.sameKey b.1 = false) &&
      entriesOrdered es
  | .singular _ v => v.isQuantity && !v.sameQuantity v
  | _ => true

/-- Whether all values have ordered keys. -/
def allOrdered : List Value → Bool
  | [] => true
  | x :: xs => isOrdered x && allOrdered xs

/-- Whether the values of all entries have ordered keys. -/
def entriesOrdered : List (Value × Value) → Bool
  | [] => true
  | (_, v) :: es => isOrdered v && entriesOrdered es

end

lemma isOrdered_of_mem {xs : List Value} (h : allOrdered xs = true) : ∀ x ∈ xs, x.isOrdered = true := by
  induction xs with
  | nil => simp
  | cons x xs ih =>
    rw [allOrdered, Bool.and_eq_true] at h
    exact List.forall_mem_cons.2 ⟨h.1, ih h.2⟩

lemma entriesOrdered_iff {es : Entries} :
    entriesOrdered es = true ↔ ∀ e ∈ es, e.2.isOrdered = true := by
  induction es with
  | nil => simp [entriesOrdered]
  | cons e es ih =>
    obtain ⟨k, v⟩ := e
    rw [entriesOrdered, Bool.and_eq_true, List.forall_mem_cons, ih]

lemma isOrdered_map_iff {kind : MapKind} {es : Entries} : (Value.map kind es).isOrdered = true ↔
    es.HasOrderedKeys ∧ ∀ e ∈ es, e.2.isOrdered = true := by
  rw [isOrdered, Bool.and_eq_true, Bool.and_eq_true, List.all_eq_true, decide_eq_true_iff,
    entriesOrdered_iff]
  exact and_congr_left fun _ => ⟨fun h => ⟨h.1, h.2⟩, fun h => ⟨h.1, h.2⟩⟩

/-! ### Fixed-width numbers -/

mutual

/-- The value and the values inside of it. -/
def parts : Value → List Value
  | .tuple xs => .tuple xs :: partsOfAll xs
  | .contribution xs => .contribution xs :: partsOfAll xs
  | .map kind es => .map kind es :: partsOfEntries es
  | v => [v]

/-- The members of a sequence and the values inside of them. -/
def partsOfAll : List Value → List Value
  | [] => []
  | x :: xs => parts x ++ partsOfAll xs

/-- The values of entries and the values inside of them. -/
def partsOfEntries : List (Value × Value) → List Value
  | [] => []
  | (_, v) :: es => parts v ++ partsOfEntries es

end

lemma mem_parts_self (v : Value) : v ∈ v.parts := by
  cases v <;> simp [parts]

lemma parts_subset_partsOfAll {xs : List Value} {x : Value} (h : x ∈ xs) :
    x.parts ⊆ partsOfAll xs := by
  induction xs with
  | nil => simp at h
  | cons y ys ih =>
    rw [partsOfAll]
    rcases List.mem_cons.1 h with rfl | h
    · exact List.subset_append_left _ _
    · exact List.Subset.trans (ih h) (List.subset_append_right _ _)

lemma parts_subset_partsOfEntries {es : Entries} {e : Value × Value} (h : e ∈ es) :
    e.2.parts ⊆ partsOfEntries es := by
  induction es with
  | nil => simp at h
  | cons a es ih =>
    obtain ⟨k, v⟩ := a
    rw [partsOfEntries]
    rcases List.mem_cons.1 h with rfl | h
    · exact List.subset_append_left _ _
    · exact List.Subset.trans (ih h) (List.subset_append_right _ _)

/-- If the two values are equal and have digests, then these agree. -/
def respects (v w : Value) : Bool :=
  match v.equal w, v.digest?, w.digest? with
  | .ok true, .ok d, .ok e => d.agrees e
  | _, _, _ => true

/-- Fixed-width numbers of either side that are equal to something on the other side have its
digest. -/
def RespectsWidths (xs ys : List Value) : Prop :=
  ∀ x ∈ xs, ∀ y ∈ ys, (x.bare.hasCells || y.bare.hasCells) = true → x.respects y = true

instance (xs ys : List Value) : Decidable (RespectsWidths xs ys) :=
  inferInstanceAs (Decidable (∀ x ∈ xs, ∀ y ∈ ys, _ → _))

lemma RespectsWidths.subset {xs ys xs' ys' : List Value} (h : RespectsWidths xs ys)
    (hxs : xs' ⊆ xs) (hys : ys' ⊆ ys) : RespectsWidths xs' ys' :=
  fun x hx y hy => h x (hxs hx) y (hys hy)

/-! ### Marked numbers -/

/-- A number that is not equal to itself is the same key as nothing. -/
lemma not_sameKey_of_not_self {v w : Value} (hw : w.isQuantity = true)
    (hself : w.sameQuantity w = false) : v.sameKey w ≠ true := by
  rw [sameKey_of_isQuantity_right hw]
  intro h
  have htrans := sameQuantity_trans (sameQuantity_comm v w ▸ h) h
  simp [hself] at htrans

lemma isUnmarked_of_isQuantity {v : Value} (h : v.isQuantity = true) : v.IsUnmarked := by
  rintro m w rfl
  simp [isQuantity, complexQuantity?] at h

lemma isWhole_of_isQuantity {v : Value} (h : v.isQuantity = true) : v.isWhole = true := by
  cases v <;> simp [isQuantity, complexQuantity?] at h <;> rfl

/-- A value that is compared as a whole and is equal to another one is the same key. -/
lemma sameKey_of_equal {v w : Value} (hrelate : v.relate .eq w = relateWhole .eq v w.bare)
    (hunmarked : v.IsUnmarked) (hw : w.isOrdered = true) (hv : v.hasCells = false)
    (hcells : w.bare.hasCells = false) (h : v.equal w = .ok true) : v.sameKey w = true := by
  rw [equal_eq_true_iff, hrelate] at h
  have hboth : (v.hasCells || w.bare.hasCells) = false := by rw [hv, hcells]; rfl
  by_cases hmark : w.IsUnmarked
  · have hbare : w.bare = w := by
      cases w with
      | singular m x => exact absurd rfl (hmark m x)
      | _ => rfl
    rw [hbare] at h hboth
    exact sameKey_of_relateWhole hunmarked hmark hboth h
  · simp only [IsUnmarked, not_forall, not_not] at hmark
    obtain ⟨m, x, rfl⟩ := hmark
    rw [isOrdered, Bool.and_eq_true, Bool.not_eq_true'] at hw
    have hsame := sameKey_of_relateWhole hunmarked (isUnmarked_of_isQuantity hw.1) hboth h
    exact absurd hsame (not_sameKey_of_not_self hw.1 hw.2)

/-! ### Values that are equal -/

lemma agrees_of_isSame {v w : Value} {d e : Digest} (h : v.isSame w = true) (hd : v.digest? = .ok d)
    (he : w.digest? = .ok e) : d.agrees e = true := by
  unfold isSame at h
  split at h
  · obtain rfl := of_decide_eq_true h
    obtain rfl := Except.ok.inj hd
    obtain rfl := Except.ok.inj he
    simp [Digest.agrees]
  · simp [digest?] at hd
  · exact absurd h (by simp)

/-- What is asked of two values whose digests are to agree if the values do. -/
structure Comparable (v w : Value) : Prop where
  left : v.isOrdered = true
  right : w.isOrdered = true
  widths : RespectsWidths v.parts w.parts

lemma Comparable.of_tuple {xs ys : List Value} (h : Comparable (.tuple xs) (.tuple ys)) {x y : Value}
    (hx : x ∈ xs) (hy : y ∈ ys) : Comparable x y where
  left := isOrdered_of_mem h.left x hx
  right := isOrdered_of_mem h.right y hy
  widths := h.widths.subset (List.subset_cons_of_subset _ (parts_subset_partsOfAll hx))
    (List.subset_cons_of_subset _ (parts_subset_partsOfAll hy))

lemma Comparable.of_contribution {xs ys : List Value}
    (h : Comparable (.contribution xs) (.contribution ys)) {x y : Value} (hx : x ∈ xs)
    (hy : y ∈ ys) : Comparable x y where
  left := isOrdered_of_mem h.left x hx
  right := isOrdered_of_mem h.right y hy
  widths := h.widths.subset (List.subset_cons_of_subset _ (parts_subset_partsOfAll hx))
    (List.subset_cons_of_subset _ (parts_subset_partsOfAll hy))

lemma Comparable.of_map {kind kind' : MapKind} {xs ys : Entries}
    (h : Comparable (.map kind xs) (.map kind' ys)) {x y : Value × Value} (hx : x ∈ xs)
    (hy : y ∈ ys) : Comparable x.2 y.2 where
  left := (isOrdered_map_iff.1 h.left).2 x hx
  right := (isOrdered_map_iff.1 h.right).2 y hy
  widths := h.widths.subset (List.subset_cons_of_subset _ (parts_subset_partsOfEntries hx))
    (List.subset_cons_of_subset _ (parts_subset_partsOfEntries hy))

/-- If the values are the same or equal, their digests agree. -/
def KeepsContract (v w : Value) : Prop :=
  ∀ d e, v.digest? = .ok d → w.digest? = .ok e → v.agrees w = .ok true → d.agrees e = true

lemma agreeAll_digestAll? {xs ys : List Value} {ds es : List Digest} (hds : digestAll? xs = .ok ds)
    (hes : digestAll? ys = .ok es)
    (h : List.Forall₂ (fun x y => x.agrees y = .ok true) xs ys)
    (hkeeps : ∀ x ∈ xs, ∀ y ∈ ys, KeepsContract x y) : Digest.agreeAll ds es = true := by
  rw [digestAll?_eq_mapM] at hds hes
  refine agreeAll_of_forall₂ (forall₂_of_mapM hds hes ?_)
  exact forall₂_imp_of_mem h fun x hx y hy hxy d e hd he => hkeeps x hx y hy d e hd he hxy

section Step

variable {w : Value} {d e : Digest}

lemma agrees_tuple {xs : List Value} (h : Comparable (.tuple xs) w)
    (hcells : w.bare.hasCells = false) (hd : (Value.tuple xs).digest? = .ok d)
    (he : w.digest? = .ok e) (hequal : (Value.tuple xs).equal w = .ok true)
    (ih : ∀ x ∈ xs, ∀ y, Comparable x y → KeepsContract x y) : d.agrees e = true := by
  cases w with
  | tuple ys =>
    obtain ⟨ds, hds, hd⟩ := bind_eq_ok.1 hd
    obtain ⟨es, hes, he⟩ := bind_eq_ok.1 he
    obtain rfl := Except.ok.inj hd
    obtain rfl := Except.ok.inj he
    exact agreeAll_digestAll? hds hes (agrees_of_equal_tuple hequal) fun x hx y hy =>
      ih x hx y (h.of_tuple hx hy)
  | _ =>
    have hsame := sameKey_of_equal (by simp only [relate]) (by simp [IsUnmarked]) h.right rfl hcells
      hequal
    exact absurd hsame (by simp [sameKey])

lemma agrees_contribution {xs : List Value} (h : Comparable (.contribution xs) w)
    (hcells : w.bare.hasCells = false) (hd : (Value.contribution xs).digest? = .ok d)
    (he : w.digest? = .ok e) (hequal : (Value.contribution xs).equal w = .ok true)
    (ih : ∀ x ∈ xs, ∀ y, Comparable x y → KeepsContract x y) : d.agrees e = true := by
  cases w with
  | contribution ys =>
    obtain ⟨ds, hds, hd⟩ := bind_eq_ok.1 hd
    obtain ⟨es, hes, he⟩ := bind_eq_ok.1 he
    obtain rfl := Except.ok.inj hd
    obtain rfl := Except.ok.inj he
    have hslots : List.Forall₂ (fun x y => x.agrees y = .ok true) xs ys :=
      (equal_of_equal_contribution hequal).imp fun x y hxy => by
        rw [agrees, hxy]
        split <;> rfl
    exact agreeAll_digestAll? hds hes hslots fun x hx y hy => ih x hx y (h.of_contribution hx hy)
  | _ =>
    have hsame := sameKey_of_equal (by simp only [relate]) (by simp [IsUnmarked]) h.right rfl hcells
      hequal
    exact absurd hsame (by simp [sameKey])

lemma kind_eq_sealed {kind : MapKind} {es : Entries} (h : (Value.map kind es).digest? = .ok d) :
    kind = .sealed := by
  by_contra hne
  simp [digest?, hne] at h

lemma agrees_map {kind : MapKind} {xs : Entries} (h : Comparable (.map kind xs) w)
    (hcells : w.bare.hasCells = false) (hd : (Value.map kind xs).digest? = .ok d)
    (he : w.digest? = .ok e) (hequal : (Value.map kind xs).equal w = .ok true)
    (ih : ∀ x ∈ xs, ∀ y, Comparable x.2 y → KeepsContract x.2 y) : d.agrees e = true := by
  cases w with
  | map kind' ys =>
    obtain rfl := kind_eq_sealed hd
    obtain rfl := kind_eq_sealed he
    obtain ⟨hlength, hentries⟩ := agrees_of_equal_map hequal
    refine agrees_digest_sealed hd he (isOrdered_map_iff.1 h.left).1 (isOrdered_map_iff.1 h.right).1
      hlength fun x hx => ?_
    obtain ⟨y, hy, hkey, hvalue⟩ := hentries x hx
    exact ⟨y, hy, hkey, fun dx dy hdx hdy => ih x hx y.2 (h.of_map hx hy) dx dy hdx hdy hvalue⟩
  | _ =>
    have hsame := sameKey_of_equal (by simp only [relate]) (by simp [IsUnmarked]) h.right rfl hcells
      hequal
    exact absurd hsame (by simp [sameKey])

/-- A number that is not equal to itself is equal to nothing. -/
lemma not_equal_singular {m : ℕ} {v : Value} (h : Comparable (.singular m v) w)
    (hv : v.hasCells = false) (hcells : w.bare.hasCells = false) :
    (Value.singular m v).equal w ≠ .ok true := by
  intro hequal
  have hself := h.left
  rw [isOrdered, Bool.and_eq_true, Bool.not_eq_true'] at hself
  have hwhole := isWhole_of_isQuantity hself.1
  rw [equal_eq_true_iff, relate] at hequal
  have hsame := sameKey_of_equal (relate_of_isWhole hwhole .eq w) (isUnmarked_of_isQuantity hself.1)
    h.right hv hcells (equal_eq_true_iff.2 hequal)
  rw [sameKey_of_isQuantity hself.1] at hsame
  have htrans := sameQuantity_trans hsame (sameQuantity_comm v w ▸ hsame)
  simp [hself.2] at htrans

end Step

lemma sizeOf_lt_of_mem_entries {es : Entries} {e : Value × Value} (h : e ∈ es) :
    sizeOf e.2 < sizeOf es := by
  have hlt := List.sizeOf_lt_of_mem h
  obtain ⟨k, v⟩ := e
  simp only [Prod.mk.sizeOf_spec] at hlt
  show sizeOf v < sizeOf es
  omega

/-- Two values that are the same or equal have digests that agree. -/
theorem keepsContract_of_comparable {v w : Value} (hvw : Comparable v w) : KeepsContract v w := by
  induction hn : sizeOf v using Nat.strong_induction_on generalizing v w with
  | h n ih =>
  subst hn
  intro d e hd he h
  by_cases hsame : v.isSame w = true
  · exact agrees_of_isSame hsame hd he
  rw [agrees, if_neg hsame] at h
  by_cases hcells : (v.bare.hasCells || w.bare.hasCells) = true
  · have hrespects := hvw.widths v v.mem_parts_self w w.mem_parts_self hcells
    simpa [respects, h, hd, he] using hrespects
  rw [Bool.not_eq_true, Bool.or_eq_false_iff] at hcells
  by_cases hwhole : v.isWhole = true
  · rw [bare_of_isWhole hwhole] at hcells
    have hunmarked : v.IsUnmarked := by
      rintro m x rfl
      simp [isWhole] at hwhole
    have hkey := sameKey_of_equal (relate_of_isWhole hwhole .eq w) hunmarked hvw.right hcells.1
      hcells.2 h
    exact digests_agree_of_sameKey hwhole hkey hd he
  cases v with
  | tuple xs =>
    refine agrees_tuple hvw hcells.2 hd he h fun x hx y hxy => ih _ ?_ hxy rfl
    have hlt := List.sizeOf_lt_of_mem hx
    simp only [tuple.sizeOf_spec]
    omega
  | contribution xs =>
    refine agrees_contribution hvw hcells.2 hd he h fun x hx y hxy => ih _ ?_ hxy rfl
    have hlt := List.sizeOf_lt_of_mem hx
    simp only [contribution.sizeOf_spec]
    omega
  | map kind xs =>
    refine agrees_map hvw hcells.2 hd he h fun x hx y hxy => ih _ ?_ hxy rfl
    have hlt := sizeOf_lt_of_mem_entries hx
    simp only [map.sizeOf_spec]
    omega
  | singular m x => exact absurd h (not_equal_singular hvw hcells.1 hcells.2)
  | _ => simp_all [isWhole, digest?]

end Value

/-! ### Sealed maps -/

namespace SealedMap

/-- The keys of entries are texts or plain real numbers, also in the maps inside of the values. -/
def AreOrdered (es : Entries) : Prop :=
  ∀ e ∈ es, e.1.isOrderedKey = true ∧ e.2.isOrdered = true

lemma isOrdered_of_ofEntries {es : Entries} {m : SealedMap} (h : ofEntries es = .ok m)
    (hes : AreOrdered es) : m.toValue.isOrdered = true := by
  rw [toValue, entries_of_ofEntries h]
  have hall := Entries.forall_ofList (P := fun k => k.isOrderedKey = true)
    (Q := fun v => v.isOrdered = true) hes
  exact Value.isOrdered_map_iff.2 ⟨Entries.hasOrderedKeys_ofList fun e he => (hes e he).1,
    fun e he => (hall e he).2⟩

/-- **The hash contract.**  Sealed maps that are equal have digests that agree, whatever the
sequences of their entries and however the numbers that are their keys and values are represented,
if this is so for the fixed-width numbers among their values. -/
theorem agrees_of_equal {es es' : Entries} {a b : SealedMap} (ha : ofEntries es = .ok a)
    (hb : ofEntries es' = .ok b) (hes : AreOrdered es) (hes' : AreOrdered es')
    (hwidths : Value.RespectsWidths a.toValue.parts b.toValue.parts) (h : a.equal b = .ok true) :
    a.digest.agrees b.digest = true := by
  refine Value.keepsContract_of_comparable ⟨isOrdered_of_ofEntries ha hes,
    isOrdered_of_ofEntries hb hes', hwidths⟩ _ _ (digest_of_ofEntries ha) (digest_of_ofEntries hb) ?_
  rw [Value.agrees]
  split
  · rfl
  · exact h

/-- Entries with numbers as keys; among the values are a map with an injection, and a fixed-width
number. -/
def mixedEntries : Entries :=
  [(.int 1, .text "a"),
    (.float 0.5, .map .sealed [(.text "x", .bool true),
      (.text "y", (Injection.mk "fs:#post" (.place .fragment "post") "b;" (.whole 2)).toValue)]),
    (.bool false, .tuple [.int 2, .scalar (.double 0.5)])]

/-- The same entries in another sequence and with other representations of the numbers. -/
def respelledEntries : Entries :=
  [(.int 0, .tuple [.float 2.0, .float 0.5]),
    (.float 0.5, .map .sealed [
      (.text "y", (Injection.mk "fs:#post" (.place .fragment "post") "b;" (.real 2.0)).toValue),
      (.text "x", .float 1.0)]),
    (.bool true, .text "a")]

/-- The maps of these entries are equal and have one digest. -/
theorem mixed_agrees_respelled : ∃ a b : SealedMap, ofEntries mixedEntries = .ok a ∧
    ofEntries respelledEntries = .ok b ∧ a.equal b = .ok true ∧
    a.digest.agrees b.digest = true := by
  have hmixed : AreOrdered mixedEntries := by
    unfold AreOrdered
    decide +kernel
  have hrespelled : AreOrdered respelledEntries := by
    unfold AreOrdered
    decide +kernel
  obtain ⟨a, ha⟩ := exists_of_isSome_toOption (x := ofEntries mixedEntries) (by decide +kernel)
  obtain ⟨b, hb⟩ := exists_of_isSome_toOption (x := ofEntries respelledEntries) (by decide +kernel)
  have hequal : a.equal b = .ok true := by
    rw [equal, toValue, toValue, entries_of_ofEntries ha, entries_of_ofEntries hb]
    decide +kernel
  refine ⟨a, b, ha, hb, hequal, agrees_of_equal ha hb hmixed hrespelled ?_ hequal⟩
  rw [toValue, toValue, entries_of_ofEntries ha, entries_of_ofEntries hb]
  decide +kernel

end SealedMap

end ShaderLoom
