import Mathlib.Data.String.Basic
import Mathlib.Data.Sum.Order
import ShaderLoom.Module.SealedMap
import ShaderLoom.Proofs.Digest.Number
import ShaderLoom.Proofs.Entries
import ShaderLoom.Proofs.Injection.Order
import ShaderLoom.Proofs.Key.Plain

/-!
# Digests of maps

The digest of a sealed map lists the digests of its keys and values by ascending keys
(`Value.digest?_sealed`). It exists if the keys can be compared with each other and all keys and
values have digests, as it is for maps with texts as keys. Texts and plain real numbers have places
in one order, and are the same key exactly if they have one place; so two maps with such keys have
digests that agree if the values under the same keys do (`agrees_digest_sealed`).
-/

namespace ShaderLoom

namespace Value

/-- The digests of a key and its value. -/
def entryDigests (e : Value × Value) : Answer (List Digest) := do
  let dk ← e.1.digest?
  let dv ← e.2.digest?
  .ok [dk, dv]

lemma digestEntries_eq_map (es : Entries) :
    digestEntries es = es.map fun e => (e.1, entryDigests e) := by
  induction es with
  | nil => rfl
  | cons e es ih => rw [digestEntries, List.map_cons, ih]; rfl

lemma digestAll?_eq_mapM (vs : List Value) : digestAll? vs = vs.mapM digest? := by
  induction vs with
  | nil => rfl
  | cons v vs ih => rw [digestAll?, List.mapM_cons, ih]; rfl

/-- Whether a key comes before another one, for entries. -/
def keyLess (a b : Value × Value) : Answer Bool := a.1.less? b.1

/-- The digest of a sealed map, by its sorted entries. -/
lemma digest?_sealed (es : Entries) :
    (Value.map .sealed es).digest? = (do
      let sorted ← sortWith keyLess es
      let parts ← sorted.mapM entryDigests
      .ok (mappingDigest parts.flatten)) := by
  have hsort : sortByValue Prod.fst (digestEntries es) =
      (sortWith keyLess es).map (List.map fun e => (e.1, entryDigests e)) := by
    rw [digestEntries_eq_map, sortByValue, sortWith_map]
    rfl
  rw [digest?, if_pos rfl, hsort]
  cases sortWith keyLess es with
  | error f => rfl
  | ok sorted =>
    show ((sorted.map fun e => (e.1, entryDigests e)).mapM Prod.snd >>= _) = _
    rw [List.mapM_map]
    rfl

/-- A map has a digest if its keys can be sorted and all keys and values have digests. -/
lemma exists_digest_sealed {es : Entries} (hkeys : Answers keyLess es)
    (hparts : ∀ e ∈ es, (∃ d, e.1.digest? = .ok d) ∧ ∃ d, e.2.digest? = .ok d) :
    ∃ d, (Value.map .sealed es).digest? = .ok d := by
  obtain ⟨sorted, hsorted⟩ := exists_sortWith hkeys
  obtain ⟨parts, hdigests⟩ : ∃ parts, sorted.mapM entryDigests = .ok parts := by
    rw [exists_mapM_iff]
    intro e he
    obtain ⟨⟨dk, hk⟩, dv, hv⟩ := hparts e ((perm_of_sortWith hsorted).mem_iff.1 he)
    exact ⟨[dk, dv], by simp only [entryDigests, hk, hv, bind, Except.bind]⟩
  exact ⟨mappingDigest parts.flatten, by
    rw [digest?_sealed, hsorted]; simp only [bind, Except.bind, hdigests]⟩

end Value

namespace Entries

/-- Putting entries into a map keeps what holds of all entries, if it does not depend on the key
being the given one or one that is the same. -/
lemma forall_put {P : Value → Prop} {Q : Value → Prop} {es : Entries} {k v : Value}
    (hes : ∀ e ∈ es, P e.1 ∧ Q e.2) (hk : P k) (hv : Q v) : ∀ e ∈ es.put k v, P e.1 ∧ Q e.2 := by
  induction es with
  | nil => simpa [put] using ⟨hk, hv⟩
  | cons a es ih =>
    rw [List.forall_mem_cons] at hes
    rw [put]
    split
    · exact List.forall_mem_cons.2 ⟨⟨hes.1.1, hv⟩, hes.2⟩
    · exact List.forall_mem_cons.2 ⟨hes.1, ih hes.2⟩

lemma forall_putAll {P : Value → Prop} {Q : Value → Prop} {es new : Entries}
    (hes : ∀ e ∈ es, P e.1 ∧ Q e.2) (hnew : ∀ e ∈ new, P e.1 ∧ Q e.2) :
    ∀ e ∈ es.putAll new, P e.1 ∧ Q e.2 := by
  induction new generalizing es with
  | nil => exact hes
  | cons a new ih =>
    rw [List.forall_mem_cons] at hnew
    exact ih (forall_put hes hnew.1.1 hnew.1.2) hnew.2

lemma forall_ofList {P : Value → Prop} {Q : Value → Prop} {new : Entries}
    (h : ∀ e ∈ new, P e.1 ∧ Q e.2) : ∀ e ∈ ofList new, P e.1 ∧ Q e.2 :=
  forall_putAll (by simp) h

end Entries

lemma SealedMap.entries_of_ofEntries {es : Entries} {m : SealedMap} (h : ofEntries es = .ok m) :
    m.entries = Entries.ofList es := by
  obtain ⟨d, -, heq⟩ := bind_eq_ok.1 h
  obtain rfl := Except.ok.inj heq
  rfl

/-- A sealed map keeps the digest of the contents that it was made with. -/
lemma SealedMap.digest_of_ofEntries {es : Entries} {m : SealedMap} (h : ofEntries es = .ok m) :
    m.toValue.digest? = .ok m.digest := by
  obtain ⟨d, hd, heq⟩ := bind_eq_ok.1 h
  obtain rfl := Except.ok.inj heq
  exact hd

/-- Entries with texts as keys can be sealed if their values have digests. -/
lemma SealedMap.exists_ofEntries {es : Entries}
    (h : ∀ e ∈ es, (∃ s, e.1 = .text s) ∧ ∃ d, e.2.digest? = .ok d) :
    ∃ m, SealedMap.ofEntries es = .ok m := by
  have hall := Entries.forall_ofList (P := fun k => ∃ s, k = .text s)
    (Q := fun v => ∃ d, v.digest? = .ok d) h
  have hkeys : Answers Value.keyLess (Entries.ofList es) := by
    intro a ha b hb
    obtain ⟨s, hs⟩ := (hall a ha).1
    obtain ⟨t, ht⟩ := (hall b hb).1
    exact ⟨_, by rw [Value.keyLess, hs, ht, Value.less?_text]⟩
  obtain ⟨d, hd⟩ := Value.exists_digest_sealed hkeys fun e he => by
    obtain ⟨⟨s, hs⟩, hv⟩ := hall e he
    exact ⟨⟨_, by rw [hs, Value.digest?]⟩, hv⟩
  exact ⟨⟨Entries.ofList es, d⟩, by simp only [SealedMap.ofEntries, hd, bind, Except.bind]⟩

/-! ### Keys with an order -/

namespace Value

open Number

/-- The key is a text, or a plain real number other than a missing one. -/
def isOrderedKey : Value → Bool
  | .text _ | .bool _ | .int _ => true
  | .float x => Quantity.ofDouble x ≠ .missing
  | _ => false

/-- The place of a key in an order of all of them: numbers by their quantities, and texts behind
all numbers. -/
def keyPlace : Value → WithBot (WithTop ℚ) ⊕ₗ String
  | .text s => toLex (.inr s)
  | v => toLex (.inl (v.quantity?.getD .missing).rank)

/-- A plain real number with its quantity. -/
structure IsReal (v : Value) (p : Quantity) : Prop where
  isWhole : v.isWhole = true
  hasCells : v.hasCells = false
  isUndefined : v.isUndefined = false
  quantity : v.quantity? = some p
  complexQuantity : v.complexQuantity? = some (p, .ofInt 0)
  ne_missing : p ≠ .missing
  keyPlace : v.keyPlace = toLex (.inl p.rank)

lemma IsReal.isQuantity {v : Value} {p : Quantity} (h : v.IsReal p) : v.isQuantity = true := by
  rw [Value.isQuantity, h.complexQuantity]
  rfl

lemma orderedKey_cases {k : Value} (h : k.isOrderedKey = true) :
    (∃ s, k = .text s) ∨ ∃ p, k.IsReal p := by
  cases k with
  | text s => exact .inl ⟨s, rfl⟩
  | bool b => exact .inr ⟨_, rfl, rfl, rfl, rfl, rfl, by simp [Quantity.ofInt], rfl⟩
  | int n => exact .inr ⟨_, rfl, rfl, rfl, rfl, rfl, by simp [Quantity.ofInt], rfl⟩
  | float x => exact .inr ⟨_, rfl, rfl, rfl, rfl, rfl, by simpa [isOrderedKey] using h, rfl⟩
  | _ => simp [isOrderedKey] at h

lemma relateWhole_of_isReal {k l : Value} {p q : Quantity} (hk : k.IsReal p) (hl : l.IsReal q)
    (r : Relation) : relateWhole r k l = .ok (.bool (r.holds p q)) := by
  unfold relateWhole
  rw [if_neg (by simp [hk.isUndefined, hl.isUndefined])]
  split
  · exact absurd hl.hasCells (by simp [hasCells])
  · rw [if_neg (by simp [hk.hasCells, hl.hasCells])]
    split
    all_goals try exact absurd hk.quantity (by simp [quantity?])
    rw [hk.quantity, hl.quantity]

/-- Plain real numbers are compared by their places. -/
lemma less?_of_isReal {k l : Value} {p q : Quantity} (hk : k.IsReal p) (hl : l.IsReal q) :
    k.less? l = .ok (decide (k.keyPlace < l.keyPlace)) := by
  have hrelate : k.relate .lt l = .ok (.bool (p.less q)) := by
    rw [relate_of_isWhole hk.isWhole, bare_of_isWhole hl.isWhole, relateWhole_of_isReal hk hl]
    rfl
  rw [less?, hrelate, hk.keyPlace, hl.keyPlace]
  show Except.ok (p.less q) = _
  rw [Quantity.less_eq_rank hk.ne_missing hl.ne_missing]
  simp only [Sum.Lex.toLex_lt_toLex, Sum.lex_inl_inl]

/-- Texts and numbers are not compared. -/
lemma not_less?_text_number {k : Value} {p : Quantity} (hk : k.IsReal p) (s : String) (b : Bool) :
    (Value.text s).less? k ≠ .ok b ∧ k.less? (.text s) ≠ .ok b := by
  have hwhole := hk.isWhole
  have hcells := hk.hasCells
  have hnumber := hk.quantity
  cases k <;> simp [quantity?, hasCells, isWhole] at hwhole hcells hnumber
  all_goals
    simp [less?, relate, relateWhole, isUndefined, hasCells, bare, quantity?, settledEquality,
      Relation.isEquality, bind, Except.bind]

/-- What is said about the order of two such keys is said by their places. -/
lemma eq_of_less? {k l : Value} (hk : k.isOrderedKey = true) (hl : l.isOrderedKey = true) {b : Bool}
    (h : k.less? l = .ok b) : b = decide (k.keyPlace < l.keyPlace) := by
  rcases orderedKey_cases hk with ⟨s, rfl⟩ | ⟨p, hp⟩ <;>
    rcases orderedKey_cases hl with ⟨t, rfl⟩ | ⟨q, hq⟩
  · rw [less?_text] at h
    obtain rfl := Except.ok.inj h
    simp only [keyPlace, Sum.Lex.toLex_lt_toLex, Sum.lex_inr_inr]
  · exact absurd h (not_less?_text_number hq s b).1
  · exact absurd h (not_less?_text_number hp t b).2
  · rw [less?_of_isReal hp hq] at h
    exact (Except.ok.inj h).symm

/-- Such keys are the same key exactly if they have one place. -/
lemma sameKey_iff_keyPlace {k l : Value} (hk : k.isOrderedKey = true)
    (hl : l.isOrderedKey = true) : k.sameKey l = true ↔ k.keyPlace = l.keyPlace := by
  rcases orderedKey_cases hk with ⟨s, rfl⟩ | ⟨p, hp⟩ <;>
    rcases orderedKey_cases hl with ⟨t, rfl⟩ | ⟨q, hq⟩
  · simp [keyPlace]
  · rw [hq.keyPlace, sameKey_of_isQuantity_right hq.isQuantity]
    simp [sameQuantity, complexQuantity?, keyPlace]
  · rw [hp.keyPlace, sameKey_of_isQuantity hp.isQuantity]
    simp [sameQuantity, complexQuantity?, keyPlace]
  · have hzero : (Quantity.ofInt 0).equal (.ofInt 0) = true := by decide
    rw [sameKey_of_isQuantity hp.isQuantity, sameQuantity, hp.complexQuantity, hq.complexQuantity,
      hp.keyPlace, hq.keyPlace]
    simp only [EmbeddingLike.apply_eq_iff_eq, Sum.inl.injEq, hzero, Bool.and_true,
      Quantity.rank_inj hp.ne_missing hq.ne_missing, Quantity.equal_iff hp.ne_missing]

lemma isWhole_of_isOrderedKey {k : Value} (h : k.isOrderedKey = true) : k.isWhole = true := by
  rcases orderedKey_cases h with ⟨s, rfl⟩ | ⟨p, hp⟩
  · rfl
  · exact hp.isWhole

end Value

/-! ### Maps with the same entries -/

/-- All keys have places in the order, and no two are the same key. -/
structure Entries.HasOrderedKeys (es : Entries) : Prop where
  ordered : ∀ e ∈ es, e.1.isOrderedKey = true
  distinct : es.Pairwise fun a b => a.1.sameKey b.1 = false

namespace Entries.HasOrderedKeys

variable {xs ys : Entries}

lemma nodup_places (h : HasOrderedKeys xs) : (xs.map (·.1.keyPlace)).Nodup := by
  rw [List.Nodup, List.pairwise_map]
  refine h.distinct.imp_of_mem fun {a b} ha hb hab heq => ?_
  rw [← Value.sameKey_iff_keyPlace (h.ordered a ha) (h.ordered b hb), hab] at heq
  exact absurd heq (by simp)

lemma sortedBy (h : HasOrderedKeys xs) {sorted : Entries}
    (hsorted : sortWith Value.keyLess xs = .ok sorted) :
    SortedBy (fun e => e.1.keyPlace) xs sorted :=
  sortedBy_sortWith (fun x hx y hy _ hb => Value.eq_of_less? (h.ordered x hx) (h.ordered y hy) hb)
    hsorted

/-- If the keys of a map are those of another one, in whatever sequence and representation, then
sorting brings the same keys to the same positions. -/
lemma map_keyPlace_eq (hxs : HasOrderedKeys xs) (hlength : xs.length = ys.length)
    (h : ∀ x ∈ xs, ∃ y ∈ ys, x.1.keyPlace = y.1.keyPlace) {sx sy : Entries}
    (hsx : SortedBy (fun e => e.1.keyPlace) xs sx) (hsy : SortedBy (fun e => e.1.keyPlace) ys sy) :
    sx.map (·.1.keyPlace) = sy.map (·.1.keyPlace) := by
  have hsubset : xs.map (·.1.keyPlace) ⊆ ys.map (·.1.keyPlace) := by
    intro place hplace
    obtain ⟨x, hx, rfl⟩ := List.mem_map.1 hplace
    obtain ⟨y, hy, hxy⟩ := h x hx
    exact List.mem_map.2 ⟨y, hy, hxy.symm⟩
  have hperm : (xs.map (·.1.keyPlace)).Perm (ys.map (·.1.keyPlace)) :=
    (List.subperm_of_subset hxs.nodup_places hsubset).perm_of_length_le (by simp [hlength])
  have hsorted : (sx.map (·.1.keyPlace)).Perm (sy.map (·.1.keyPlace)) :=
    ((hsx.perm.map _).trans hperm).trans (hsy.perm.map _).symm
  exact hsorted.eq_of_pairwise (fun _ _ _ _ hab hba => le_antisymm hab hba)
    (List.pairwise_map.2 hsx.ascending) (List.pairwise_map.2 hsy.ascending)

end Entries.HasOrderedKeys

namespace Entries

lemma distinct_put {es : Entries} (h : es.keys.Pairwise fun k l => k.sameKey l = false)
    (k v : Value) : (es.put k v).keys.Pairwise fun k l => k.sameKey l = false := by
  rw [keys_put]
  split
  · exact h
  · next hnew =>
    rw [Bool.not_eq_true, has_eq_any_keys, List.any_eq_false] at hnew
    refine List.pairwise_append.2 ⟨h, List.pairwise_singleton _ _, fun l hl m hm => ?_⟩
    obtain rfl : m = k := by simpa using hm
    simpa using hnew l hl

lemma distinct_putAll {es : Entries} (h : es.keys.Pairwise fun k l => k.sameKey l = false)
    (new : Entries) : (es.putAll new).keys.Pairwise fun k l => k.sameKey l = false := by
  induction new generalizing es with
  | nil => exact h
  | cons e new ih => exact ih (distinct_put h e.1 e.2)

/-- A map that is made from entries with ordered keys has each of them once. -/
lemma hasOrderedKeys_ofList {new : Entries} (h : ∀ e ∈ new, e.1.isOrderedKey = true) :
    (ofList new).HasOrderedKeys where
  ordered e he := (forall_ofList (P := fun k => k.isOrderedKey = true) (Q := fun _ => True)
    (fun e he => ⟨h e he, trivial⟩) e he).1
  distinct := by
    have hnil : (keys []).Pairwise fun k l => k.sameKey l = false := List.Pairwise.nil
    exact List.pairwise_map.1 (distinct_putAll hnil new)

end Entries

section Lists

variable {ε α β γ : Type}

lemma forall₂_imp_of_mem {R S : α → β → Prop} {xs : List α} {ys : List β}
    (h : List.Forall₂ R xs ys) (himp : ∀ x ∈ xs, ∀ y ∈ ys, R x y → S x y) :
    List.Forall₂ S xs ys := by
  rw [List.forall₂_iff_zip] at *
  exact ⟨h.1, fun hxy =>
    himp _ (List.of_mem_zip hxy).1 _ (List.of_mem_zip hxy).2 (h.2 hxy)⟩

/-- What an operation makes of two lists, if its results are related member by member. -/
lemma forall₂_of_mapM {f : α → Except ε β} {R : β → β → Prop} {xs ys : List α} {ds es : List β}
    (hds : xs.mapM f = .ok ds) (hes : ys.mapM f = .ok es)
    (h : List.Forall₂ (fun x y => ∀ d e, f x = .ok d → f y = .ok e → R d e) xs ys) :
    List.Forall₂ R ds es := by
  rw [mapM_eq_ok_iff] at hds hes
  induction h generalizing ds es with
  | nil =>
    cases hds
    cases hes
    exact .nil
  | cons hxy _ ih =>
    cases hds with
    | cons hd hds =>
      cases hes with
      | cons he hes => exact .cons (hxy _ _ hd he) (ih hds hes)

end Lists

lemma agreeAll_of_forall₂ {ds es : List Digest}
    (h : List.Forall₂ (fun d e => d.agrees e = true) ds es) : Digest.agreeAll ds es = true := by
  induction h with
  | nil => rfl
  | cons hde _ ih => rw [Digest.agreeAll, hde, ih]; rfl

lemma agrees_mappingDigest {ds es : List Digest}
    (h : List.Forall₂ (fun d e => d.agrees e = true) ds es) :
    (mappingDigest ds).agrees (mappingDigest es) = true := by
  cases h with
  | nil => rfl
  | cons hde hrest =>
    have hall := agreeAll_of_forall₂ (.cons hde hrest)
    simpa [mappingDigest, Digest.agrees] using hall

/-- Two maps of one size have digests that agree if the values in the first one have digests that
agree with those under the same keys in the second one. -/
theorem agrees_digest_sealed {xs ys : Entries} {d e : Digest}
    (hd : (Value.map .sealed xs).digest? = .ok d) (he : (Value.map .sealed ys).digest? = .ok e)
    (hxs : xs.HasOrderedKeys) (hys : ys.HasOrderedKeys) (hlength : xs.length = ys.length)
    (h : ∀ x ∈ xs, ∃ y ∈ ys, x.1.sameKey y.1 = true ∧
      ∀ dx dy, x.2.digest? = .ok dx → y.2.digest? = .ok dy → dx.agrees dy = true) :
    d.agrees e = true := by
  rw [Value.digest?_sealed] at hd he
  obtain ⟨sx, hsx, hd⟩ := bind_eq_ok.1 hd
  obtain ⟨px, hpx, hd⟩ := bind_eq_ok.1 hd
  obtain ⟨sy, hsy, he⟩ := bind_eq_ok.1 he
  obtain ⟨py, hpy, he⟩ := bind_eq_ok.1 he
  obtain rfl := Except.ok.inj hd
  obtain rfl := Except.ok.inj he
  have hplace : ∀ x ∈ xs, ∀ y ∈ ys, (x.1.sameKey y.1 = true ↔ x.1.keyPlace = y.1.keyPlace) :=
    fun x hx y hy => Value.sameKey_iff_keyPlace (hxs.ordered x hx) (hys.ordered y hy)
  have hplaces : sx.map (·.1.keyPlace) = sy.map (·.1.keyPlace) := by
    refine hxs.map_keyPlace_eq hlength (fun x hx => ?_) (hxs.sortedBy hsx) (hys.sortedBy hsy)
    obtain ⟨y, hy, hxy, -⟩ := h x hx
    exact ⟨y, hy, (hplace x hx y hy).1 hxy⟩
  have haligned : List.Forall₂ (fun x y => x.1.keyPlace = y.1.keyPlace) sx sy := by
    rwa [← List.forall₂_eq_eq_eq, List.forall₂_map_left_iff, List.forall₂_map_right_iff] at hplaces
  have hparts : List.Forall₂ (List.Forall₂ fun d e => d.agrees e = true) px py := by
    refine forall₂_of_mapM hpx hpy (forall₂_imp_of_mem haligned fun x hx y hy hxy => ?_)
    have hx := (perm_of_sortWith hsx).mem_iff.1 hx
    have hy := (perm_of_sortWith hsy).mem_iff.1 hy
    -- the entry at the same position is the one that the first one was compared with
    obtain ⟨y', hy', hkey, hvalues⟩ := h x hx
    obtain rfl : y' = y := List.inj_on_of_nodup_map hys.nodup_places hy' hy
      (((hplace x hx y' hy').1 hkey).symm.trans hxy)
    intro dx dy hdx hdy
    obtain ⟨kx, hkx, hdx⟩ := bind_eq_ok.1 hdx
    obtain ⟨vx, hvx, hdx⟩ := bind_eq_ok.1 hdx
    obtain ⟨ky, hky, hdy⟩ := bind_eq_ok.1 hdy
    obtain ⟨vy, hvy, hdy⟩ := bind_eq_ok.1 hdy
    obtain rfl := Except.ok.inj hdx
    obtain rfl := Except.ok.inj hdy
    have hwhole := Value.isWhole_of_isOrderedKey (hxs.ordered x hx)
    exact .cons (Value.digests_agree_of_sameKey hwhole hkey hkx hky)
      (.cons (hvalues vx vy hvx hvy) .nil)
  exact agrees_mappingDigest (List.rel_flatten hparts)

end ShaderLoom
