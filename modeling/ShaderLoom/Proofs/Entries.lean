import Mathlib.Data.List.Induction
import ShaderLoom.Proofs.Agreement
import ShaderLoom.Value.Entries

/-!
# The union of maps

Maps are united by putting the entries of one after the other into the empty map. The union has the
keys of the maps and no others, and under a key it has the value that the last map with that key
has.
-/

namespace ShaderLoom

namespace Entries

/-- The value of the last entry under a key. In a map it is the only one; in a sequence of pairs
there may be others before it. -/
def last? (es : Entries) (k : Value) : Option Value := Entries.get? es.reverse k

/-- The map has the key, as the value itself or as one that is the same key. -/
def Holds (es : Entries) (k : Value) : Prop := ∃ k' ∈ es.keys, k' = k ∨ k'.sameKey k = true

/-- The union of maps, in which later maps win. -/
def union (maps : List Entries) : Entries := ofList maps.flatten

@[simp] lemma union_nil : union [] = [] := rfl

@[simp] lemma union_concat (maps : List Entries) (es : Entries) :
    union (maps ++ [es]) = (union maps).putAll es := by
  simp [union, ofList, putAll_append]

/-! ### Keys -/

@[simp] lemma keys_cons (e : Value × Value) (es : Entries) :
    Entries.keys (e :: es) = e.1 :: es.keys := rfl

@[simp] lemma has_cons (e : Value × Value) (es : Entries) (k : Value) :
    Entries.has (e :: es) k = (e.1.sameKey k || es.has k) := rfl

lemma keys_put (es : Entries) (k v : Value) :
    (es.put k v).keys = if es.has k then es.keys else es.keys ++ [k] := by
  induction es with
  | nil => rfl
  | cons e es ih =>
    by_cases he : e.1.sameKey k = true
    · simp [put, he]
    · rw [put, if_neg he, keys_cons, ih, has_cons, Bool.eq_false_iff.2 he, Bool.false_or]
      split <;> rfl

lemma has_eq_any_keys (es : Entries) (k : Value) : es.has k = es.keys.any (·.sameKey k) := by
  rw [has, keys, List.any_map]
  rfl

/-- The keys that are new go to the end, in the order in which they first appear. -/
lemma keys_putAll (es new : Entries) :
    (es.putAll new).keys =
      es.keys ++ (new.keys.filter (!es.has ·)).eraseDupsBy fun k k' => k'.sameKey k := by
  induction new generalizing es with
  | nil => simp [keys]
  | cons e new ih =>
    rw [putAll_cons, ih, keys_cons, List.filter_cons]
    by_cases he : es.has e.1 = true
    · have hput : ∀ k, (es.put e.1 e.2).has k = es.has k := by
        intro k
        rw [has_eq_any_keys, keys_put, if_pos he, ← has_eq_any_keys]
      simp only [hput, keys_put, he, if_true, Bool.not_true, Bool.false_eq_true, if_false]
    · have hput : ∀ k, (es.put e.1 e.2).has k = (es.has k || e.1.sameKey k) := by
        intro k
        rw [has_eq_any_keys, keys_put, if_neg he]
        simp [has_eq_any_keys]
      rw [Bool.not_eq_true] at he
      simp only [hput, keys_put, he, Bool.not_false, Bool.false_eq_true, if_true, if_false]
      rw [List.eraseDupsBy_cons, List.filter_filter, List.append_assoc, List.singleton_append]
      simp only [Bool.not_or, Bool.and_comm, Bool.decide_eq_false]

lemma keys_union (maps : List Entries) :
    (union maps).keys = (maps.flatMap keys).eraseDupsBy fun k k' => k'.sameKey k := by
  have hkeys : keys maps.flatten = maps.flatMap keys := by
    rw [keys, List.map_flatten, List.flatMap]
    rfl
  rw [union, ofList, keys_putAll, hkeys]
  simp [keys, has]

lemma keys_subset_put (es : Entries) (k v : Value) : es.keys ⊆ (es.put k v).keys := by
  rw [keys_put]
  split
  · exact List.Subset.refl _
  · exact List.subset_append_left _ _

lemma holds_put_self (es : Entries) (k v : Value) : (es.put k v).Holds k := by
  unfold Holds
  rw [keys_put]
  split
  · next hhas =>
    obtain ⟨e, he, hk⟩ := List.any_eq_true.1 hhas
    exact ⟨e.1, List.mem_map_of_mem he, .inr hk⟩
  · exact ⟨k, by simp, .inl rfl⟩

lemma keys_subset_putAll (es new : Entries) : es.keys ⊆ (es.putAll new).keys := by
  induction new generalizing es with
  | nil => exact List.Subset.refl _
  | cons e new ih => exact List.Subset.trans (keys_subset_put es e.1 e.2) (ih _)

lemma holds_putAll {es new : Entries} {k : Value} (h : k ∈ new.keys) :
    (es.putAll new).Holds k := by
  induction new generalizing es with
  | nil => simp [keys] at h
  | cons e new ih =>
    rw [putAll_cons]
    rcases List.mem_cons.1 h with rfl | h
    · obtain ⟨k', hk', hsame⟩ := holds_put_self es e.1 e.2
      exact ⟨k', keys_subset_putAll _ new hk', hsame⟩
    · exact ih h

lemma mem_keys_of_mem_keys_putAll {es new : Entries} {k : Value}
    (h : k ∈ (es.putAll new).keys) : k ∈ es.keys ∨ k ∈ new.keys := by
  induction new generalizing es with
  | nil => exact .inl h
  | cons e new ih =>
    rcases ih h with hput | hnew
    · rw [keys_put] at hput
      split at hput
      · exact .inl hput
      · rcases List.mem_append.1 hput with hes | hk
        · exact .inl hes
        · obtain rfl : k = e.1 := by simpa using hk
          exact .inr (List.mem_cons_self ..)
    · exact .inr (List.mem_cons_of_mem _ hnew)

lemma holds_union {maps : List Entries} {es : Entries} {k : Value} (hes : es ∈ maps)
    (hk : k ∈ es.keys) : (union maps).Holds k := by
  refine holds_putAll ?_
  obtain ⟨e, he, rfl⟩ := List.mem_map.1 hk
  exact List.mem_map_of_mem (List.mem_flatten_of_mem hes he)

/-- The union has no key that is not a key of one of the maps. -/
lemma exists_of_mem_keys_union {maps : List Entries} {k : Value} (h : k ∈ (union maps).keys) :
    ∃ es ∈ maps, k ∈ es.keys := by
  rcases mem_keys_of_mem_keys_putAll h with hnil | hmem
  · simp [keys] at hnil
  · obtain ⟨e, he, rfl⟩ := List.mem_map.1 hmem
    obtain ⟨es, hes, hees⟩ := List.mem_flatten.1 he
    exact ⟨es, hes, List.mem_map_of_mem hees⟩

/-! ### Values -/

section Values

variable {P : Value → Prop} {k : Value}

lemma get?_put (hk : k.IsClassOn P) {es : Entries} (hes : ∀ a ∈ es.keys, P a) {k' : Value}
    (hk' : P k') (v : Value) :
    (es.put k' v).get? k = if k'.sameKey k then some v else es.get? k := by
  induction es with
  | nil => simp [put, get?]
  | cons e es ih =>
    rw [keys_cons, List.forall_mem_cons] at hes
    by_cases he : e.1.sameKey k' = true
    · rw [put, if_pos he, get?_cons, get?_cons, hk.congr hes.1 hk' he]
      split <;> rfl
    · rw [put, if_neg he, get?_cons, get?_cons, ih hes.2]
      -- an entry under the key that is asked for cannot be under the one that is put as well
      by_cases hek : e.1.sameKey k = true
      · have hk'k : ¬ k'.sameKey k = true := fun h => he (hk.common hes.1 hk' hek h)
        rw [if_pos hek, if_pos hek, if_neg hk'k]
      · rw [if_neg hek, if_neg hek]

lemma get?_append (es es' : Entries) :
    Entries.get? (es ++ es') k = (es.get? k).or (es'.get? k) := by
  induction es with
  | nil => rfl
  | cons e es ih =>
    rw [List.cons_append, get?_cons, get?_cons, ih]
    split <;> rfl

lemma get?_putAll (hk : k.IsClassOn P) {es new : Entries} (hes : ∀ a ∈ es.keys, P a)
    (hnew : ∀ a ∈ new.keys, P a) :
    (es.putAll new).get? k = (new.last? k).or (es.get? k) := by
  induction new generalizing es with
  | nil => rfl
  | cons e new ih =>
    rw [keys_cons, List.forall_mem_cons] at hnew
    have hput : ∀ a ∈ (es.put e.1 e.2).keys, P a := by
      intro a ha
      have hkeys : a ∈ es.keys ∨ a ∈ keys [e] := mem_keys_of_mem_keys_putAll ha
      rcases hkeys with ha | ha
      · exact hes a ha
      · obtain rfl : a = e.1 := by simpa [keys] using ha
        exact hnew.1
    rw [putAll_cons, ih hput hnew.2, get?_put hk hes hnew.1, last?, last?, List.reverse_cons,
      get?_append, Option.or_assoc, get?_cons]
    split <;> rfl

lemma isSome_get? (es : Entries) (k : Value) : (es.get? k).isSome = es.has k := by
  induction es with
  | nil => rfl
  | cons e es ih =>
    rw [get?_cons, has_cons, ← ih]
    by_cases he : e.1.sameKey k = true
    · simp [he]
    · simp [he]

lemma last?_eq_none {es : Entries} (h : es.has k = false) : es.last? k = none := by
  have hreverse : Entries.has es.reverse k = false := by
    rw [has, List.any_reverse]
    exact h
  rw [last?, ← Option.not_isSome_iff_eq_none, isSome_get?, hreverse]
  simp

/-- Where no key stands twice, the last entry under a key is the first one. -/
lemma last?_eq_get? (hk : k.IsClassOn P) {es : Entries} (hes : ∀ a ∈ es.keys, P a)
    (hdistinct : es.Pairwise fun a b => a.1.sameKey b.1 = false) : es.last? k = es.get? k := by
  induction es with
  | nil => rfl
  | cons e es ih =>
    rw [keys_cons, List.forall_mem_cons] at hes
    rw [List.pairwise_cons] at hdistinct
    rw [last?, List.reverse_cons, get?_append, ← last?, ih hes.2 hdistinct.2, get?_cons, get?_cons]
    by_cases he : e.1.sameKey k = true
    · have hnone : Entries.get? es k = none := by
        rw [← Option.not_isSome_iff_eq_none, isSome_get?, Bool.not_eq_true, has, List.any_eq_false]
        intro a ha hak
        have hae := hk.common hes.1 (hes.2 _ (List.mem_map_of_mem ha)) he hak
        rw [hdistinct.1 a ha] at hae
        exact absurd hae (by simp)
      simp [he, hnone]
    · simp [he, get?]

/-- Under a key the union has the value that the last map with the key has. -/
lemma get?_union (hk : k.IsClassOn P) {maps : List Entries}
    (hmaps : ∀ es ∈ maps, ∀ a ∈ es.keys, P a) :
    (union maps).get? k = maps.reverse.findSome? (·.last? k) := by
  induction maps using List.reverseRecOn with
  | nil => rfl
  | append_singleton maps es ih =>
    have hfront : ∀ es ∈ maps, ∀ a ∈ es.keys, P a := fun es hes => hmaps es (by simp [hes])
    have hunion : ∀ a ∈ (union maps).keys, P a := by
      intro a ha
      obtain ⟨es, hes, ha⟩ := exists_of_mem_keys_union ha
      exact hfront es hes a ha
    rw [union_concat, get?_putAll hk hunion (hmaps es (by simp)), ih hfront, List.reverse_append,
      List.reverse_singleton, List.singleton_append, List.findSome?_cons]
    cases es.last? k <;> rfl

/-- A map that has the key decides, if no later map has it. -/
lemma get?_union_of_last (hk : k.IsClassOn P) {front behind : List Entries} {es : Entries}
    (hmaps : ∀ es' ∈ front ++ es :: behind, ∀ a ∈ es'.keys, P a)
    (hdistinct : es.Pairwise fun a b => a.1.sameKey b.1 = false) (hhas : es.has k = true)
    (hbehind : ∀ es' ∈ behind, es'.has k = false) :
    (union (front ++ es :: behind)).get? k = es.get? k := by
  have hlast : es.last? k = es.get? k := last?_eq_get? hk (hmaps es (by simp)) hdistinct
  have hnone : behind.reverse.findSome? (·.last? k) = none := by
    rw [List.findSome?_eq_none_iff]
    intro es' hes'
    exact last?_eq_none (hbehind es' (List.mem_reverse.1 hes'))
  obtain ⟨v, hv⟩ : ∃ v, es.get? k = some v := by
    rw [← Option.isSome_iff_exists, isSome_get?, hhas]
  rw [get?_union hk hmaps, List.reverse_append, List.reverse_cons, List.findSome?_append,
    List.findSome?_append, hnone, List.findSome?_singleton, hlast, hv]
  rfl

end Values

/-! ### Text keys -/

/-- No text is a key twice. -/
def TextsDistinct (es : Entries) : Prop := (es.keys.filterMap Value.text?).Nodup

lemma text?_eq_some_iff {v : Value} {s : String} : v.text? = some s ↔ v = .text s := by
  cases v <;> simp [Value.text?]

lemma TextsDistinct.put {es : Entries} (h : es.TextsDistinct) (k v : Value) :
    (es.put k v).TextsDistinct := by
  unfold TextsDistinct
  rw [keys_put]
  split
  · exact h
  · next hhas =>
    rw [List.filterMap_append, List.nodup_append]
    refine ⟨h, ?_, ?_⟩
    · cases hk : k.text? <;> simp [hk]
    · intro s hs s' hs' heq
      subst heq
      obtain ⟨k', hk', htext⟩ := List.mem_filterMap.1 hs
      obtain rfl := text?_eq_some_iff.1 htext
      obtain rfl : k = .text s := by
        cases hk : k.text? with
        | none => simp [hk] at hs'
        | some s' =>
          obtain rfl : s = s' := by simpa [hk] using hs'
          exact text?_eq_some_iff.1 hk
      obtain ⟨e, he, hkey⟩ := List.mem_map.1 hk'
      exact hhas (List.any_eq_true.2 ⟨e, he, sameKey_text_iff.2 hkey⟩)

lemma TextsDistinct.putAll {es : Entries} (h : es.TextsDistinct) (new : Entries) :
    (es.putAll new).TextsDistinct := by
  induction new generalizing es with
  | nil => exact h
  | cons e new ih => exact ih (h.put e.1 e.2)

lemma textsDistinct_ofList (new : Entries) : (ofList new).TextsDistinct :=
  (show TextsDistinct [] from List.nodup_nil).putAll new

lemma TextsDistinct.sublist {es es' : Entries} (h : es.TextsDistinct) (hsub : es'.Sublist es) :
    es'.TextsDistinct :=
  List.Nodup.sublist ((hsub.map Prod.fst).filterMap Value.text?) h

lemma TextsDistinct.of_cons {e : Value × Value} {es : Entries}
    (h : TextsDistinct (e :: es)) : es.TextsDistinct :=
  h.sublist (List.sublist_cons_self e es)

/-- A text that is the first key is no other key. -/
lemma TextsDistinct.ne_of_mem {s : String} {v : Value} {es : Entries}
    (h : TextsDistinct ((.text s, v) :: es)) {e : Value × Value} (he : e ∈ es) :
    e.1 ≠ .text s := by
  intro hkey
  have htexts : (s :: es.keys.filterMap Value.text?).Nodup := h
  refine (List.nodup_cons.1 htexts).1 (List.mem_filterMap.2 ⟨.text s, ?_, rfl⟩)
  exact List.mem_map.2 ⟨e, he, hkey⟩

/-- Only one entry has a text as its key. -/
lemma TextsDistinct.eq_singleton {s : String} {es : Entries} (h : es.TextsDistinct)
    {e : Value × Value} (he : e ∈ es) (hall : ∀ e' ∈ es, e'.1 = .text s) : es = [e] := by
  cases es with
  | nil => simp at he
  | cons e' es =>
    obtain ⟨k, v⟩ := e'
    obtain rfl : k = .text s := hall (k, v) (by simp)
    have hes : es = [] := List.eq_nil_iff_forall_not_mem.2 fun e' he' =>
      h.ne_of_mem he' (hall e' (by simp [he']))
    subst hes
    rw [List.mem_singleton.1 he]

lemma getText?_cons (e : Value × Value) (es : Entries) (s : String) :
    Entries.getText? (e :: es) s = if e.1.sameKey (.text s) then some e.2 else es.getText? s :=
  get?_cons e es (.text s)

/-- The entry under a text is the one that is found. -/
lemma TextsDistinct.mem_iff {es : Entries} (h : es.TextsDistinct) {s : String} {v : Value} :
    (.text s, v) ∈ es ↔ es.getText? s = some v := by
  induction es with
  | nil => simp [getText?, get?]
  | cons e es ih =>
    rw [List.mem_cons, getText?_cons, ih h.of_cons]
    by_cases he : e.1.sameKey (.text s) = true
    · obtain ⟨k, w⟩ := e
      obtain rfl := sameKey_text_iff.1 he
      have hnone : Entries.getText? es s ≠ some v := fun hsome =>
        h.ne_of_mem ((ih h.of_cons).2 hsome) rfl
      simp [hnone, eq_comm]
    · have hne : (.text s, v) ≠ e := fun heq => he (heq ▸ sameKey_text_iff.2 rfl)
      simp [he, hne]

lemma TextsDistinct.last?_eq {es : Entries} (h : es.TextsDistinct) (s : String) :
    es.last? (.text s) = es.getText? s := by
  induction es with
  | nil => rfl
  | cons e es ih =>
    rw [last?, List.reverse_cons, get?_append, ← last?, ih h.of_cons, getText?_cons, get?_cons]
    by_cases he : e.1.sameKey (.text s) = true
    · obtain ⟨k, w⟩ := e
      obtain rfl := sameKey_text_iff.1 he
      have hnone : Entries.getText? es s = none := by
        cases hv : Entries.getText? es s with
        | none => rfl
        | some v => exact absurd rfl (h.ne_of_mem (h.of_cons.mem_iff.2 hv))
      simp [hnone]
    · simp [he, get?]

/-- Under a text the union has the value that the last map with the text has. -/
lemma getText?_union {maps : List Entries} (h : ∀ es ∈ maps, es.TextsDistinct) (s : String) :
    (union maps).getText? s = maps.reverse.findSome? (·.getText? s) := by
  induction maps using List.reverseRecOn with
  | nil => rfl
  | append_singleton maps es ih =>
    rw [union_concat, getText?, get?_putAll (Value.isClassOn_of_isMapFree rfl) (by simp) (by simp),
      (h es (by simp)).last?_eq, ← getText?,
      ih fun es hes => h es (by simp [hes]), List.reverse_append, List.reverse_singleton,
      List.singleton_append, List.findSome?_cons]
    cases es.getText? s <;> rfl

/-! ### Unions -/

/-- The map has the keys of the given maps and no others, and under a key it has the value that the
last of them with the key has. -/
structure IsUnion (es : Entries) (maps : List Entries) : Prop where
  exists_of_mem : ∀ k ∈ es.keys, ∃ new ∈ maps, k ∈ new.keys
  holds : ∀ new ∈ maps, ∀ k ∈ new.keys, es.Holds k
  get?_eq : ∀ k : Value, k.isMapFree = true → es.get? k = maps.reverse.findSome? (·.last? k)

lemma isUnion_union (maps : List Entries) : IsUnion (union maps) maps where
  exists_of_mem _ := exists_of_mem_keys_union
  holds _ hnew _ := holds_union hnew
  get?_eq _ hk := get?_union (Value.isClassOn_of_isMapFree hk) (by simp)

end Entries

end ShaderLoom
