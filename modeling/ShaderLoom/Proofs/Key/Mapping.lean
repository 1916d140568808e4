import Mathlib.Data.String.Basic
import ShaderLoom.Proofs.Entries
import ShaderLoom.Proofs.Key.Request
import ShaderLoom.Proofs.Key.Encodable

/-!
# Keys of maps under texts

The entries of a map whose keys are different texts are sorted by these, so that the key of the map
does not tell their sequence. It tells everything else: two such maps have the same key exactly if
they have the same texts, and values with the same key under the same text (`alike_map_iff`).
-/

namespace ShaderLoom

namespace Value

/-- Entries under texts. -/
def textEntries (ps : List (String × Value)) : Entries := ps.map fun p => (.text p.1, p.2)

/-- The texts of entries with the trees of their values. -/
def trees (ps : List (String × Value)) : List (String × Answer KeyForm) :=
  ps.map fun p => (p.1, p.2.keyForm)

/-- The field for a text with a tree. -/
def fieldOf (x : String × Answer KeyForm) : Answer (List Char × KeyForm) :=
  x.2.map fun f => (x.1.toList, f)

lemma exists_textEntries {es : Entries} (h : ∀ e ∈ es, ∃ s, e.1 = .text s) :
    ∃ ps, es = textEntries ps := by
  induction es with
  | nil => exact ⟨[], rfl⟩
  | cons e es ih =>
    obtain ⟨k, v⟩ := e
    rw [List.forall_mem_cons] at h
    obtain ⟨⟨s, rfl⟩, hrest⟩ := h
    obtain ⟨ps, rfl⟩ := ih hrest
    exact ⟨(s, v) :: ps, rfl⟩

lemma textsDistinct_textEntries {ps : List (String × Value)} :
    (textEntries ps).TextsDistinct ↔ (ps.map Prod.fst).Nodup := by
  have htexts : (textEntries ps).keys.filterMap text? = ps.map Prod.fst := by
    induction ps with
    | nil => rfl
    | cons p ps ih =>
      rw [List.map_cons, ← ih]
      rfl
  rw [Entries.TextsDistinct, htexts]

lemma keyFormEntries_textEntries (ps : List (String × Value)) :
    keyFormEntries (textEntries ps) = (trees ps).map fun x => (.text x.1, x.2) := by
  induction ps with
  | nil => rfl
  | cons p ps ih =>
    rw [trees, List.map_cons, List.map_cons, ← trees, ← ih]
    rfl

lemma map_fst_trees (ps : List (String × Value)) : (trees ps).map Prod.fst = ps.map Prod.fst := by
  simp [trees]

lemma entryForm_text (x : String × Answer KeyForm) : entryForm (.text x.1, x.2) = fieldOf x := by
  obtain ⟨s, a⟩ := x
  cases a <;> rfl

section Map

variable {kind kind' : MapKind} {ps ps' : List (String × Value)}

/-- Entries under texts are sorted by these. -/
lemma sortByValue_trees {sorted : List (Value × Answer KeyForm)}
    (h : sortByValue (·.1) (keyFormEntries (textEntries ps)) = .ok sorted) :
    ∃ xs, sorted = xs.map (fun x => (.text x.1, x.2)) ∧ SortedBy Prod.fst (trees ps) xs := by
  rw [keyFormEntries_textEntries, sortByValue, sortWith_map, map_eq_ok] at h
  obtain ⟨xs, hxs, rfl⟩ := h
  refine ⟨xs, rfl, sortedBy_sortWith (fun x _ y _ b hb => ?_) hxs⟩
  rw [orderOf, less?_text] at hb
  exact (Except.ok.inj hb).symm

lemma mapM_entryForm (xs : List (String × Answer KeyForm)) :
    (xs.map fun x => (Value.text x.1, x.2)).mapM entryForm = xs.mapM fieldOf := by
  rw [List.mapM_map]
  simp only [Function.comp_def, entryForm_text]

/-- The tree of a map holds the trees of its values in the sequence of their texts. -/
lemma exists_fields {f : KeyForm} (h : (Value.map kind (textEntries ps)).keyForm = .ok f) :
    ∃ xs ds, f = .fields ds ∧ SortedBy Prod.fst (trees ps) xs ∧ xs.mapM fieldOf = .ok ds := by
  obtain ⟨sorted, hsorted, hfields⟩ := bind_eq_ok.1 h
  obtain ⟨ds, hds, rfl⟩ := map_eq_ok.1 hfields
  obtain ⟨xs, rfl, hxs⟩ := sortByValue_trees hsorted
  exact ⟨xs, ds, rfl, hxs, (mapM_entryForm xs).symm.trans hds⟩

/-- Texts can be sorted. -/
lemma exists_sortByValue_trees (ps : List (String × Value)) :
    ∃ sorted, sortByValue (·.1) (keyFormEntries (textEntries ps)) = .ok sorted := by
  refine exists_sortWith fun x hx y hy => ?_
  rw [keyFormEntries_textEntries] at hx hy
  obtain ⟨x, -, rfl⟩ := List.mem_map.1 hx
  obtain ⟨y, -, rfl⟩ := List.mem_map.1 hy
  exact ⟨_, less?_text x.1 y.1⟩

/-- A map under texts has a tree just if its values have trees. -/
lemma exists_keyForm_map_iff : (∃ f, (Value.map kind (textEntries ps)).keyForm = .ok f) ↔
    ∀ x ∈ trees ps, ∃ f, x.2 = .ok f := by
  have hfield : ∀ x : String × Answer KeyForm, (∃ d, fieldOf x = .ok d) ↔ ∃ f, x.2 = .ok f :=
    fun x => exists_map_iff
  constructor
  · rintro ⟨f, hf⟩ x hx
    obtain ⟨xs, ds, -, hxs, hds⟩ := exists_fields hf
    exact (hfield x).1 (exists_mapM_iff.1 ⟨ds, hds⟩ x (hxs.perm.mem_iff.2 hx))
  · intro h
    obtain ⟨sorted, hsorted⟩ := exists_sortByValue_trees ps
    obtain ⟨xs, rfl, hxs⟩ := sortByValue_trees hsorted
    obtain ⟨ds, hds⟩ := exists_mapM_iff.2 fun x hx => (hfield x).2 (h x (hxs.perm.mem_iff.1 hx))
    rw [← mapM_entryForm] at hds
    exact ⟨.fields ds, bind_eq_ok.2 ⟨_, hsorted, map_eq_ok.2 ⟨ds, hds, rfl⟩⟩⟩

/-- The same trees under the same texts have one sequence of these only. -/
lemma sortedBy_unique {xs xs' : List (String × Answer KeyForm)}
    (hxs : SortedBy Prod.fst (trees ps) xs) (hxs' : SortedBy Prod.fst (trees ps') xs')
    (hnodup : (ps.map Prod.fst).Nodup) (h : (trees ps).Perm (trees ps')) : xs = xs' := by
  have hperm : xs.Perm xs' := (hxs.perm.trans h).trans hxs'.perm.symm
  have hkeys : (xs.map Prod.fst).Nodup := by
    rw [(hxs.perm.map Prod.fst).nodup_iff, map_fst_trees]
    exact hnodup
  refine hperm.eq_of_pairwise (fun x y hx hy hxy hyx => ?_) hxs.ascending hxs'.ascending
  exact List.inj_on_of_nodup_map hkeys hx (hperm.mem_iff.2 hy) (le_antisymm hxy hyx)

/-- The entries have the same texts, and those under the same text are alike. -/
structure AlikeFields (ps ps' : List (String × Value)) : Prop where
  length_eq : ps.length = ps'.length
  exists_mem : ∀ p ∈ ps, ∃ w, (p.1, w) ∈ ps' ∧ p.2.Alike w

lemma AlikeFields.perm_trees (h : AlikeFields ps ps') (hps : (ps.map Prod.fst).Nodup) :
    (trees ps).Perm (trees ps') := by
  have hnodup : (trees ps).Nodup := List.Nodup.of_map Prod.fst (by rwa [map_fst_trees])
  have hsubset : trees ps ⊆ trees ps' := by
    intro x hx
    obtain ⟨p, hp, rfl⟩ := List.mem_map.1 hx
    obtain ⟨w, hw, f, hf, hwf⟩ := h.exists_mem p hp
    exact List.mem_map.2 ⟨(p.1, w), hw, by rw [hf, hwf]⟩
  refine (List.subperm_of_subset hnodup hsubset).perm_of_length_le ?_
  simp [trees, h.length_eq]

lemma alike_textEntries_iff (hps : (ps.map Prod.fst).Nodup) :
    (Value.map kind (textEntries ps)).Alike (.map kind' (textEntries ps')) ↔
      AlikeFields ps ps' := by
  constructor
  · rintro ⟨f, hf, hf'⟩
    obtain ⟨xs, ds, rfl, hxs, hds⟩ := exists_fields hf
    obtain ⟨xs', ds', heq, hxs', hds'⟩ := exists_fields hf'
    obtain rfl := KeyForm.fields.inj heq
    have hlength : ∀ {ps : List (String × Value)} {xs : List (String × Answer KeyForm)},
        SortedBy Prod.fst (trees ps) xs → xs.mapM fieldOf = .ok ds → ds.length = ps.length := by
      intro ps xs hxs hds
      rw [← (mapM_eq_ok_iff.1 hds).length_eq, hxs.perm.length_eq, trees, List.length_map]
    refine ⟨(hlength hxs hds).symm.trans (hlength hxs' hds'), fun p hp => ?_⟩
    -- the field of an entry is the field of an entry of the other map
    obtain ⟨d, hd, hpd⟩ :=
      exists_mem_of_mapM hds (hxs.perm.mem_iff.2 (List.mem_map.2 ⟨p, hp, rfl⟩))
    obtain ⟨x, hx, hxd⟩ := exists_of_mem_mapM hds' hd
    obtain ⟨p', hp', rfl⟩ := List.mem_map.1 (hxs'.perm.mem_iff.1 hx)
    obtain ⟨g, hg, rfl⟩ := map_eq_ok.1 hpd
    obtain ⟨g', hg', heq⟩ := map_eq_ok.1 hxd
    obtain ⟨hkey, rfl⟩ : p'.1.toList = p.1.toList ∧ g' = g := by simpa using heq
    rw [String.toList_inj] at hkey
    exact ⟨p'.2, by rwa [← hkey], g', hg, hg'⟩
  · intro h
    have hperm := h.perm_trees hps
    have hvalues : ∀ x ∈ trees ps, ∃ f, x.2 = .ok f := by
      intro x hx
      obtain ⟨p, hp, rfl⟩ := List.mem_map.1 hx
      obtain ⟨w, -, f, hf, -⟩ := h.exists_mem p hp
      exact ⟨f, hf⟩
    obtain ⟨f, hf⟩ := (@exists_keyForm_map_iff kind ps).2 hvalues
    obtain ⟨f', hf'⟩ := (@exists_keyForm_map_iff kind' ps').2 fun x hx =>
      hvalues x (hperm.mem_iff.2 hx)
    obtain ⟨xs, ds, rfl, hxs, hds⟩ := exists_fields hf
    obtain ⟨xs', ds', rfl, hxs', hds'⟩ := exists_fields hf'
    obtain rfl := sortedBy_unique hxs hxs' hps hperm
    obtain rfl := Except.ok.inj (hds.symm.trans hds')
    exact ⟨_, hf, hf'⟩

end Map

section Entries

variable {es es' : Entries}

/-- Maps under different texts have the same key exactly if they are alike as mappings. -/
theorem alike_map_iff {kind kind' : MapKind} (htexts : ∀ e ∈ es, ∃ s, e.1 = .text s)
    (htexts' : ∀ e ∈ es', ∃ s, e.1 = .text s) (hdistinct : es.TextsDistinct) :
    (Value.map kind es).Alike (.map kind' es') ↔
      es.length = es'.length ∧ ∀ e ∈ es, ∃ w, (e.1, w) ∈ es' ∧ e.2.Alike w := by
  obtain ⟨ps, rfl⟩ := exists_textEntries htexts
  obtain ⟨ps', rfl⟩ := exists_textEntries htexts'
  have hmem : ∀ p : String × Value, (∃ w, (Value.text p.1, w) ∈ textEntries ps' ∧ p.2.Alike w) ↔
      ∃ w, (p.1, w) ∈ ps' ∧ p.2.Alike w := by
    simp [textEntries]
  rw [alike_textEntries_iff (textsDistinct_textEntries.1 hdistinct)]
  constructor
  · rintro ⟨hlength, hfields⟩
    refine ⟨by simpa [textEntries] using hlength, List.forall_mem_map.2 fun p hp => ?_⟩
    exact (hmem p).2 (hfields p hp)
  · rintro ⟨hlength, hfields⟩
    refine ⟨by simpa [textEntries] using hlength, fun p hp => (hmem p).1 ?_⟩
    exact hfields _ (List.mem_map.2 ⟨p, hp, rfl⟩)

/-- Keys that are texts can be sorted. -/
lemma areSortable_keys (htexts : ∀ e ∈ es, ∃ s, e.1 = .text s) :
    areSortable (es.map (·.1)) = true := by
  obtain ⟨ps, rfl⟩ := exists_textEntries htexts
  rw [← map_fst_keyFormEntries, ← exists_sortByValue_iff]
  exact exists_sortByValue_trees ps

end Entries

end Value

end ShaderLoom
