import ShaderLoom.Proofs.Key.Canonical
import ShaderLoom.Proofs.Key.Mapping

/-!
# What the key of data tells

The key of data tells its canonical form and nothing else: two values have the same key exactly when
their canonical forms are the same, where maps are compared as mappings and everything else as it is
(`keyText_identifies`). Integers that are too long to be printed are the only data without a key.
-/

namespace ShaderLoom

namespace Value

/-! ### The same value -/

mutual

/-- The same value, where the entries of maps may come in any sequence. -/
def Identical : Value → Value → Prop
  | .list xs, w => ∃ ys, w = .list ys ∧ AllIdentical xs ys
  | .map _ es, w => ∃ kind es', w = .map kind es' ∧ es.length = es'.length ∧ EntriesWithin es es'
  | v, w => v = w

/-- The same values, one by one. -/
def AllIdentical : List Value → List Value → Prop
  | [], ys => ys = []
  | x :: xs, ys => ∃ y ys', ys = y :: ys' ∧ Identical x y ∧ AllIdentical xs ys'

/-- Each key stands among the other entries, with the same value. -/
def EntriesWithin : List (Value × Value) → List (Value × Value) → Prop
  | [], _ => True
  | (k, v) :: es, es' => (∃ w, (k, w) ∈ es' ∧ Identical v w) ∧ EntriesWithin es es'

end

/-! ### Basic values -/

mutual

/-- Whether the value is data in canonical form. -/
def isBasic : Value → Bool
  | .null => true
  | .bool _ => true
  | .int _ => true
  | .float _ => true
  | .text _ => true
  | .list xs => allBasic xs
  | .map _ es => decide (Entries.TextsDistinct es) && entriesBasic es
  | _ => false

/-- Whether all values are data in canonical form. -/
def allBasic : List Value → Bool
  | [] => true
  | x :: xs => isBasic x && allBasic xs

/-- Whether all values are data in canonical form under keys that are texts. -/
def entriesBasic : List (Value × Value) → Bool
  | [] => true
  | (k, v) :: es => k.isText && isBasic v && entriesBasic es

end

lemma allBasic_iff {xs : List Value} : allBasic xs = true ↔ ∀ x ∈ xs, x.isBasic = true := by
  induction xs with
  | nil => simp [allBasic]
  | cons x xs ih => simp [allBasic, ih]

lemma entriesBasic_iff {es : List (Value × Value)} :
    entriesBasic es = true ↔ ∀ e ∈ es, (∃ s, e.1 = .text s) ∧ e.2.isBasic = true := by
  have htext : ∀ k : Value, k.isText = true ↔ ∃ s, k = .text s := by
    intro k
    cases k <;> simp [isText]
  induction es with
  | nil => simp [entriesBasic]
  | cons e es ih => simp [entriesBasic, htext, ih]

lemma isBasic_item (s : Scalar) : s.item.isBasic = true := by
  cases s <;> rfl

lemma isBasic_nested {shape : List ℕ} {cells : List Value} (h : ∀ v ∈ cells, v.isBasic = true) :
    (NumericArray.nested shape cells).isBasic = true := by
  induction shape generalizing cells with
  | nil =>
    cases cells with
    | nil => rfl
    | cons v cells => exact h v (by simp)
  | cons n shape ih =>
    cases shape with
    | nil => exact allBasic_iff.2 h
    | cons m shape =>
      refine allBasic_iff.2 (List.forall_mem_map.2 fun row hrow => ih fun v hv => ?_)
      exact h v (subset_of_mem_pieces hrow hv)

mutual

/-- The canonical form of data is data in canonical form. -/
theorem isBasic_canonical : ∀ {v : Value}, v.isData = true → v.canonical.isBasic = true
  | .null, _ | .bool _, _ | .int _, _ | .float _, _ | .text _, _ => rfl
  | .list xs, h => allBasic_canonicalAll h
  | .tuple xs, h => allBasic_canonicalAll h
  | .map _ es, h => by
    simp only [isData, Bool.and_eq_true, decide_eq_true_eq] at h
    have hkeys : Entries.TextsDistinct (canonicalEntries es) := by
      unfold Entries.TextsDistinct Entries.keys
      rw [map_fst_canonicalEntries]
      exact h.1
    simp [canonical, isBasic, hkeys, entriesBasic_canonicalEntries h.2]
  | .scalar s, _ => isBasic_item s
  | .array a, _ => isBasic_nested (List.forall_mem_map.2 fun s _ => isBasic_item s)

theorem allBasic_canonicalAll : ∀ {xs : List Value}, allData xs = true →
    allBasic (canonicalAll xs) = true
  | [], _ => rfl
  | x :: xs, h => by
    rw [allData, Bool.and_eq_true] at h
    simp [canonicalAll, allBasic, isBasic_canonical h.1, allBasic_canonicalAll h.2]

theorem entriesBasic_canonicalEntries : ∀ {es : List (Value × Value)}, entriesData es = true →
    entriesBasic (canonicalEntries es) = true
  | [], _ => rfl
  | (k, v) :: es, h => by
    rw [entriesData, Bool.and_eq_true, Bool.and_eq_true] at h
    simp [canonicalEntries, entriesBasic, h.1.1, isBasic_canonical h.1.2,
      entriesBasic_canonicalEntries h.2]

end

/-! ### Leaves and lists -/

/-- A basic value has the constructor that its tree tells. -/
lemma basic_of_keyForm {v : Value} {f : KeyForm} (hv : v.isBasic = true) (h : v.keyForm = .ok f) :
    match f with
    | .word k => v.leafWord = some k
    | .quoted cs => v = .text (String.ofList cs)
    | .sequence _ => ∃ xs, v = .list xs
    | .fields _ => ∃ kind es, v = .map kind es := by
  cases v with
  | null =>
    obtain rfl := Except.ok.inj h
    rfl
  | bool b =>
    obtain rfl := Except.ok.inj h
    rfl
  | int n =>
    simp only [keyForm] at h
    split at h
    · obtain rfl := Except.ok.inj h
      rfl
    · cases h
  | float x =>
    obtain rfl := Except.ok.inj h
    rfl
  | text s =>
    obtain rfl := Except.ok.inj h
    exact congrArg Value.text String.ofList_toList.symm
  | list xs =>
    obtain ⟨fs, -, rfl⟩ := map_eq_ok.1 h
    exact ⟨xs, rfl⟩
  | map kind es =>
    obtain ⟨sorted, -, hfields⟩ := bind_eq_ok.1 h
    obtain ⟨ds, -, rfl⟩ := map_eq_ok.1 hfields
    exact ⟨kind, es, rfl⟩
  | _ => simp [isBasic] at hv

lemma keyForm_of_leafWord {v : Value} {k : KeyWord} {f : KeyForm} (hv : v.leafWord = some k)
    (h : v.keyForm = .ok f) : f = .word k := by
  cases v with
  | int n =>
    obtain rfl := Option.some.inj hv
    simp only [keyForm] at h
    split at h
    · exact (Except.ok.inj h).symm
    · cases h
  | null | bool b | float x =>
    obtain rfl := Option.some.inj hv
    exact (Except.ok.inj h).symm
  | _ => cases hv

/-- A number, a truth value or the absent value has the key of no other basic value. -/
lemma alike_leaf_iff {v w : Value} {k : KeyWord} (hv : v.leafWord = some k)
    (hw : w.isBasic = true) : v.Alike w ↔ v.isEncodable = true ∧ v = w := by
  constructor
  · rintro ⟨f, hvf, hwf⟩
    obtain rfl := keyForm_of_leafWord hv hvf
    exact ⟨(exists_keyForm_iff v).1 ⟨_, hvf⟩, eq_of_leafWord hv (basic_of_keyForm hw hwf)⟩
  · rintro ⟨hencodable, rfl⟩
    obtain ⟨f, hf⟩ := (exists_keyForm_iff v).2 hencodable
    exact ⟨f, hf, hf⟩

lemma eq_list_of_alike {xs : List Value} {w : Value} (hw : w.isBasic = true)
    (h : (Value.list xs).Alike w) : ∃ ys, w = .list ys := by
  obtain ⟨f, hf, hwf⟩ := h
  obtain ⟨fs, -, rfl⟩ := map_eq_ok.1 hf
  exact basic_of_keyForm hw hwf

lemma eq_map_of_alike {kind : MapKind} {es : List (Value × Value)} {w : Value}
    (hw : w.isBasic = true) (h : (Value.map kind es).Alike w) :
    ∃ kind' es', w = .map kind' es' := by
  obtain ⟨f, hf, hwf⟩ := h
  obtain ⟨sorted, -, hfields⟩ := bind_eq_ok.1 hf
  obtain ⟨ds, -, rfl⟩ := map_eq_ok.1 hfields
  exact basic_of_keyForm hw hwf

/-! ### The key of a basic value -/

mutual

/-- Basic values have the same key exactly if they have one and are the same. -/
theorem alike_iff_identical : ∀ {v w : Value}, v.isBasic = true → w.isBasic = true →
    (v.Alike w ↔ v.isEncodable = true ∧ v.Identical w)
  | .null, w, _, hw => alike_leaf_iff rfl hw
  | .bool b, w, _, hw => alike_leaf_iff rfl hw
  | .int n, w, _, hw => alike_leaf_iff rfl hw
  | .float x, w, _, hw => alike_leaf_iff rfl hw
  | .text s, w, _, _ => (alike_text_iff.trans eq_comm).trans (and_iff_right rfl).symm
  | .list xs, w, hv, hw => by
    constructor
    · intro h
      obtain ⟨ys, rfl⟩ := eq_list_of_alike hw h
      obtain ⟨hencodable, hall⟩ := (forall₂_alike_iff hv hw).1 (alike_list_iff.1 h)
      exact ⟨hencodable, ys, rfl, hall⟩
    · rintro ⟨hencodable, ys, rfl, hall⟩
      exact alike_list_iff.2 ((forall₂_alike_iff hv hw).2 ⟨hencodable, hall⟩)
  | .map kind es, w, hv, hw => by
    simp only [isBasic, Bool.and_eq_true, decide_eq_true_eq] at hv
    have htexts := fun e he => (entriesBasic_iff.1 hv.2 e he).1
    have hiff : ∀ {kind' es'}, (Value.map kind' es').isBasic = true →
        ((Value.map kind es).Alike (.map kind' es') ↔
          es.length = es'.length ∧ entriesEncodable es = true ∧ EntriesWithin es es') := by
      intro kind' es' hw
      have hes' := (Bool.and_eq_true_iff.1 hw).2
      rw [alike_map_iff htexts (fun e he => (entriesBasic_iff.1 hes' e he).1) hv.1,
        entriesWithin_iff hv.2 hes']
    rw [isEncodable, areSortable_keys htexts, Bool.true_and]
    constructor
    · intro h
      obtain ⟨kind', es', rfl⟩ := eq_map_of_alike hw h
      obtain ⟨hlength, hencodable, hwithin⟩ := (hiff hw).1 h
      exact ⟨hencodable, kind', es', rfl, hlength, hwithin⟩
    · rintro ⟨hencodable, kind', es', rfl, hlength, hwithin⟩
      exact (hiff hw).2 ⟨hlength, hencodable, hwithin⟩

theorem forall₂_alike_iff : ∀ {xs ys : List Value}, allBasic xs = true → allBasic ys = true →
    (List.Forall₂ Alike xs ys ↔ allEncodable xs = true ∧ AllIdentical xs ys)
  | [], ys, _, _ => by
    simp [allEncodable, AllIdentical]
  | x :: xs, ys, hxs, hys => by
    rw [allBasic, Bool.and_eq_true] at hxs
    rw [List.forall₂_cons_left_iff, allEncodable, Bool.and_eq_true, AllIdentical]
    constructor
    · rintro ⟨y, ys, hhead, hrest, rfl⟩
      rw [allBasic, Bool.and_eq_true] at hys
      obtain ⟨hx, hxy⟩ := (alike_iff_identical hxs.1 hys.1).1 hhead
      obtain ⟨hall, hidentical⟩ := (forall₂_alike_iff hxs.2 hys.2).1 hrest
      exact ⟨⟨hx, hall⟩, y, ys, rfl, hxy, hidentical⟩
    · rintro ⟨⟨hx, hall⟩, y, ys, rfl, hxy, hidentical⟩
      rw [allBasic, Bool.and_eq_true] at hys
      exact ⟨y, ys, (alike_iff_identical hxs.1 hys.1).2 ⟨hx, hxy⟩,
        (forall₂_alike_iff hxs.2 hys.2).2 ⟨hall, hidentical⟩, rfl⟩

theorem entriesWithin_iff : ∀ {es es' : List (Value × Value)}, entriesBasic es = true →
    entriesBasic es' = true →
    ((∀ e ∈ es, ∃ w, (e.1, w) ∈ es' ∧ e.2.Alike w) ↔
      entriesEncodable es = true ∧ EntriesWithin es es')
  | [], es', _, _ => by
    simp [entriesEncodable, EntriesWithin]
  | (k, v) :: es, es', hes, hes' => by
    rw [entriesBasic, Bool.and_eq_true, Bool.and_eq_true] at hes
    obtain ⟨⟨hk, hv⟩, hrest⟩ := hes
    have hname : k.isFieldName = true := by
      cases k <;> simp_all [isText, isFieldName]
    have hvalue : ∀ w, (k, w) ∈ es' → (v.Alike w ↔ v.isEncodable = true ∧ v.Identical w) :=
      fun w hw => alike_iff_identical hv (entriesBasic_iff.1 hes' _ hw).2
    rw [List.forall_mem_cons, entriesWithin_iff hrest hes', entriesEncodable, hname,
      Bool.true_and, Bool.and_eq_true, EntriesWithin]
    constructor
    · rintro ⟨⟨w, hw, hvw⟩, hall, hwithin⟩
      obtain ⟨hencodable, hidentical⟩ := (hvalue w hw).1 hvw
      exact ⟨⟨hencodable, hall⟩, ⟨w, hw, hidentical⟩, hwithin⟩
    · rintro ⟨⟨hencodable, hall⟩, ⟨w, hw, hidentical⟩, hwithin⟩
      exact ⟨⟨w, hw, (hvalue w hw).2 ⟨hencodable, hidentical⟩⟩, hall, hwithin⟩

end

/-! ### The key of data -/

mutual

/-- Data has a key unless an integer is too long to be printed. -/
theorem isEncodable_eq_isPrintable : ∀ {v : Value}, v.isData = true →
    v.isEncodable = v.isPrintable
  | .null, _ | .bool _, _ | .int _, _ | .float _, _ | .text _, _ | .scalar _, _
  | .array _, _ => rfl
  | .list xs, h => allEncodable_eq_allPrintable h
  | .tuple xs, h => allEncodable_eq_allPrintable h
  | .map _ es, h => by
    have hes : entriesData es = true := (Bool.and_eq_true_iff.1 h).2
    rw [isEncodable, isPrintable, areSortable_keys (entriesData_text hes), Bool.true_and]
    exact entriesEncodable_eq_entriesPrintable hes

theorem allEncodable_eq_allPrintable : ∀ {xs : List Value}, allData xs = true →
    allEncodable xs = allPrintable xs
  | [], _ => rfl
  | x :: xs, h => by
    rw [allData, Bool.and_eq_true] at h
    rw [allEncodable, allPrintable, isEncodable_eq_isPrintable h.1,
      allEncodable_eq_allPrintable h.2]

theorem entriesEncodable_eq_entriesPrintable : ∀ {es : List (Value × Value)},
    entriesData es = true → entriesEncodable es = entriesPrintable es
  | [], _ => rfl
  | (k, v) :: es, h => by
    rw [entriesData, Bool.and_eq_true, Bool.and_eq_true] at h
    obtain ⟨⟨hk, hv⟩, hrest⟩ := h
    cases k with
    | text s =>
      rw [entriesEncodable, entriesPrintable, isEncodable_eq_isPrintable hv,
        entriesEncodable_eq_entriesPrintable hrest]
      rfl
    | _ => cases hk

end

/-- Data has a key unless an integer in it is too long to be printed. Two values that are data have
the same key exactly if they have one and their canonical forms are the same, the entries of maps
in any sequence. -/
theorem keyText_identifies {a b : Value} (ha : a.isData = true) (hb : b.isData = true) :
    ((∃ key, a.keyText = .ok key) ↔ a.isPrintable = true) ∧
      ((∃ key, a.keyText = .ok key ∧ b.keyText = .ok key) ↔
        a.isPrintable = true ∧ a.canonical.Identical b.canonical) := by
  have hform : a.canonical.isEncodable = a.isPrintable := by
    rw [← isEncodable_eq_isPrintable ha, Bool.eq_iff_iff, ← exists_keyForm_iff,
      ← exists_keyForm_iff, keyForm_canonical ha]
  refine ⟨?_, ?_⟩
  · rw [exists_keyText_iff, isEncodable_eq_isPrintable ha]
  · rw [← alike_iff_exists_keyText, ← hform,
      ← alike_iff_identical (isBasic_canonical ha) (isBasic_canonical hb)]
    unfold Alike
    rw [keyForm_canonical ha, keyForm_canonical hb]

/-- A map with a tuple, a fixed-width number and an array of two rows has the key of its canonical
form, also when the entries of that come in another sequence; a list that is turned around has
another key. -/
theorem keyText_of_reordered_map :
    let options : Value := .map .plain
      [(.text "size", .tuple [.int 1, .scalar (.integer .int8 2)]),
        (.text "rows", .array ⟨.truth, [2, 1], [.truth true, .truth false]⟩)]
    let lists : Value := .map .plain
      [(.text "rows", .list [.list [.bool true], .list [.bool false]]),
        (.text "size", .list [.int 1, .int 2])]
    let reversed : Value := .map .plain
      [(.text "rows", .list [.list [.bool true], .list [.bool false]]),
        (.text "size", .list [.int 2, .int 1])]
    options.isData = true ∧ lists.isData = true ∧ reversed.isData = true ∧
      (∃ key, options.keyText = .ok key ∧ lists.keyText = .ok key) ∧
      ¬ ∃ key, options.keyText = .ok key ∧ reversed.keyText = .ok key := by
  intro options lists reversed
  have hoptions : options.isData = true := by decide
  have hlists : lists.isData = true := by decide
  have hreversed : reversed.isData = true := by decide
  refine ⟨hoptions, hlists, hreversed, ?_, fun h => ?_⟩
  · refine (keyText_identifies hoptions hlists).2.2 ⟨by decide, ?_⟩
    simp [options, lists, canonical, canonicalEntries, canonicalAll, Scalar.item,
      NumericArray.toLists, NumericArray.nested, pieces, cellCount, Identical, AllIdentical,
      EntriesWithin]
  · have hidentical := ((keyText_identifies hoptions hreversed).2.1 h).2
    simp [options, reversed, canonical, canonicalEntries, canonicalAll, Scalar.item,
      Identical, AllIdentical, EntriesWithin] at hidentical

end Value

end ShaderLoom
