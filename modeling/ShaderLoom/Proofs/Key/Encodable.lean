import ShaderLoom.Proofs.Key.Request

/-!
# Values that have a key

Not every value has a key. `isEncodable` says which ones do, by looking at all their parts: complex
numbers have none, nor do integers that are too long to be printed, contributions and the values
that only live inside of templates; a map needs keys that can be sorted and are texts, truth values,
numbers of the plain kinds or the absent value. A request has a key exactly when its parts do.
-/

namespace ShaderLoom

namespace Value

/-- Whether the value can be written as the key of a map. -/
def isFieldName : Value → Bool
  | .text _ => true
  | .bool _ => true
  | .null => true
  | .int n => isPrintableInt n
  | .float _ => true
  | .scalar (.double _) => true
  | _ => false

/-- Whether the values have an order by which they can be sorted. -/
def areSortable (vs : List Value) : Bool := (sortByValue id vs).toOption.isSome

mutual

/-- Whether the value has a key. -/
def isEncodable : Value → Bool
  | .null => true
  | .bool _ => true
  | .int n => isPrintableInt n
  | .float _ => true
  | .text _ => true
  | .list xs => allEncodable xs
  | .tuple xs => allEncodable xs
  | .map _ es => areSortable (es.map (·.1)) && entriesEncodable es
  | .scalar _ => true
  | .array _ => true
  | .moduleRef _ => true
  | .functionRef _ => true
  | _ => false

/-- Whether all values have keys. -/
def allEncodable : List Value → Bool
  | [] => true
  | x :: xs => isEncodable x && allEncodable xs

/-- Whether all keys can be written as such, and all values have keys. -/
def entriesEncodable : List (Value × Value) → Bool
  | [] => true
  | (k, v) :: es => isFieldName k && isEncodable v && entriesEncodable es

end

lemma allEncodable_iff {xs : List Value} :
    allEncodable xs = true ↔ ∀ x ∈ xs, x.isEncodable = true := by
  induction xs with
  | nil => simp [allEncodable]
  | cons x xs ih => simp [allEncodable, ih]

lemma exists_mapKeyChars_iff {v : Value} :
    (∃ cs, v.mapKeyChars = .ok cs) ↔ v.isFieldName = true := by
  cases v with
  | int n => by_cases hn : isPrintableInt n = true <;> simp [mapKeyChars, isFieldName, hn]
  | scalar s => cases s <;> simp [mapKeyChars, isFieldName]
  | _ => simp [mapKeyChars, isFieldName]

lemma exists_entryForm_iff {e : Value × Answer KeyForm} :
    (∃ p, entryForm e = .ok p) ↔ e.1.isFieldName = true ∧ ∃ f, e.2 = .ok f := by
  unfold entryForm
  simp only [bind_eq_ok, ← exists_mapKeyChars_iff]
  constructor
  · rintro ⟨_, cs, hcs, f, hf, _⟩
    exact ⟨⟨cs, hcs⟩, f, hf⟩
  · rintro ⟨⟨cs, hcs⟩, f, hf⟩
    exact ⟨(cs, f), cs, hcs, f, hf, rfl⟩

lemma map_fst_keyFormEntries (es : List (Value × Value)) :
    (keyFormEntries es).map (·.1) = es.map (·.1) := by
  induction es with
  | nil => rfl
  | cons e es ih =>
    obtain ⟨k, v⟩ := e
    simp [keyFormEntries, ih]

/-- Entries can be sorted by their keys just if the keys can be sorted. -/
lemma exists_sortByValue_iff {β : Type} {es : List (Value × β)} :
    (∃ sorted, sortByValue (·.1) es = .ok sorted) ↔ areSortable (es.map (·.1)) = true := by
  have hmap : sortByValue id (es.map (·.1)) = (sortByValue (·.1) es).map (List.map (·.1)) :=
    sortWith_map es
  rw [areSortable, hmap]
  cases sortByValue (·.1) es with
  | error f => simp [Except.map, Except.toOption]
  | ok sorted => simp [Except.map, Except.toOption]

mutual

/-- A value has the tree of a key just if it is encodable. -/
theorem exists_keyForm_iff : ∀ v : Value, (∃ f, v.keyForm = .ok f) ↔ v.isEncodable = true
  | .list xs => by
    rw [keyForm, isEncodable, exists_map_iff]
    exact exists_keyFormAll_ok_iff xs
  | .tuple xs => by
    rw [keyForm, isEncodable, exists_map_iff]
    exact exists_keyFormAll_ok_iff xs
  | .map _ es => by
    rw [isEncodable, Bool.and_eq_true, ← exists_keyFormEntries_iff es, ← map_fst_keyFormEntries,
      ← exists_sortByValue_iff]
    simp only [keyForm, bind_eq_ok]
    constructor
    · rintro ⟨f, sorted, hsorted, hfields⟩
      obtain ⟨fields, hfields, -⟩ := map_eq_ok.1 hfields
      refine ⟨⟨sorted, hsorted⟩, fun e he => exists_mapM_iff.1 ⟨fields, hfields⟩ e ?_⟩
      exact (perm_of_sortWith hsorted).mem_iff.2 he
    · rintro ⟨⟨sorted, hsorted⟩, hentries⟩
      obtain ⟨fields, hfields⟩ := exists_mapM_iff.2 fun e he =>
        hentries e ((perm_of_sortWith hsorted).mem_iff.1 he)
      exact ⟨.fields fields, sorted, hsorted, map_eq_ok.2 ⟨fields, hfields, rfl⟩⟩
  | .int n => by
    by_cases hn : isPrintableInt n = true <;> simp [keyForm, isEncodable, hn]
  | .null | .bool _ | .float _ | .text _ | .scalar _ | .array _ | .moduleRef _
  | .functionRef _ => by simp [keyForm, isEncodable]
  | .complex _ _ | .complexScalar _ _ _ | .contribution _ | .range _ _ _ | .view _ _ | .method _ _
  | .undefined _ | .loop _ _ _ | .singular _ _ => by simp [keyForm, isEncodable]

theorem exists_keyFormAll_ok_iff : ∀ xs : List Value,
    (∃ fs, keyFormAll xs = .ok fs) ↔ allEncodable xs = true
  | [] => by simp [keyFormAll, allEncodable]
  | x :: xs => by
    rw [allEncodable, Bool.and_eq_true, ← exists_keyForm_iff x, ← exists_keyFormAll_ok_iff xs]
    simp only [keyFormAll, bind_eq_ok]
    constructor
    · rintro ⟨_, f, hf, fs, hfs, _⟩
      exact ⟨⟨f, hf⟩, fs, hfs⟩
    · rintro ⟨⟨f, hf⟩, fs, hfs⟩
      exact ⟨f :: fs, f, hf, fs, hfs, rfl⟩

theorem exists_keyFormEntries_iff : ∀ es : List (Value × Value),
    (∀ e ∈ keyFormEntries es, ∃ p, entryForm e = .ok p) ↔ entriesEncodable es = true
  | [] => by simp [keyFormEntries, entriesEncodable]
  | (k, v) :: es => by
    rw [keyFormEntries, List.forall_mem_cons, exists_entryForm_iff, entriesEncodable,
      Bool.and_eq_true, Bool.and_eq_true, exists_keyForm_iff v, exists_keyFormEntries_iff es]

end

/-- A value has a key just if it is encodable. -/
theorem exists_keyText_iff (v : Value) : (∃ key, v.keyText = .ok key) ↔ v.isEncodable = true := by
  rw [keyText_eq, exists_map_iff, exists_keyForm_iff]

end Value

end ShaderLoom
