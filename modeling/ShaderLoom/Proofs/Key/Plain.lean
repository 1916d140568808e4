import ShaderLoom.Proofs.Key.Reading

/-!
# Values that their keys determine

The key of a value forgets whether a sequence is a list, a tuple or an array, whether a number has a
fixed width, and in which sequence the entries of a map stand. Where there is nothing to forget the
key determines the value: values with the same key are the same value if they are plain and their
sequences are of one kind (`eq_of_keyForm_eq`), and numbers with the same key differ in their width
at most (`withoutWidth_eq`).
-/

namespace ShaderLoom

namespace Value

mutual

/-- Whether the value is made of the absent value, truth values, integers, floats, texts, sequences
of one kind, which are tuples or lists, and maps whose keys are ascending texts. -/
def isPlain (tuples : Bool) : Value → Bool
  | .null => true
  | .bool _ => true
  | .int _ => true
  | .float _ => true
  | .text _ => true
  | .list xs => !tuples && allPlain tuples xs
  | .tuple xs => tuples && allPlain tuples xs
  | .map .plain es => entriesPlain tuples none es
  | _ => false

/-- Whether all values are plain. -/
def allPlain (tuples : Bool) : List Value → Bool
  | [] => true
  | x :: xs => isPlain tuples x && allPlain tuples xs

/-- Whether all entries are plain and their keys are texts that ascend from a text on. -/
def entriesPlain (tuples : Bool) (from? : Option String) : List (Value × Value) → Bool
  | [] => true
  | (.text s, v) :: es =>
    from?.all (· < s) && isPlain tuples v && entriesPlain tuples (some s) es
  | _ => false

end

/-- The sequence of the given kind. -/
def sequenceOf (tuples : Bool) (xs : List Value) : Value := if tuples then .tuple xs else .list xs

variable {tuples : Bool}

/-- The value without the width of its number. A single stays as it is, since nothing is known here
about how it is widened. -/
def withoutWidth : Value → Value
  | .scalar (.double x) => .float x
  | .scalar (.integer _ n) => .int n
  | .scalar (.truth b) => .bool b
  | v => v

lemma withoutWidth_of_isPlain {v : Value} (h : v.isPlain tuples = true) : v.withoutWidth = v := by
  cases v with
  | scalar s => simp [isPlain] at h
  | _ => rfl

/-! ### Leaves -/

/-- The word of a number, a truth value or the absent value. -/
def leafWord : Value → Option KeyWord
  | .null => some nullWord
  | .bool b => some (truthWord b)
  | .int n => some (intWord n)
  | .float x => some (doubleWord x)
  | _ => none

/-- What the word of a value stands for. -/
def leafKind : Value → ℕ
  | .null => 0
  | .bool b => if b then 1 else 2
  | .int _ => 3
  | .float _ => 4
  | _ => 5

lemma wordKind_of_leafWord {v : Value} {k : KeyWord} (h : v.leafWord = some k) :
    wordKind k.chars = v.leafKind := by
  cases v with
  | null =>
    obtain rfl := Option.some.inj h
    exact wordKind_null
  | bool b =>
    obtain rfl := Option.some.inj h
    exact wordKind_truth b
  | int n =>
    obtain rfl := Option.some.inj h
    exact wordKind_int n
  | float x =>
    obtain rfl := Option.some.inj h
    exact wordKind_double x
  | _ => cases h

/-- A word tells the value that it stands for. -/
theorem eq_of_leafWord {v w : Value} {k : KeyWord} (hv : v.leafWord = some k)
    (hw : w.leafWord = some k) : v = w := by
  have hkind : v.leafKind = w.leafKind :=
    (wordKind_of_leafWord hv).symm.trans (wordKind_of_leafWord hw)
  -- the words are of one kind, so that the values have the same constructor
  cases v with
  | null =>
    cases w with
    | null => rfl
    | bool b => cases b <;> cases hkind
    | int n => cases hkind
    | float x => cases hkind
    | _ => cases hw
  | bool b =>
    cases w with
    | bool c => cases b <;> cases c <;> first | rfl | cases hkind
    | null => cases b <;> cases hkind
    | int n => cases b <;> cases hkind
    | float x => cases b <;> cases hkind
    | _ => cases hw
  | int n =>
    cases w with
    | int m =>
      have hchars : (intWord n).chars = (intWord m).chars :=
        congrArg KeyWord.chars (Option.some.inj (hv.trans hw.symm))
      rw [intText_inj (String.toList_inj.1 hchars)]
    | null => cases hkind
    | bool b => cases b <;> cases hkind
    | float x => cases hkind
    | _ => cases hw
  | float x =>
    cases w with
    | float y =>
      have hchars : (doubleWord x).chars = (doubleWord y).chars :=
        congrArg KeyWord.chars (Option.some.inj (hv.trans hw.symm))
      rw [keyDouble_inj (String.toList_inj.1 hchars)]
    | null => cases hkind
    | bool b => cases b <;> cases hkind
    | int n => cases hkind
    | _ => cases hw
  | _ => cases hv

/-! ### Maps -/

lemma less?_text (s t : String) : (Value.text s).less? (.text t) = .ok (decide (s < t)) := by
  by_cases h : s < t <;>
    simp [less?, relate, relateWhole, isUndefined, hasCells, truth, bare, bind, Except.bind, h]

/-- The keys of plain entries are ascending. -/
lemma rises_keyFormEntries {es : Entries} {from? : Option String}
    (h : entriesPlain tuples from? es = true) :
    Rises (fun x y : Value × Answer KeyForm => x.1.less? y.1) (keyFormEntries es) ∧
      ∀ e ∈ (keyFormEntries es).head?, ∃ t, e.1 = .text t ∧ from?.all (· < t) = true := by
  induction es generalizing from? with
  | nil => exact ⟨List.IsChain.nil, by simp [keyFormEntries]⟩
  | cons e es ih =>
    obtain ⟨k, v⟩ := e
    cases k with
    | text s =>
      simp only [entriesPlain, Bool.and_eq_true] at h
      obtain ⟨⟨hfrom, hv⟩, hrest⟩ := h
      obtain ⟨hrises, hhead⟩ := ih hrest
      refine ⟨?_, fun e he => ⟨s, ?_, hfrom⟩⟩
      · -- the next key, if there is one, is greater
        unfold Rises
        rw [keyFormEntries, List.isChain_cons]
        refine ⟨fun e he => ?_, hrises⟩
        obtain ⟨t, ht, hlt⟩ := hhead e he
        have hst : s < t := by simpa using hlt
        show e.1.less? (.text s) = .ok false
        rw [ht, less?_text, decide_eq_false (Std.Asymm.asymm _ _ hst)]
      · obtain rfl : (Value.text s, v.keyForm) = e := by simpa [keyFormEntries] using he
        rfl
    | _ => simp [entriesPlain] at h

lemma keyForm_map_plain {es : Entries} (h : entriesPlain tuples none es = true) :
    (Value.map .plain es).keyForm = ((keyFormEntries es).mapM entryForm).map .fields := by
  have hsorted : sortByValue (·.1) (keyFormEntries es) = .ok (keyFormEntries es) :=
    sortWith_of_rises (rises_keyFormEntries h).1
  simp only [keyForm, hsorted]
  rfl

/-! ### The value of a tree -/

/-- A value that is told by a tree, apart from what its members are. -/
def FitsForm (tuples : Bool) (v : Value) : KeyForm → Prop
  | .word k => v.leafWord = some k
  | .quoted cs => v = .text (String.ofList cs)
  | .sequence fs =>
    ∃ xs, v = sequenceOf tuples xs ∧ allPlain tuples xs = true ∧ keyFormAll xs = .ok fs
  | .fields ds =>
    ∃ es, v = .map .plain es ∧ entriesPlain tuples none es = true ∧
      (keyFormEntries es).mapM entryForm = .ok ds

lemma fitsForm_of_keyForm {v : Value} {f : KeyForm} (hplain : v.withoutWidth.isPlain tuples = true)
    (h : v.keyForm = .ok f) : v.withoutWidth.FitsForm tuples f := by
  cases v with
  | null =>
    obtain rfl := Except.ok.inj h
    rfl
  | bool b =>
    obtain rfl := Except.ok.inj h
    rfl
  | int n =>
    simp only [keyForm] at h
    split at h
    · obtain rfl := Except.ok.inj h
      rfl
    · cases h
  | float x =>
    obtain rfl := Except.ok.inj h
    rfl
  | text s =>
    obtain rfl := Except.ok.inj h
    show Value.text s = .text (String.ofList s.toList)
    rw [String.ofList_toList]
  | list xs =>
    obtain ⟨fs, hfs, rfl⟩ := map_eq_ok.1 h
    simp only [withoutWidth, isPlain, Bool.and_eq_true, Bool.not_eq_true'] at hplain
    obtain ⟨rfl, hxs⟩ := hplain
    exact ⟨xs, rfl, hxs, hfs⟩
  | tuple xs =>
    obtain ⟨fs, hfs, rfl⟩ := map_eq_ok.1 h
    simp only [withoutWidth, isPlain, Bool.and_eq_true] at hplain
    obtain ⟨rfl, hxs⟩ := hplain
    exact ⟨xs, rfl, hxs, hfs⟩
  | map kind es =>
    cases kind with
    | plain =>
      have hes : entriesPlain tuples none es = true := hplain
      rw [keyForm_map_plain hes, map_eq_ok] at h
      obtain ⟨ds, hds, rfl⟩ := h
      exact ⟨es, rfl, hes, hds⟩
    | _ => simp [withoutWidth, isPlain] at hplain
  | scalar s =>
    obtain rfl := Except.ok.inj h
    cases s with
    | single x => simp [withoutWidth, isPlain] at hplain
    | _ => rfl
  | _ => simp [withoutWidth, isPlain] at hplain

lemma fitsForm_of_isPlain {v : Value} {f : KeyForm} (hplain : v.isPlain tuples = true)
    (h : v.keyForm = .ok f) : v.FitsForm tuples f := by
  have hwidth := withoutWidth_of_isPlain hplain
  have hfits := fitsForm_of_keyForm (by rwa [hwidth]) h
  rwa [hwidth] at hfits

lemma eq_nil_of_keyFormAll {xs : List Value} (h : keyFormAll xs = .ok []) : xs = [] := by
  cases xs with
  | nil => rfl
  | cons x xs => simp [keyFormAll, bind_eq_ok] at h

lemma exists_of_keyFormAll_eq_cons {xs : List Value} {f : KeyForm} {fs : List KeyForm}
    (h : keyFormAll xs = .ok (f :: fs)) :
    ∃ y ys, xs = y :: ys ∧ y.keyForm = .ok f ∧ keyFormAll ys = .ok fs := by
  cases xs with
  | nil => simp [keyFormAll] at h
  | cons y ys =>
    simp only [keyFormAll, bind_eq_ok, Except.ok.injEq, List.cons.injEq] at h
    obtain ⟨_, hf, _, hfs, rfl, rfl⟩ := h
    exact ⟨y, ys, rfl, hf, hfs⟩

lemma eq_nil_of_keyFormEntries {es : Entries}
    (h : (keyFormEntries es).mapM entryForm = .ok []) : es = [] := by
  cases es with
  | nil => rfl
  | cons e es =>
    rw [keyFormEntries, mapM_eq_ok_iff] at h
    cases h

/-- The first of plain entries whose trees are given. -/
lemma exists_of_keyFormEntries_eq_cons {es : Entries} {from? : Option String}
    {d : List Char × KeyForm} {ds : List (List Char × KeyForm)}
    (hplain : entriesPlain tuples from? es = true)
    (h : (keyFormEntries es).mapM entryForm = .ok (d :: ds)) :
    ∃ v rest, es = (.text (String.ofList d.1), v) :: rest ∧ v.isPlain tuples = true ∧
      v.keyForm = .ok d.2 ∧ entriesPlain tuples (some (String.ofList d.1)) rest = true ∧
      (keyFormEntries rest).mapM entryForm = .ok ds := by
  cases es with
  | nil => cases h
  | cons e es =>
    obtain ⟨k, v⟩ := e
    cases k with
    | text s =>
      obtain ⟨cs, f⟩ := d
      simp only [entriesPlain, Bool.and_eq_true] at hplain
      rw [keyFormEntries, mapM_eq_ok_iff, List.forall₂_cons, ← mapM_eq_ok_iff] at h
      simp only [entryForm, mapKeyChars, bind_eq_ok, Except.ok.injEq, Prod.mk.injEq] at h
      obtain ⟨⟨_, rfl, _, hf, rfl, rfl⟩, hds⟩ := h
      refine ⟨v, es, ?_, hplain.1.2, hf, ?_, hds⟩
      · rw [String.ofList_toList]
      · rw [String.ofList_toList]
        exact hplain.2
    | _ => simp [entriesPlain] at hplain

mutual

/-- A tree tells the value that it fits. -/
theorem eq_of_fitsForm : ∀ (f : KeyForm) {v w : Value}, v.FitsForm tuples f →
    w.FitsForm tuples f → v = w
  | .word k, v, w, hv, hw => eq_of_leafWord hv hw
  | .quoted cs, v, w, hv, hw => hv.trans hw.symm
  | .sequence fs, v, w, hv, hw => by
    obtain ⟨xs, rfl, hxs, hfs⟩ := hv
    obtain ⟨ys, rfl, hys, hgs⟩ := hw
    rw [eq_of_keyFormAll_eq fs hxs hys hfs hgs]
  | .fields ds, v, w, hv, hw => by
    obtain ⟨es, rfl, hes, hds⟩ := hv
    obtain ⟨es', rfl, hes', hds'⟩ := hw
    rw [eq_of_keyFormEntries_eq ds hes hes' hds hds']

/-- Plain values with the same trees are the same. -/
theorem eq_of_keyFormAll_eq : ∀ (fs : List KeyForm) {xs ys : List Value},
    allPlain tuples xs = true → allPlain tuples ys = true → keyFormAll xs = .ok fs →
    keyFormAll ys = .ok fs → xs = ys
  | [], xs, ys, _, _, hx, hy => by
    rw [eq_nil_of_keyFormAll hx, eq_nil_of_keyFormAll hy]
  | f :: fs, xs, ys, hxs, hys, hx, hy => by
    obtain ⟨x, xs, rfl, hf, hfs⟩ := exists_of_keyFormAll_eq_cons hx
    obtain ⟨y, ys, rfl, hg, hgs⟩ := exists_of_keyFormAll_eq_cons hy
    simp only [allPlain, Bool.and_eq_true] at hxs hys
    have hhead : x = y :=
      eq_of_fitsForm f (fitsForm_of_isPlain hxs.1 hf) (fitsForm_of_isPlain hys.1 hg)
    rw [hhead, eq_of_keyFormAll_eq fs hxs.2 hys.2 hfs hgs]

/-- Plain entries with the same trees are the same. -/
theorem eq_of_keyFormEntries_eq : ∀ (ds : List (List Char × KeyForm)) {es es' : Entries}
    {from? from?' : Option String}, entriesPlain tuples from? es = true →
    entriesPlain tuples from?' es' = true → (keyFormEntries es).mapM entryForm = .ok ds →
    (keyFormEntries es').mapM entryForm = .ok ds → es = es'
  | [], es, es', _, _, _, _, h, h' => by
    rw [eq_nil_of_keyFormEntries h, eq_nil_of_keyFormEntries h']
  | (cs, f) :: ds, es, es', _, _, hes, hes', h, h' => by
    obtain ⟨v, rest, rfl, hv, hvf, hrest, hds⟩ := exists_of_keyFormEntries_eq_cons hes h
    obtain ⟨w, rest', rfl, hw, hwf, hrest', hds'⟩ := exists_of_keyFormEntries_eq_cons hes' h'
    have hhead : v = w := eq_of_fitsForm f (fitsForm_of_isPlain hv hvf) (fitsForm_of_isPlain hw hwf)
    rw [hhead, eq_of_keyFormEntries_eq ds hrest hrest' hds hds']

end

/-- Plain values with the same tree are the same, apart from the widths of numbers. -/
theorem withoutWidth_eq {v w : Value} {f : KeyForm} (hv : v.withoutWidth.isPlain tuples = true)
    (hw : w.withoutWidth.isPlain tuples = true) (hvf : v.keyForm = .ok f)
    (hwf : w.keyForm = .ok f) : v.withoutWidth = w.withoutWidth :=
  eq_of_fitsForm f (fitsForm_of_keyForm hv hvf) (fitsForm_of_keyForm hw hwf)

/-- Plain values with the same tree are the same. -/
theorem eq_of_keyForm_eq {v w : Value} {f : KeyForm} (hv : v.isPlain tuples = true)
    (hw : w.isPlain tuples = true) (hvf : v.keyForm = .ok f) (hwf : w.keyForm = .ok f) : v = w :=
  eq_of_fitsForm f (fitsForm_of_isPlain hv hvf) (fitsForm_of_isPlain hw hwf)

end Value

end ShaderLoom
