import ShaderLoom.Proofs.Key.Form
import ShaderLoom.Proofs.Outcome
import ShaderLoom.Proofs.Sorting

/-!
# The structure of a value's key

The key of a value is the text of a tree that is made of the value (`keyText_eq`). As a key can be
read in one way only, two values have the same key exactly when they have the same tree
(`keyForm_eq_of_keyText_eq`).
-/

namespace ShaderLoom

open Number Text

/-! ### Trees -/

/-- The tree of an array's nested lists. -/
def arrayKeyForm : List ℕ → List KeyForm → KeyForm
  | [], cells => cells.headD (.word nullWord)
  | [_], cells => .sequence cells
  | n :: shape, cells => .sequence ((pieces (cellCount shape) n cells).map (arrayKeyForm shape))

namespace Value

/-- The text that the key of a map is written as. -/
def mapKeyChars : Value → Answer (List Char)
  | .text s => .ok s.toList
  | .bool b => .ok (truthWord b).chars
  | .null => .ok nullWord.chars
  | .int n => if isPrintableInt n then .ok (intWord n).chars else .error .invalid
  | .float x => .ok (doubleWord x).chars
  | .scalar (.double x) => .ok (doubleWord x).chars
  | _ => .error .unsupported

/-- The entry of a tree for an entry of a map. -/
def entryForm (e : Value × Answer KeyForm) : Answer (List Char × KeyForm) := do
  .ok (← mapKeyChars e.1, ← e.2)

mutual

/-- The tree whose text is the key of a value. -/
def keyForm : Value → Answer KeyForm
  | .null => .ok (.word nullWord)
  | .bool b => .ok (.word (truthWord b))
  | .int n => if isPrintableInt n then .ok (.word (intWord n)) else .error .invalid
  | .float x => .ok (.word (doubleWord x))
  | .text s => .ok (.quoted s.toList)
  | .list xs => (keyFormAll xs).map .sequence
  | .tuple xs => (keyFormAll xs).map .sequence
  | .map _ es => do
    let sorted ← sortByValue (·.1) (keyFormEntries es)
    (sorted.mapM entryForm).map .fields
  | .scalar s => .ok (.word (scalarWord s))
  | .array a => .ok (arrayKeyForm a.shape (a.cells.map fun s => .word (scalarWord s)))
  | .moduleRef m => .ok (.word (identityWord "module@" m.id (by decide)))
  | .functionRef f => .ok (.word (identityWord "function@" f.id (by decide)))
  | _ => .error .unsupported

/-- The trees of the members of a sequence. -/
def keyFormAll : List Value → Answer (List KeyForm)
  | [] => .ok []
  | x :: xs => do
    let f ← keyForm x
    let fs ← keyFormAll xs
    .ok (f :: fs)

/-- The keys of a map with the trees of their values. -/
def keyFormEntries : List (Value × Value) → List (Value × Answer KeyForm)
  | [] => []
  | (k, v) :: rest => (k, keyForm v) :: keyFormEntries rest

end

end Value

namespace KeyForm

/-! ### The text of a tree -/

lemma text_sequence (fs : List KeyForm) :
    joinTexts "" ["[", joinTexts ", " (fs.map text), "]"] = text (.sequence fs) := by
  have hitems : itemChars fs = fs.flatMap fun f => ',' :: ' ' :: f.chars := by
    induction fs with
    | nil => rfl
    | cons f fs ih => simp [itemChars, ih]
  apply String.toList_inj.1
  simp [toList_joinTexts, text, chars, hitems, List.flatMap_map]

lemma text_fields (es : List (List Char × KeyForm)) :
    joinTexts "" ["\x7b", joinTexts ", "
      (es.map fun e => joinTexts ": " [keyQuoted (String.ofList e.1), text e.2]), "\x7d"] =
      text (.fields es) := by
  have hfields : fieldChars es =
      es.flatMap fun e => ',' :: ' ' :: keyQuotedChars e.1 ++ ':' :: ' ' :: e.2.chars := by
    induction es with
    | nil => rfl
    | cons e es ih => simp [fieldChars, ih]
  apply String.toList_inj.1
  simp [toList_joinTexts, text, chars, hfields, List.flatMap_map, toList_keyQuoted]

lemma text_word (w : KeyWord) : text (.word w) = String.ofList w.chars := by
  rw [text, chars]

lemma text_quoted (s : String) : text (.quoted s.toList) = keyQuoted s := by
  apply String.toList_inj.1
  rw [text, chars, toList_keyQuoted, String.toList_ofList]

end KeyForm

/-! ### The key of a value -/

section

variable {ε α β γ : Type}

lemma mapM_map_eq (g : α → Except ε β) (t : β → γ) (xs : List α) :
    (xs.mapM fun x => (g x).map t) = (xs.mapM g).map (List.map t) := by
  induction xs with
  | nil => rfl
  | cons x xs ih =>
    rw [List.mapM_cons, List.mapM_cons, ih]
    cases g x with
    | error e => rfl
    | ok y => cases xs.mapM g <;> rfl

lemma pieces_map (f : α → β) (length count : ℕ) (xs : List α) :
    pieces length count (xs.map f) = (pieces length count xs).map (List.map f) := by
  induction count generalizing xs with
  | zero => rfl
  | succ count ih => simp [pieces, ← ih, List.map_take, List.map_drop]

end

namespace Value

lemma arrayKeyText_eq (shape : List ℕ) (cells : List KeyForm) :
    arrayKeyText shape (cells.map KeyForm.text) = (arrayKeyForm shape cells).text := by
  induction shape generalizing cells with
  | nil =>
    cases cells with
    | nil =>
      rw [arrayKeyForm, List.headD_nil, KeyForm.text_word]
      rfl
    | cons f fs => rfl
  | cons n shape ih =>
    cases shape with
    | nil => exact KeyForm.text_sequence cells
    | cons m shape =>
      have hrows : (pieces (cellCount (m :: shape)) n (cells.map KeyForm.text)).map
          (arrayKeyText (m :: shape)) =
          ((pieces (cellCount (m :: shape)) n cells).map (arrayKeyForm (m :: shape))).map
            KeyForm.text := by
        rw [pieces_map, List.map_map, List.map_map]
        congr 1
        funext piece
        exact ih piece
      rw [arrayKeyText, arrayKeyForm, hrows, KeyForm.text_sequence]
      · simp
      · simp

lemma printedInt_eq (n : ℤ) :
    printedInt n = if isPrintableInt n then .ok (intText n) else .error .invalid := rfl

lemma mapKeyText_eq (v : Value) :
    v.mapKeyText = v.mapKeyChars.map fun cs => keyQuoted (String.ofList cs) := by
  cases v with
  | text s => simp [mapKeyText, mapKeyChars, Except.map]
  | bool b => simp [mapKeyText, mapKeyChars, Except.map, truthWord]
  | null => rfl
  | int n =>
    simp only [mapKeyText, mapKeyChars, printedInt_eq]
    split
    · simp [Except.map, intWord, bind, Except.bind]
    · rfl
  | float x => simp [mapKeyText, mapKeyChars, Except.map, doubleWord]
  | scalar s =>
    cases s with
    | double x => simp [mapKeyText, mapKeyChars, Except.map, doubleWord]
    | single x => rfl
    | integer w n => rfl
    | truth b => rfl
  | complex _ _ | list _ | tuple _ | map _ _ | complexScalar _ _ _ | array _ | moduleRef _
  | functionRef _ | contribution _ | range _ _ _ | view _ _ | method _ _ | undefined _
  | loop _ _ _ | singular _ _ => rfl

lemma mapM_entries (sorted : List (Value × Answer KeyForm)) :
    (sorted.mapM fun e => do .ok (joinTexts ": " [← mapKeyText e.1, ← e.2.map KeyForm.text]) :
      Answer (List String)) =
      (sorted.mapM entryForm).map
        (List.map fun p => joinTexts ": " [keyQuoted (String.ofList p.1), p.2.text]) := by
  rw [← mapM_map_eq]
  congr 1
  funext e
  unfold entryForm
  rw [mapKeyText_eq]
  cases e.1.mapKeyChars with
  | error f => rfl
  | ok cs => cases e.2 <;> rfl

lemma text_scalarWord (s : Scalar) : (KeyForm.word (scalarWord s)).text = scalarKeyText s := by
  rw [KeyForm.text_word]
  cases s <;> simp [scalarWord, scalarKeyText, doubleWord, intWord, truthWord]

lemma text_identityWord (kind : String) (id : ℕ) (h : kind.toList ≠ [] ∧ Clear kind.toList) :
    (KeyForm.word (identityWord kind id h)).text = joinTexts "" [kind, intText id] := by
  apply String.toList_inj.1
  simp [KeyForm.text_word, identityWord, toList_joinTexts]

mutual

/-- The key of a value is the text of its tree. -/
theorem keyText_eq : ∀ v : Value, v.keyText = v.keyForm.map KeyForm.text
  | .null => rfl
  | .bool b => by
    simp only [keyText, keyForm, Except.map, KeyForm.text_word, truthWord, String.ofList_toList]
  | .int n => by
    simp only [keyText, keyForm, printedInt_eq]
    split
    · simp [Except.map, intWord, KeyForm.text_word]
    · rfl
  | .float x => by
    simp only [keyText, keyForm, Except.map, KeyForm.text_word, doubleWord, String.ofList_toList]
  | .text s => by
    simp only [keyText, keyForm, Except.map, KeyForm.text_quoted]
  | .list xs => by
    simp only [keyText, keyForm, keyTextAll_eq xs]
    cases keyFormAll xs with
    | error e => rfl
    | ok fs => exact congrArg Except.ok (KeyForm.text_sequence fs)
  | .tuple xs => by
    simp only [keyText, keyForm, keyTextAll_eq xs]
    cases keyFormAll xs with
    | error e => rfl
    | ok fs => exact congrArg Except.ok (KeyForm.text_sequence fs)
  | .map kind es => by
    have hsorted : sortByValue (·.1) (keyTextEntries es) =
        (sortByValue (·.1) (keyFormEntries es)).map
          (List.map fun e => (e.1, e.2.map KeyForm.text)) := by
      rw [keyTextEntries_eq es]
      exact sortWith_map (keyFormEntries es)
    simp only [keyText, keyForm, hsorted]
    cases sortByValue (·.1) (keyFormEntries es) with
    | error e => rfl
    | ok sorted =>
      show ((List.mapM _ (List.map _ sorted) : Answer (List String)) >>= _) = _
      rw [List.mapM_map]
      show ((sorted.mapM fun e => do .ok (joinTexts ": " [← mapKeyText e.1,
          ← e.2.map KeyForm.text]) : Answer (List String)) >>= _) =
        ((sorted.mapM entryForm).map .fields).map KeyForm.text
      rw [mapM_entries]
      cases sorted.mapM entryForm with
      | error f => rfl
      | ok entries => exact congrArg Except.ok (KeyForm.text_fields entries)
  | .scalar s => by
    simp only [keyText, keyForm, Except.map, text_scalarWord]
  | .array a => by
    have hcells : a.cells.map scalarKeyText =
        (a.cells.map fun s => KeyForm.word (scalarWord s)).map KeyForm.text := by
      rw [List.map_map]
      congr 1
      funext s
      exact (text_scalarWord s).symm
    simp only [keyText, keyForm, Except.map, hcells, arrayKeyText_eq]
  | .moduleRef m => by
    simp only [keyText, keyForm, Except.map, text_identityWord]
  | .functionRef f => by
    simp only [keyText, keyForm, Except.map, text_identityWord]
  | .complex _ _ | .complexScalar _ _ _ | .contribution _ | .range _ _ _ | .view _ _ | .method _ _
  | .undefined _ | .loop _ _ _ | .singular _ _ => rfl

theorem keyTextAll_eq : ∀ xs : List Value,
    keyTextAll xs = (keyFormAll xs).map (List.map KeyForm.text)
  | [] => rfl
  | x :: xs => by
    simp only [keyTextAll, keyFormAll, keyText_eq x, keyTextAll_eq xs]
    cases x.keyForm with
    | error e => rfl
    | ok f =>
      cases keyFormAll xs with
      | error e => rfl
      | ok fs => rfl

theorem keyTextEntries_eq : ∀ es : List (Value × Value),
    keyTextEntries es = (keyFormEntries es).map fun e => (e.1, e.2.map KeyForm.text)
  | [] => rfl
  | (k, v) :: rest => by
    simp only [keyTextEntries, keyFormEntries, List.map_cons, keyText_eq v, keyTextEntries_eq rest]

end

/-- Values with the same key have the same tree. -/
theorem keyForm_eq_of_keyText_eq {v w : Value} {key : String} (hv : v.keyText = .ok key)
    (hw : w.keyText = .ok key) : ∃ f, v.keyForm = .ok f ∧ w.keyForm = .ok f := by
  rw [keyText_eq, map_eq_ok] at hv hw
  obtain ⟨f, hf, hftext⟩ := hv
  obtain ⟨g, hg, hgtext⟩ := hw
  obtain rfl := KeyForm.text_inj (hftext.trans hgtext.symm)
  exact ⟨f, hf, hg⟩

end Value

end ShaderLoom
