import ShaderLoom.Proofs.Key.Quoted
import ShaderLoom.Proofs.Key.Word

/-!
# The structure of keys

A key is a tree of words, quoted texts, sequences and fields (`KeyForm`). It can be read in one way
only: two trees with the same text are the same tree (`KeyForm.text_inj`).
-/

namespace ShaderLoom

/-- The structure of a key. -/
inductive KeyForm where
  | word (w : KeyWord)
  /-- A text between double quotes. -/
  | quoted (cs : List Char)
  | sequence (items : List KeyForm)
  /-- Entries under texts. -/
  | fields (entries : List (List Char × KeyForm))

namespace KeyForm

mutual

/-- The characters of a key. -/
def chars : KeyForm → List Char
  | .word w => w.chars
  | .quoted cs => keyQuotedChars cs
  | .sequence items => '[' :: (itemChars items).drop 2 ++ [']']
  | .fields entries => '\x7b' :: (fieldChars entries).drop 2 ++ ['\x7d']

/-- The characters of items, with a comma and a blank in front of each. -/
def itemChars : List KeyForm → List Char
  | [] => []
  | f :: fs => ',' :: ' ' :: chars f ++ itemChars fs

/-- The characters of entries, with a comma and a blank in front of each. -/
def fieldChars : List (List Char × KeyForm) → List Char
  | [] => []
  | (k, f) :: es => ',' :: ' ' :: keyQuotedChars k ++ ':' :: ' ' :: chars f ++ fieldChars es

end

/-- The text of a key. -/
def text (f : KeyForm) : String := String.ofList f.chars

/-- Nothing follows, or a mark. -/
def Closed (cs : List Char) : Prop := ∀ c ∈ cs.head?, isKeyMark c = true

lemma closed_cons {c : Char} {cs : List Char} (h : isKeyMark c = true) : Closed (c :: cs) := by
  intro d hd
  obtain rfl : c = d := by simpa using hd
  exact h

lemma closed_itemChars (fs : List KeyForm) (cs : List Char) :
    Closed (itemChars fs ++ ']' :: cs) := by
  cases fs with
  | nil => exact closed_cons rfl
  | cons f fs =>
    simp only [itemChars, List.cons_append]
    exact closed_cons rfl

lemma closed_fieldChars (es : List (List Char × KeyForm)) (cs : List Char) :
    Closed (fieldChars es ++ '\x7d' :: cs) := by
  cases es with
  | nil => exact closed_cons rfl
  | cons e es =>
    obtain ⟨k, f⟩ := e
    simp only [fieldChars, List.cons_append]
    exact closed_cons rfl

/-! ### The first character -/

/-- The number of the constructor of a key. -/
def kind : KeyForm → ℕ
  | .word _ => 0
  | .quoted _ => 1
  | .sequence _ => 2
  | .fields _ => 3

/-- The constructor of the keys that start with a character; no key starts with another mark. -/
def kindOf? (c : Char) : Option ℕ :=
  if c = '"' then some 1 else if c = '[' then some 2 else if c = '\x7b' then some 3
  else if isKeyMark c then none else some 0

lemma kindOf?_of_clear {c : Char} (h : isKeyMark c = false) : kindOf? c = some 0 := by
  have hne : ∀ d, isKeyMark d = true → c ≠ d := by
    rintro d hd rfl
    exact absurd (hd.symm.trans h) (by decide)
  rw [kindOf?, if_neg (hne _ rfl), if_neg (hne _ rfl), if_neg (hne _ rfl), h]
  rfl

lemma exists_chars_eq_cons (f : KeyForm) :
    ∃ c cs, f.chars = c :: cs ∧ kindOf? c = some f.kind := by
  cases f with
  | word w =>
    obtain ⟨chars, hne, hclear⟩ := w
    cases chars with
    | nil => exact absurd rfl hne
    | cons c cs => exact ⟨c, cs, by simp [KeyForm.chars], kindOf?_of_clear (hclear c (by simp))⟩
  | quoted cs =>
    exact ⟨'"', cs.flatMap keyChar ++ ['"'], by simp [KeyForm.chars, keyQuotedChars], rfl⟩
  | sequence items =>
    exact ⟨'[', (itemChars items).drop 2 ++ [']'], by simp [KeyForm.chars], rfl⟩
  | fields entries =>
    exact ⟨'\x7b', (fieldChars entries).drop 2 ++ ['\x7d'], by simp [KeyForm.chars], rfl⟩

lemma kind_eq_of_append_eq {f g : KeyForm} {xs ys : List Char}
    (h : f.chars ++ xs = g.chars ++ ys) : f.kind = g.kind := by
  obtain ⟨c, cs, hc, hf⟩ := exists_chars_eq_cons f
  obtain ⟨d, ds, hd, hg⟩ := exists_chars_eq_cons g
  rw [hc, hd, List.cons_append, List.cons_append] at h
  rw [(List.cons.inj h).1, hg] at hf
  exact (Option.some.inj hf).symm

lemma chars_append_ne {f : KeyForm} {c : Char} {xs ys : List Char} (hc : kindOf? c = none) :
    f.chars ++ xs ≠ c :: ys := by
  obtain ⟨d, cs, hd, hf⟩ := exists_chars_eq_cons f
  intro h
  rw [hd, List.cons_append] at h
  rw [(List.cons.inj h).1, hc] at hf
  cases hf

lemma word_append_inj {v w : KeyWord} {xs ys : List Char} (hx : Closed xs) (hy : Closed ys)
    (h : v.chars ++ xs = w.chars ++ ys) : v = w ∧ xs = ys := by
  have htake : ∀ (u : KeyWord) (zs : List Char), Closed zs →
      (u.chars ++ zs).takeWhile (fun c => !isKeyMark c) = u.chars := by
    intro u zs hz
    rw [List.takeWhile_append_of_pos fun c hc => by simp [u.clear c hc]]
    cases zs with
    | nil => simp
    | cons z zs => simp [hz z (by simp)]
  have hchars : v.chars = w.chars := by rw [← htake v xs hx, h, htake w ys hy]
  obtain rfl := KeyWord.ext hchars
  exact ⟨rfl, List.append_cancel_left h⟩

/-! ### Reading a key -/

mutual

/-- A key in front of a mark is told apart from what follows. -/
theorem append_inj : ∀ (f g : KeyForm) {xs ys : List Char}, Closed xs → Closed ys →
    f.chars ++ xs = g.chars ++ ys → f = g ∧ xs = ys
  | .word v, .word w, _, _, hx, hy, h => by
    simp only [chars] at h
    obtain ⟨rfl, hrest⟩ := word_append_inj hx hy h
    exact ⟨rfl, hrest⟩
  | .quoted cs, .quoted ds, _, _, _, _, h => by
    simp only [chars] at h
    obtain ⟨rfl, hrest⟩ := keyQuotedChars_append_inj h
    exact ⟨rfl, hrest⟩
  | .sequence [], .sequence [], _, _, _, _, h => ⟨rfl, by simpa [chars, itemChars] using h⟩
  | .sequence [], .sequence (g :: gs), _, _, _, _, h => by
    simp only [chars, itemChars, List.cons_append, List.drop_succ_cons, List.drop_zero,
      List.nil_append, List.append_assoc, List.cons.injEq, true_and] at h
    exact absurd h.symm (chars_append_ne rfl)
  | .sequence (f :: fs), .sequence [], _, _, _, _, h => by
    simp only [chars, itemChars, List.cons_append, List.drop_succ_cons, List.drop_zero,
      List.nil_append, List.append_assoc, List.cons.injEq, true_and] at h
    exact absurd h (chars_append_ne rfl)
  | .sequence (f :: fs), .sequence (g :: gs), _, _, _, _, h => by
    -- what follows the first item starts with a comma or with the closing bracket
    simp only [chars, itemChars, List.cons_append, List.drop_succ_cons, List.drop_zero,
      List.nil_append, List.append_assoc, List.cons.injEq, true_and] at h
    obtain ⟨rfl, htail⟩ := append_inj f g (closed_itemChars fs _) (closed_itemChars gs _) h
    obtain ⟨rfl, hrest⟩ := items_append_inj fs gs htail
    exact ⟨rfl, hrest⟩
  | .fields [], .fields [], _, _, _, _, h => ⟨rfl, by simpa [chars, fieldChars] using h⟩
  | .fields [], .fields ((k, g) :: ds), _, _, _, _, h => by
    simp [chars, fieldChars, keyQuotedChars] at h
  | .fields ((k, f) :: es), .fields [], _, _, _, _, h => by
    simp [chars, fieldChars, keyQuotedChars] at h
  | .fields ((k, f) :: es), .fields ((l, g) :: ds), _, _, _, _, h => by
    simp only [chars, fieldChars, List.cons_append, List.drop_succ_cons, List.drop_zero,
      List.nil_append, List.append_assoc, List.cons.injEq, true_and] at h
    obtain ⟨rfl, hvalue⟩ := keyQuotedChars_append_inj h
    simp only [List.cons.injEq, true_and] at hvalue
    obtain ⟨rfl, htail⟩ := append_inj f g (closed_fieldChars es _) (closed_fieldChars ds _) hvalue
    obtain ⟨rfl, hrest⟩ := fields_append_inj es ds htail
    exact ⟨rfl, hrest⟩
  | .word _, .quoted _, _, _, _, _, h | .word _, .sequence _, _, _, _, _, h
  | .word _, .fields _, _, _, _, _, h | .quoted _, .word _, _, _, _, _, h
  | .quoted _, .sequence _, _, _, _, _, h | .quoted _, .fields _, _, _, _, _, h
  | .sequence _, .word _, _, _, _, _, h | .sequence _, .quoted _, _, _, _, _, h
  | .sequence _, .fields _, _, _, _, _, h | .fields _, .word _, _, _, _, _, h
  | .fields _, .quoted _, _, _, _, _, h | .fields _, .sequence _, _, _, _, _, h =>
    absurd (kind_eq_of_append_eq h) (by simp [kind])

/-- Items in front of a closing bracket are told apart from what follows. -/
theorem items_append_inj : ∀ (fs gs : List KeyForm) {xs ys : List Char},
    itemChars fs ++ ']' :: xs = itemChars gs ++ ']' :: ys → fs = gs ∧ xs = ys
  | [], [], _, _, h => ⟨rfl, by simpa [itemChars] using h⟩
  | [], g :: gs, _, _, h => by simp [itemChars] at h
  | f :: fs, [], _, _, h => by simp [itemChars] at h
  | f :: fs, g :: gs, _, _, h => by
    simp only [itemChars, List.cons_append, List.append_assoc, List.cons.injEq, true_and] at h
    obtain ⟨rfl, htail⟩ := append_inj f g (closed_itemChars fs _) (closed_itemChars gs _) h
    obtain ⟨rfl, hrest⟩ := items_append_inj fs gs htail
    exact ⟨rfl, hrest⟩

/-- Entries in front of a closing brace are told apart from what follows. -/
theorem fields_append_inj : ∀ (es ds : List (List Char × KeyForm)) {xs ys : List Char},
    fieldChars es ++ '\x7d' :: xs = fieldChars ds ++ '\x7d' :: ys → es = ds ∧ xs = ys
  | [], [], _, _, h => ⟨rfl, by simpa [fieldChars] using h⟩
  | [], (k, g) :: ds, _, _, h => by simp [fieldChars] at h
  | (k, f) :: es, [], _, _, h => by simp [fieldChars] at h
  | (k, f) :: es, (l, g) :: ds, _, _, h => by
    simp only [fieldChars, List.cons_append, List.append_assoc, List.cons.injEq, true_and] at h
    obtain ⟨rfl, hvalue⟩ := keyQuotedChars_append_inj h
    simp only [List.cons.injEq, true_and] at hvalue
    obtain ⟨rfl, htail⟩ := append_inj f g (closed_fieldChars es _) (closed_fieldChars ds _) hvalue
    obtain ⟨rfl, hrest⟩ := fields_append_inj es ds htail
    exact ⟨rfl, hrest⟩

end

/-- A key can be read in one way only. -/
theorem text_inj {f g : KeyForm} (h : f.text = g.text) : f = g := by
  have hchars : f.chars ++ [] = g.chars ++ [] := by
    simpa [text] using congrArg String.toList h
  exact (append_inj f g (by simp [Closed]) (by simp [Closed]) hchars).1

end KeyForm

end ShaderLoom
