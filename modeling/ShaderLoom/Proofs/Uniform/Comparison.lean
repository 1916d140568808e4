import ShaderLoom.Proofs.Outcome
import ShaderLoom.Value.Comparison

/-!
# Comparisons of real numbers

Two real numbers have an order, with one exception: an integer that is too large for a float cannot
be compared with a fixed-width float (`relate_real`). Whether a value is equal to a text is decided
for all texts alike (`equal_text_cases`).
-/

namespace ShaderLoom

open Number

/-! ### Operands -/

namespace Operand

/-- The operand is a single number. -/
def IsSingle : Operand → Prop
  | .cells a => ∃ s, a = .ofScalar s
  | _ => True

/-- Whether the operand is an integer that is too large for a float. -/
def isHuge : Operand → Bool
  | .int n => (doubleOfRat n).isInf
  | _ => false

/-- Whether the operand has cells that are floats. -/
def hasFloats : Operand → Bool
  | .cells a => a.cellType.isFloat
  | _ => false

/-- Whether the operand has cells. -/
def hasCells (o : Operand) : Bool := o.cellType?.isSome

/-- Whether one operand is too large for the floats of the other one. -/
def overwhelms (a b : Operand) : Bool := a.isHuge && b.hasFloats || a.hasFloats && b.isHuge

variable {a b : Operand} {t : CellType} {r : Relation}

lemma toArray_of_isHuge (h : a.isHuge = true) (ht : t.isFloat = true) :
    a.toArray t = .error .overflow := by
  cases a with
  | int n =>
    have hinf : (doubleOfRat n).isInf = true := h
    cases t <;> simp_all [CellType.isFloat, toArray, integerCell, bind, Except.bind]
  | _ => simp [isHuge] at h

lemma exists_toArray (ha : a.IsSingle) (h : a.isHuge = false) (ht : t.isFloat = true) :
    ∃ s, a.toArray t = .ok (.ofScalar s) := by
  cases a with
  | cells c =>
    obtain ⟨s, rfl⟩ := ha
    refine ⟨s.convert t, ?_⟩
    cases t <;> rfl
  | int n =>
    have hfinite : (doubleOfRat n).isInf = false := h
    refine ⟨(Scalar.double (doubleOfRat n)).convert t, ?_⟩
    cases t <;> simp_all [CellType.isFloat, toArray, integerCell, bind, Except.bind]
  | truth b => exact ⟨_, rfl⟩
  | real x => exact ⟨_, rfl⟩

lemma exists_exactCells (ha : a.IsSingle) : ∃ q, a.exactCells = ([], [q]) := by
  cases a with
  | cells c =>
    obtain ⟨s, rfl⟩ := ha
    exact ⟨_, rfl⟩
  | _ => exact ⟨_, rfl⟩

/-- One of two operands is too large for the other one if they meet in a type of floats and one of
them is too large for a float. -/
lemma overwhelms_iff (ht : commonType? a b = some t) :
    a.overwhelms b = true ↔ t.isFloat = true ∧ (a.isHuge = true ∨ b.isHuge = true) := by
  have beside : ∀ {t' : CellType}, (if t' = .truth then .integer .int64 else t').isFloat =
      t'.isFloat := by
    intro t'
    cases t' <;> rfl
  cases a with
  | cells c =>
    obtain rfl : b.typeBeside c.cellType = t := by simpa [commonType?, cellType?] using ht
    cases b with
    | int n => simp [overwhelms, isHuge, hasFloats, typeBeside, beside]
    | _ => simp [overwhelms, isHuge]
  | int n =>
    cases b with
    | cells c =>
      obtain rfl : (int n).typeBeside c.cellType = t := by simpa [commonType?, cellType?] using ht
      simp [overwhelms, isHuge, hasFloats, typeBeside, beside, and_comm]
    | _ => simp [commonType?, cellType?] at ht
  | _ =>
    cases b with
    | cells c => simp [overwhelms, isHuge, hasFloats]
    | _ => simp [commonType?, cellType?] at ht

lemma exists_commonType? (h : a.hasCells = true ∨ b.hasCells = true) :
    ∃ t, commonType? a b = some t := by
  cases a <;> cases b <;> simp_all [hasCells, commonType?, cellType?]

/-- Single numbers have an order, unless one of them is too large for the floats of the other
one. -/
lemma exists_relate (ha : a.IsSingle) (hb : b.IsSingle)
    (hcells : a.hasCells = true ∨ b.hasCells = true) (h : a.overwhelms b = false) :
    ∃ c, relate r a b = .ok (.scalar (.truth c)) := by
  obtain ⟨t, ht⟩ := exists_commonType? hcells
  unfold relate
  rw [ht]
  cases hfloat : t.isFloat with
  | true =>
    have hsmall : ¬ (a.isHuge = true ∨ b.isHuge = true) := fun hhuge =>
      absurd ((overwhelms_iff ht).2 ⟨hfloat, hhuge⟩) (by simp [h])
    simp only [not_or, Bool.not_eq_true] at hsmall
    obtain ⟨x, hx⟩ := exists_toArray ha hsmall.1 hfloat
    obtain ⟨y, hy⟩ := exists_toArray hb hsmall.2 hfloat
    refine ⟨r.holds x.quantity y.quantity, ?_⟩
    simp only [hx, hy, hfloat]
    rfl
  | false =>
    obtain ⟨p, hp⟩ := exists_exactCells ha
    obtain ⟨q, hq⟩ := exists_exactCells hb
    refine ⟨r.holds p q, ?_⟩
    simp only [hp, hq, hfloat]
    rfl

lemma relate_of_overwhelms (ha : a.IsSingle) (h : a.overwhelms b = true) :
    relate r a b = .error .overflow := by
  have hcells : a.hasCells = true ∨ b.hasCells = true := by
    cases a <;> cases b <;> simp_all [overwhelms, isHuge, hasFloats, hasCells, cellType?]
  obtain ⟨t, ht⟩ := exists_commonType? hcells
  obtain ⟨hfloat, hhuge⟩ := (overwhelms_iff ht).1 h
  unfold relate
  rw [ht]
  cases hfirst : a.isHuge with
  | true =>
    simp only [hfloat, toArray_of_isHuge hfirst hfloat]
    rfl
  | false =>
    obtain ⟨x, hx⟩ := exists_toArray ha hfirst hfloat
    have hsecond : b.isHuge = true := by simpa [hfirst] using hhuge
    simp only [hfloat, hx, toArray_of_isHuge hsecond hfloat]
    rfl

end Operand

/-! ### Values -/

namespace Value

/-- Whether the value is an integer that is too large for a float. -/
def isHuge : Value → Bool
  | .int n => (doubleOfRat n).isInf
  | .singular _ v => v.isHuge
  | _ => false

/-- Whether the value is a float of fixed width. -/
def isFixedFloat : Value → Bool
  | .scalar s => s.cellType.isFloat
  | _ => false

/-- Whether one value is too large an integer for the fixed width of the other one. -/
def overwhelms (v w : Value) : Bool := v.isHuge && w.isFixedFloat || v.isFixedFloat && w.isHuge

/-- Whether the value is a real number of any representation. -/
def isReal : Value → Bool
  | .bool _ => true
  | .int _ => true
  | .float _ => true
  | .scalar _ => true
  | _ => false

variable {v w : Value} {r : Relation}

lemma isReal_of_isFiniteNumber (h : v.isFiniteNumber = true) : v.isReal = true := by
  cases v <;> simp_all [isFiniteNumber, isReal]

/-- A real number as an operand. -/
lemma exists_operand (h : v.isReal = true) :
    ∃ o : Operand, operandOf v = .ok (some o) ∧ o.IsSingle ∧ o.isHuge = v.isHuge ∧
      o.hasFloats = v.isFixedFloat ∧ o.hasCells = v.hasCells := by
  cases v with
  | bool b => exact ⟨.truth b, rfl, trivial, rfl, rfl, rfl⟩
  | int n => exact ⟨.int n, rfl, trivial, rfl, rfl, rfl⟩
  | float x => exact ⟨.real x, rfl, trivial, rfl, rfl, rfl⟩
  | scalar s => exact ⟨.cells (.ofScalar s), rfl, ⟨s, rfl⟩, rfl, rfl, rfl⟩
  | _ => simp [isReal] at h

lemma isReal_cases (h : v.isReal = true) :
    (∃ b, v = .bool b) ∨ (∃ n, v = .int n) ∨ (∃ x, v = .float x) ∨ ∃ s, v = .scalar s := by
  cases v <;> simp_all [isReal]

lemma relate_of_isReal (h : v.isReal = true) : v.relate r w = relateWhole r v w.bare := by
  rcases isReal_cases h with ⟨b, rfl⟩ | ⟨n, rfl⟩ | ⟨x, rfl⟩ | ⟨s, rfl⟩ <;> simp only [relate]

/-- Plain numbers are compared by their quantities. -/
lemma exists_relateWhole (hv : v.isReal = true) (hw : w.isReal = true)
    (hcells : (v.hasCells || w.hasCells) = false) :
    ∃ p q, v.quantity? = some p ∧ w.quantity? = some q ∧
      relateWhole r v w = .ok (.bool (r.holds p q)) := by
  rcases isReal_cases hv with ⟨b, rfl⟩ | ⟨n, rfl⟩ | ⟨x, rfl⟩ | ⟨s, rfl⟩ <;>
    rcases isReal_cases hw with ⟨b, rfl⟩ | ⟨n, rfl⟩ | ⟨x, rfl⟩ | ⟨s, rfl⟩ <;>
    first
      | exact ⟨_, _, rfl, rfl, rfl⟩
      | simp [hasCells] at hcells

lemma relateWhole_of_hasCells (hv : v.isReal = true) (hw : w.isReal = true)
    (hcells : (v.hasCells || w.hasCells) = true) :
    relateWhole r v w = relateWithCells r v w := by
  rcases isReal_cases hv with ⟨b, rfl⟩ | ⟨n, rfl⟩ | ⟨x, rfl⟩ | ⟨s, rfl⟩ <;>
    rcases isReal_cases hw with ⟨b, rfl⟩ | ⟨n, rfl⟩ | ⟨x, rfl⟩ | ⟨s, rfl⟩ <;>
    first
      | rfl
      | simp [hasCells] at hcells

/-- A relation of real numbers of which one has cells is a relation of operands. -/
lemma exists_relateWithCells (hv : v.isReal = true) (hw : w.isReal = true) :
    ∃ a b : Operand, relateWithCells r v w = Operand.relate r a b ∧ a.IsSingle ∧ b.IsSingle ∧
      a.overwhelms b = v.overwhelms w ∧
      (a.hasCells || b.hasCells) = (v.hasCells || w.hasCells) := by
  obtain ⟨a, hva, ha, hhuge, hfloats, hcells⟩ := exists_operand hv
  obtain ⟨b, hwb, hb, hhuge', hfloats', hcells'⟩ := exists_operand hw
  have notComplex : ∀ {u : Value}, u.isReal = true → u.isComplex = false := by
    intro u hu
    cases u <;> simp_all [isReal, isComplex]
  refine ⟨a, b, ?_, ha, hb, ?_, ?_⟩
  · unfold relateWithCells
    simp only [notComplex hv, notComplex hw, hva, hwb]
    rfl
  · simp only [Operand.overwhelms, overwhelms, hhuge, hhuge', hfloats, hfloats']
  · simp only [hcells, hcells']

/-- What is known about the answer to a relation of two real numbers. -/
structure Decides (r : Relation) (v w : Value) (answer : Bool) : Prop where
  eq_ok : (v.relate r w >>= truth) = .ok answer
  /-- Plain numbers are compared by their quantities. -/
  exact : (v.hasCells || w.bare.hasCells) = false → ∀ p q, v.quantity? = some p →
    w.bare.quantity? = some q → answer = r.holds p q

/-- A real number is too large for the other one, or is compared with it. -/
theorem relate_real (hv : v.isReal = true) (hw : w.bare.isReal = true) :
    v.overwhelms w.bare = true ∧ v.relate r w = .error .overflow ∨
      v.overwhelms w.bare = false ∧ ∃ answer, v.Decides r w answer := by
  rw [relate_of_isReal hv]
  cases hcells : v.hasCells || w.bare.hasCells with
  | true =>
    obtain ⟨a, b, heq, ha, hb, hover, hab⟩ := exists_relateWithCells (r := r) hv hw
    rw [← relateWhole_of_hasCells hv hw hcells] at heq
    rw [heq, ← hover]
    cases h : a.overwhelms b with
    | true => exact .inl ⟨rfl, Operand.relate_of_overwhelms ha h⟩
    | false =>
      obtain ⟨c, hc⟩ := Operand.exists_relate (r := r) ha hb (by simpa [hcells] using hab) h
      refine .inr ⟨rfl, scalarTruth (.truth c), ?_, fun hplain => absurd hplain (by simp [hcells])⟩
      rw [relate_of_isReal hv, heq, hc]
      rfl
  | false =>
    obtain ⟨p, q, hp, hq, heq⟩ := exists_relateWhole (r := r) hv hw hcells
    refine .inr ⟨?_, r.holds p q, ?_, fun _ p' q' hp' hq' => ?_⟩
    · -- what has no cells is no float of fixed width
      have plain : ∀ {u : Value}, u.hasCells = false → u.isFixedFloat = false := by
        intro u hu
        cases u <;> simp_all [hasCells, isFixedFloat]
      simp only [Bool.or_eq_false_iff] at hcells
      simp [overwhelms, plain hcells.1, plain hcells.2]
    · rw [relate_of_isReal hv, heq]
      rfl
    · obtain rfl : p = p' := by simpa [hp] using hp'
      obtain rfl : q = q' := by simpa [hq] using hq'
      rfl

/-! ### Texts -/

lemma truth_uniformTruth (shape : List ℕ) :
    (∃ f, (uniformTruth shape false).truth = .error f) ∨
      (uniformTruth shape false).truth = .ok false := by
  have hcell : ∀ {s : Scalar}, List.replicate (cellCount shape) (Scalar.truth false) = [s] →
      s = .truth false := by
    intro s hs
    exact List.eq_of_mem_replicate (n := cellCount shape) (by simp [hs])
  unfold uniformTruth NumericArray.toValue
  split
  · next s _ hs =>
    obtain rfl := hcell hs
    exact .inr rfl
  · unfold truth
    dsimp only
    split
    · next s hs =>
      obtain rfl := hcell hs
      exact .inr rfl
    · exact .inl ⟨_, rfl⟩

/-- A value without a mark is compared with a text as a whole. -/
lemma equal_text_eq {v : Value} (h : ∀ m w, v ≠ .singular m w) (s : String) :
    v.equal (.text s) = (relateWhole .eq v (.text s) >>= truth) := by
  unfold equal
  cases v with
  | singular m w => exact absurd rfl (h m w)
  | view k owner => cases owner <;> simp only [relate, bare]
  | _ => simp only [relate, bare]

lemma equal_text_cases_of_not_singular {v : Value} (h : ∀ m w, v ≠ .singular m w) :
    (∃ f, ∀ s, v.equal (.text s) = .error f) ∨
      ∃ t? : Option String, ∀ s, v.equal (.text s) = .ok (decide (t? = some s)) := by
  simp only [equal_text_eq h]
  cases v with
  | text t => exact .inr ⟨some t, fun s => by rw [← equal_text_eq h, equal_text]; simp⟩
  | undefined u =>
    obtain ⟨message, lenient⟩ := u
    cases lenient with
    | true => exact .inr ⟨none, fun s => rfl⟩
    | false => exact .inl ⟨_, fun s => rfl⟩
  | array a =>
    have heq : ∀ s, relateWhole .eq (.array a) (.text s) =
        .ok (uniformTruth ((sharedShape? a.shape []).getD []) false) := fun s => rfl
    simp only [heq]
    rcases truth_uniformTruth ((sharedShape? a.shape []).getD []) with ⟨f, hf⟩ | hfalse
    · exact .inl ⟨f, fun s => hf⟩
    · exact .inr ⟨none, fun s => hfalse⟩
  | singular m w => exact absurd rfl (h m w)
  | _ => exact .inr ⟨none, fun s => rfl⟩

/-- Whether a value is equal to a text has no answer for any text, or it is equal to one text at
most. -/
theorem equal_text_cases (v : Value) : (∃ f, ∀ s, v.equal (.text s) = .error f) ∨
    ∃ t? : Option String, ∀ s, v.equal (.text s) = .ok (decide (t? = some s)) := by
  by_cases h : ∃ m w, v = .singular m w
  · obtain ⟨m, w, rfl⟩ := h
    simp only [equal, relate]
    exact equal_text_cases w
  · exact equal_text_cases_of_not_singular (by simpa using h)

end Value

end ShaderLoom
