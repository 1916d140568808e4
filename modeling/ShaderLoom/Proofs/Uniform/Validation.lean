import ShaderLoom.Proofs.Entries
import ShaderLoom.Proofs.Injection.Slots
import ShaderLoom.Proofs.Uniform.Comparison

/-!
# Validation of uniforms

A value for a uniform is accepted in the form that shaders get (`Uniform.Accepts`), or it is refused
as a value that cannot be accepted. There is a third way for a check to end: an integer that is too
large for a float can neither become a cell of an array nor be compared with a float of fixed width,
and meeting one is no refusal (`Uniform.Overflows`). A `Verdict` names the way that a check ends,
and verdicts are composed as the checks are. The verdict on a value (`verdict_validate`) extends to
all uniforms of a module by induction (`verdict_mapM`), so that the uniforms are computed or refused
just if no such integer is met before something else is refused (`computeUniforms_total_iff`).
-/

namespace ShaderLoom

open Number

/-! ### Verdicts -/

/-- How a check ends: with the only value that it accepts, with a refusal, or with an overflow. -/
inductive Verdict {α : Type} (accepts : α → Prop) (overflows : Prop) : Result α → Prop where
  | accepted {a : α} (h : ∀ b, accepts b ↔ b = a) (hsmall : ¬overflows) :
    Verdict accepts overflows (.ok a)
  | refused {f : Failure} (hf : f.settled.kind = .value) (h : ∀ b, ¬accepts b)
    (hsmall : ¬overflows) : Verdict accepts overflows (.error f)
  | overflown (h : ∀ b, ¬accepts b) (hlarge : overflows) :
    Verdict accepts overflows (.error (.fault .overflow))

namespace Verdict

variable {α β : Type} {P P' : α → Prop} {O O' : Prop} {x : Result α} {k : α → Result β}

lemma congr (h : Verdict P O x) (hP : ∀ a, P a ↔ P' a) (hO : O ↔ O') : Verdict P' O' x := by
  cases h with
  | accepted h hsmall =>
    exact .accepted (fun b => by rw [← hP, h]) (by rwa [← hO])
  | refused hf h hsmall =>
    exact .refused hf (fun b => by rw [← hP]; exact h b) (by rwa [← hO])
  | overflown h hlarge =>
    exact .overflown (fun b => by rw [← hP]; exact h b) (hO.1 hlarge)

/-- A check that follows another one is made if the first one accepts. -/
lemma bind {R : α → β → Prop} {O' : α → Prop} (hx : Verdict P O x)
    (hk : ∀ a, P a → Verdict (R a) (O' a) (k a)) :
    Verdict (fun b => ∃ a, P a ∧ R a b) (O ∨ ∃ a, P a ∧ O' a) (x >>= k) := by
  cases hx with
  | @accepted a h hsmall =>
    have hone : ∀ p : α → Prop, (∃ a, P a ∧ p a) ↔ p a := by
      intro p
      simp only [h, exists_eq_left]
    refine (hk a ((h a).2 rfl)).congr (fun b => (hone fun a => R a b).symm) ?_
    rw [hone, or_iff_right hsmall]
  | refused hf h hsmall =>
    exact .refused hf (fun b ⟨a, ha, _⟩ => h a ha) (fun hover => hover.elim hsmall
      fun ⟨a, ha, _⟩ => h a ha)
  | overflown h hlarge => exact .overflown (fun b ⟨a, ha, _⟩ => h a ha) (.inl hlarge)

lemma ok (a : α) : Verdict (fun b => b = a) False (.ok a) :=
  .accepted (fun _ => Iff.rfl) not_false

lemma map (h : Verdict P O x) (g : α → β) :
    Verdict (fun b => ∃ a, P a ∧ b = g a) O (do .ok (g (← x))) :=
  (h.bind fun a _ => ok (g a)).congr (fun _ => Iff.rfl) (by simp)

/-- Checks of the members of a list are made until one of them does not accept. -/
lemma mapM {R : α → β → Prop} {O : α → Prop} {xs : List α}
    (h : ∀ x ∈ xs, Verdict (R x) (O x) (k x)) :
    Verdict (fun ys => List.Forall₂ R xs ys) (MeetsFirst (fun x => ∃ y, R x y) O xs)
      (xs.mapM k) := by
  induction xs with
  | nil =>
    rw [List.mapM_nil]
    exact .accepted (fun ys => List.forall₂_nil_left_iff) meetsFirst_nil
  | cons x xs ih =>
    rw [List.forall_mem_cons] at h
    rw [List.mapM_cons]
    refine (h.1.bind fun y _ => (ih h.2).map fun ys => y :: ys).congr ?_ ?_
    · intro zs
      rw [List.forall₂_cons_left_iff]
      constructor
      · rintro ⟨y, hy, ys, hys, rfl⟩
        exact ⟨y, ys, hy, hys, rfl⟩
      · rintro ⟨y, ys, hy, hys, rfl⟩
        exact ⟨y, hy, ys, hys, rfl⟩
    · rw [meetsFirst_cons, exists_and_right]

/-- A check accepts or refuses just if there is no overflow. -/
lemma total_iff (h : Verdict P O x) :
    ((∃ a, x = .ok a ∧ P a) ∨ ∃ f, x = .error f ∧ f.settled.kind = .value) ↔ ¬O := by
  cases h with
  | @accepted a h hsmall => exact iff_of_true (.inl ⟨a, rfl, (h a).2 rfl⟩) hsmall
  | @refused f hf h hsmall => exact iff_of_true (.inr ⟨f, rfl, hf⟩) hsmall
  | overflown h hlarge =>
    refine iff_of_false ?_ (not_not.2 hlarge)
    rintro (⟨a, ha, -⟩ | ⟨f, hf, hkind⟩)
    · exact absurd ha (by simp)
    · obtain rfl := Except.error.inj hf
      exact absurd hkind (by decide)

lemma eq_overflow (h : Verdict P O x) (hO : O) : x = .error (.fault .overflow) := by
  cases h with
  | overflown h hlarge => rfl
  | _ => contradiction

end Verdict

/-! ### Arrays -/

namespace Value

variable {v : Value} {f : Fault}

lemma doubleOf_int (n : ℤ) :
    doubleOf n = if (doubleOfRat n).isInf then .error .overflow else .ok (doubleOfRat n) := rfl

/-- A member that has no double is of the wrong kind, or an integer that is too large. -/
lemma cellDouble_eq_error (h : v.cellDouble = .error f) :
    f = .invalid ∨ f = .unsupported ∨ f = .overflow ∧ v.isHuge = true := by
  fun_induction cellDouble v with
  | case3 n =>
    rw [doubleOf_int] at h
    split at h
    · next hinf => exact .inr (.inr ⟨(Except.error.inj h).symm, hinf⟩)
    · exact absurd h (by simp)
  | case8 m v ih => exact ih h
  | _ => simp_all

lemma cellDouble_of_isHuge (h : v.isHuge = true) : v.cellDouble = .error .overflow := by
  fun_induction isHuge v with
  | case1 n => exact if_pos h
  | case2 m v ih => exact ih h
  | case3 => simp at h

/-- Numbers that have cells of their own are converted; other members go by their doubles. -/
lemma toCell_cases (v : Value) : (∃ x, v.toCell .single = .ok (.single x)) ∧ v.isHuge = false ∨
    v.toCell .single = v.cellDouble.map fun x => .single x.toFloat32 := by
  cases v with
  | scalar s =>
    cases s with
    | single x => exact .inl ⟨⟨_, rfl⟩, rfl⟩
    | integer w n => exact .inl ⟨⟨_, rfl⟩, rfl⟩
    | _ => exact .inr rfl
  | _ => exact .inr rfl

lemma cellType_of_toCell {s : Scalar} (h : v.toCell .single = .ok s) : s.cellType = .single := by
  rcases toCell_cases v with ⟨⟨x, hx⟩, -⟩ | hdouble
  · obtain rfl : .single x = s := by simpa [hx] using h
    rfl
  · rw [hdouble] at h
    obtain ⟨x, -, rfl⟩ := map_eq_ok.1 h
    rfl

lemma toCell_eq_error (h : v.toCell .single = .error f) :
    f = .invalid ∨ f = .unsupported ∨ f = .overflow ∧ v.isHuge = true := by
  rcases toCell_cases v with ⟨⟨x, hx⟩, -⟩ | hdouble
  · simp [hx] at h
  · rw [hdouble] at h
    cases hcell : v.cellDouble with
    | error g =>
      obtain rfl : g = f := by simpa [hcell, Except.map] using h
      exact cellDouble_eq_error hcell
    | ok x => simp [hcell, Except.map] at h

lemma toCell_eq_overflow_iff : v.toCell .single = .error .overflow ↔ v.isHuge = true := by
  refine ⟨fun h => by simpa using toCell_eq_error h, fun h => ?_⟩
  rcases toCell_cases v with ⟨-, hsmall⟩ | hdouble
  · simp [h] at hsmall
  · rw [hdouble, cellDouble_of_isHuge h]
    rfl

/-- Whether a member of the value, seen as an array of singles, is an integer that is too large, and
all members in front of it have cells. -/
def OverflowsCells (v : Value) : Prop :=
  ∃ shape, v.shape? = some shape ∧ shape.length ≤ maxAxes ∧
    MeetsFirst (fun x => ∃ s, x.toCell .single = .ok s) (fun x => x.isHuge = true) v.leaves

end Value

namespace NumericArray

/-- The array and all of its cells are singles. -/
def IsSingles (a : NumericArray) : Prop :=
  a.cellType = .single ∧ ∀ s ∈ a.cells, s.cellType = .single

variable {v : Value} {f : Fault} {a : NumericArray}

/-- A value that is not rectangular is refused; otherwise its members are converted. -/
lemma ofValue_cases (v : Value) :
    ofValue .single v = .error .invalid ∧ ¬v.OverflowsCells ∨
      ∃ shape, ofValue .single v =
          (v.leaves.mapM (Value.toCell .single)).map (fun cells => ⟨.single, shape, cells⟩) ∧
        (v.leaves.mapM (Value.toCell .single) = .error .overflow ↔ v.OverflowsCells) := by
  unfold ofValue Value.OverflowsCells
  simp only [mapM_eq_error_iff, Value.toCell_eq_overflow_iff]
  cases hshape : v.shape? with
  | none => simp
  | some shape =>
    dsimp only
    split
    · next hdeep => exact .inl ⟨rfl, by simp [not_le.2 hdeep]⟩
    · next hdeep => exact .inr ⟨shape, rfl, by simp [not_lt.1 hdeep]⟩

lemma isSingles_of_ofValue (h : ofValue .single v = .ok a) : a.IsSingles := by
  rcases ofValue_cases v with ⟨herror, -⟩ | ⟨shape, heq, -⟩
  · simp [herror] at h
  · rw [heq] at h
    obtain ⟨cells, hcells, rfl⟩ := map_eq_ok.1 h
    refine ⟨rfl, fun s hs => ?_⟩
    obtain ⟨x, -, hx⟩ := exists_of_mem_mapM hcells hs
    exact Value.cellType_of_toCell hx

/-- A value that is no array is refused, or has an integer that is too large. -/
lemma ofValue_eq_error (h : ofValue .single v = .error f) :
    (f = .invalid ∨ f = .unsupported) ∧ ¬v.OverflowsCells ∨ f = .overflow ∧ v.OverflowsCells := by
  rcases ofValue_cases v with ⟨herror, hsmall⟩ | ⟨shape, heq, hover⟩
  · obtain rfl : .invalid = f := by simpa [herror] using h
    exact .inl ⟨.inl rfl, hsmall⟩
  · rw [heq] at h
    cases hcells : v.leaves.mapM (Value.toCell .single) with
    | error g =>
      obtain rfl : g = f := by simpa [hcells, Except.map] using h
      rw [← hover, hcells]
      obtain ⟨x, -, hx⟩ := exists_of_mapM_eq_error hcells
      rcases Value.toCell_eq_error hx with rfl | rfl | ⟨rfl, -⟩
      · exact .inl ⟨.inl rfl, by simp⟩
      · exact .inl ⟨.inr rfl, by simp⟩
      · exact .inr ⟨rfl, rfl⟩
    | ok cells => simp [hcells, Except.map] at h

lemma not_overflowsCells_of_ofValue (h : ofValue .single v = .ok a) : ¬v.OverflowsCells := by
  rcases ofValue_cases v with ⟨-, hsmall⟩ | ⟨shape, heq, hover⟩
  · exact hsmall
  · intro hlarge
    rw [heq, hover.2 hlarge] at h
    simp [Except.map] at h

end NumericArray

/-! ### Bounds -/

namespace Value

/-- Whether the value can bound numbers: it is absent, or a real number. -/
def IsBound (v : Value) : Prop := v = .null ∨ v.bare.isReal = true

/-- Whether a number is not in a relation to a bound that it must not be in. -/
def Respects (r : Relation) (v bound : Value) : Prop := bound ≠ .null → v.Decides r bound false

variable {v bound : Value} {f : Fault}

lemma inspected_eq_error (h : v.inspected = .error f) : f = .invalid := by
  unfold inspected at h
  split at h
  · exact absurd h (by simp)
  · exact (Except.error.inj h).symm

lemma printedInt_eq_error {n : ℤ} (h : printedInt n = .error f) : f = .invalid := by
  unfold printedInt at h
  split at h
  · exact absurd h (by simp)
  · exact (Except.error.inj h).symm

/-- A real number is printed, unless it has too many digits. -/
lemma display_eq_error (hv : v.isReal = true) (h : v.display = .error f) : f = .invalid := by
  rcases isReal_cases hv with ⟨b, rfl⟩ | ⟨n, rfl⟩ | ⟨x, rfl⟩ | ⟨s, rfl⟩
  · exact inspected_eq_error h
  · exact printedInt_eq_error h
  · exact inspected_eq_error h
  · simp [display] at h

lemma embedded_eq_error (hv : v.bare.isReal = true) (h : v.embedded = .error f) :
    f = .invalid := by
  cases v with
  | scalar s => exact display_eq_error (by cases s <;> rfl) h
  | singular m w => exact display_eq_error hv h
  | array a => simp [bare, isReal] at hv
  | _ => exact display_eq_error hv h

end Value

namespace Uniform

variable (u : Uniform) (moduleName : String) {v w bound : Value} {r : Relation}

lemma kind_settled_refuse (why : UniformFault) :
    (u.refuse moduleName why).settled.kind = .value := by
  unfold Failure.settled
  split <;> rfl

/-- Refusing a number because of a bound gives a refusal, even if one of them has too many digits to
be printed. -/
lemma refused_by_bound (why : String → String → UniformFault) (hv : v.bare.isReal = true)
    (hbound : bound.bare.isReal = true) :
    ∃ f, (do .error (← (do .ok (u.refuse moduleName (why (← v.embedded) (← bound.embedded))) :
        Answer Failure)) : Result Unit) = .error f ∧ f.settled.kind = .value := by
  cases hfirst : v.embedded with
  | error f =>
    obtain rfl := Value.embedded_eq_error hv hfirst
    exact ⟨_, rfl, rfl⟩
  | ok s =>
    cases hsecond : bound.embedded with
    | error f =>
      obtain rfl := Value.embedded_eq_error hbound hsecond
      exact ⟨_, rfl, rfl⟩
    | ok t => exact ⟨_, rfl, kind_settled_refuse _ _ _⟩

lemma checkBound_of_ne_null (h : bound ≠ .null) (exceeds : Answer Bool)
    (refusal : Answer Failure) : checkBound bound exceeds refusal =
      (do if ← exceeds then .error (← refusal) else .ok ()) := by
  cases bound with
  | null => exact absurd rfl h
  | _ => rfl

/-- The check against a bound. -/
lemma verdict_checkBound (why : String → String → UniformFault) (hv : v.isReal = true)
    (hbound : bound.IsBound) :
    Verdict (fun _ => v.Respects r bound) (v.overwhelms bound.bare = true)
      (checkBound bound (v.relate r bound >>= Value.truth) do
        .ok (u.refuse moduleName (why (← v.embedded) (← bound.embedded)))) := by
  by_cases hnull : bound = .null
  · subst hnull
    exact .accepted (fun _ => iff_of_true (fun h => absurd rfl h) rfl)
      (by simp [Value.overwhelms, Value.isHuge, Value.isFixedFloat, Value.bare])
  · have hreal : bound.bare.isReal = true := hbound.resolve_left hnull
    have hbare : v.bare.isReal = true := by
      rcases Value.isReal_cases hv with ⟨b, rfl⟩ | ⟨n, rfl⟩ | ⟨x, rfl⟩ | ⟨s, rfl⟩ <;> rfl
    rw [checkBound_of_ne_null hnull]
    rcases Value.relate_real (r := r) hv hreal with ⟨hlarge, herror⟩ | ⟨hsmall, answer, hanswer⟩
    · rw [herror]
      refine .overflown (fun _ h => ?_) hlarge
      have hok := (h hnull).eq_ok
      rw [herror] at hok
      exact absurd hok (by simp [bind, Except.bind])
    · rw [hanswer.eq_ok]
      cases answer with
      | false => exact .accepted (fun _ => iff_of_true (fun _ => hanswer) rfl) (by simp [hsmall])
      | true =>
        -- the number is on the wrong side of the bound
        obtain ⟨f, hf, hkind⟩ := refused_by_bound u moduleName why hbare hreal
        have hanswers : ∀ b : Unit, ¬v.Respects r bound := by
          intro _ h
          have hok := (h hnull).eq_ok
          rw [hanswer.eq_ok] at hok
          exact absurd hok (by simp)
        have hverdict := Verdict.refused hkind hanswers (Bool.not_eq_true _ ▸ hsmall)
        rw [← hf] at hverdict
        exact hverdict

/-! ### Values for a uniform -/

/-- The type of the uniform is the text, if there is one, and no other one. -/
def IsTyped (t? : Option String) : Prop := ∀ s, u.hasType s = .ok (decide (t? = some s))

/-- The value is a real number other than a truth value, finite, and within the bounds. -/
structure IsWithin (v : Value) : Prop where
  isFinite : v.isFiniteNumber = true
  notBelow : v.Respects .lt u.min
  notAbove : v.Respects .gt u.max

/-- What a value becomes that is given for a uniform. -/
@[mk_iff]
structure Accepts (v w : Value) : Prop where
  number : u.hasType "number" = .ok true → w = v ∧ u.IsWithin v
  boolean : u.hasType "boolean" = .ok true → w = v ∧ v.isTruth = true
  array : u.hasType "array" = .ok true →
    ∃ a, w = .array a ∧ a.IsSingles ∧ NumericArray.ofValue .single v = .ok a
  other : u.hasType "number" = .ok false → u.hasType "boolean" = .ok false →
    u.hasType "array" = .ok false → w = v

/-- An integer that is too large for a float is met when the value is checked. -/
def Overflows (v : Value) : Prop :=
  u.hasType "number" = .ok true ∧ v.isFiniteNumber = true ∧
      (v.overwhelms u.min.bare = true ∨
        v.Respects .lt u.min ∧ v.overwhelms u.max.bare = true) ∨
    u.hasType "array" = .ok true ∧ v.OverflowsCells

variable {u} {t? : Option String}

/-- A declaration is refused if its type cannot be compared with texts. -/
lemma exists_isTyped_of_declare {name declaration : Value}
    (h : declare name declaration = .ok u) : ∃ t?, u.IsTyped t? := by
  rcases Value.equal_text_cases u.type with ⟨f, hf⟩ | htyped
  · -- the declaration was asked whether its type is that of arrays, and has answered
    obtain ⟨type, -, h⟩ := bind_eq_ok.1 h
    obtain ⟨isPrivate, -, h⟩ := bind_eq_ok.1 h
    obtain ⟨isArray, hisArray, h⟩ := bind_eq_ok.1 h
    have htype : u.type = type := by
      split at h
      · obtain ⟨value, -, h⟩ := bind_eq_ok.1 h
        obtain rfl := Except.ok.inj h
        rfl
      · obtain rfl := Except.ok.inj h
        rfl
    subst htype
    exact absurd ((hf _).symm.trans hisArray) (by simp)
  · exact htyped

lemma validate_number (htype : u.IsTyped (some "number")) : u.validate moduleName v =
    if v.isFiniteNumber then do
      checkBound u.min (v.relate .lt u.min >>= Value.truth) do
        .ok (u.refuse moduleName (.below (← v.embedded) (← u.min.embedded)))
      checkBound u.max (v.relate .gt u.max >>= Value.truth) do
        .ok (u.refuse moduleName (.above (← v.embedded) (← u.max.embedded)))
      .ok v
    else .error (u.refuse moduleName (.notFinite v)) := by
  unfold validate
  rw [htype "number"]
  rfl

lemma verdict_number (htype : u.IsTyped (some "number"))
    (hmin : u.min.IsBound) (hmax : u.max.IsBound) (v : Value) :
    Verdict (u.Accepts v) (u.Overflows v) (u.validate moduleName v) := by
  rw [validate_number moduleName htype]
  split
  · next hfinite =>
    have hreal : v.isReal = true := Value.isReal_of_isFiniteNumber hfinite
    have haccepts : ∀ w, u.Accepts v w ↔ w = v ∧ u.IsWithin v :=
      fun w => by simp [accepts_iff, htype _]
    refine ((verdict_checkBound u moduleName .below hreal hmin).bind fun _ _ =>
      (verdict_checkBound u moduleName .above hreal hmax).bind fun _ _ =>
        Verdict.ok v).congr (fun w => ?_) ?_
    · rw [haccepts]
      constructor
      · rintro ⟨_, hnotBelow, _, hnotAbove, rfl⟩
        exact ⟨rfl, hfinite, hnotBelow, hnotAbove⟩
      · rintro ⟨rfl, -, hnotBelow, hnotAbove⟩
        exact ⟨(), hnotBelow, (), hnotAbove, rfl⟩
    · simp [Overflows, htype _, hfinite]
  · next hfinite =>
    refine .refused (kind_settled_refuse _ _ _) (fun w hw => ?_) ?_
    · exact hfinite (hw.number (htype _)).2.isFinite
    · simp [Overflows, htype _, hfinite]

lemma verdict_boolean (htype : u.IsTyped (some "boolean")) (v : Value) :
    Verdict (u.Accepts v) (u.Overflows v) (u.validate moduleName v) := by
  have heq : u.validate moduleName v =
      if v.isTruth then .ok v else .error (u.refuse moduleName (.notTruth v)) := by
    unfold validate
    rw [htype "number", htype "boolean"]
    rfl
  have hsmall : ¬u.Overflows v := by simp [Overflows, htype _]
  rw [heq]
  split
  · next htruth => exact .accepted (fun w => by simp [accepts_iff, htype _, htruth]) hsmall
  · next htruth =>
    refine .refused (kind_settled_refuse _ _ _) (fun w hw => ?_) hsmall
    exact htruth (hw.boolean (htype _)).2

lemma verdict_array (htype : u.IsTyped (some "array")) (v : Value) :
    Verdict (u.Accepts v) (u.Overflows v) (u.validate moduleName v) := by
  have hover : u.Overflows v ↔ v.OverflowsCells := by simp [Overflows, htype _]
  have hnone : ∀ {f}, NumericArray.ofValue .single v = .error f → ∀ w, ¬u.Accepts v w := by
    intro f hf w hw
    obtain ⟨a, -, -, ha⟩ := hw.array (htype _)
    simp [hf] at ha
  unfold validate
  rw [htype "number", htype "boolean", htype "array"]
  cases harray : NumericArray.ofValue .single v with
  | ok a =>
    refine .accepted (a := Value.array a) (fun w => ?_) ?_
    · have hsingles := NumericArray.isSingles_of_ofValue harray
      simp [accepts_iff, htype _, harray, hsingles]
    · rw [hover]
      exact NumericArray.not_overflowsCells_of_ofValue harray
  | error f =>
    rcases NumericArray.ofValue_eq_error harray with ⟨rfl | rfl, hsmall⟩ | ⟨rfl, hlarge⟩
    · exact .refused (kind_settled_refuse u moduleName (.notArray v)) (hnone harray)
        (by rwa [hover])
    · exact .refused (kind_settled_refuse u moduleName (.notArray v)) (hnone harray)
        (by rwa [hover])
    · exact .overflown (hnone harray) (hover.2 hlarge)

/-- A value for a uniform is accepted, refused or overflows. -/
theorem verdict_validate (htype : u.IsTyped t?)
    (hbounds : u.hasType "number" = .ok true → u.min.IsBound ∧ u.max.IsBound) (v : Value) :
    Verdict (u.Accepts v) (u.Overflows v) (u.validate moduleName v) := by
  by_cases hnumber : t? = some "number"
  · subst hnumber
    obtain ⟨hmin, hmax⟩ := hbounds (htype _)
    exact verdict_number moduleName htype hmin hmax v
  by_cases hboolean : t? = some "boolean"
  · subst hboolean
    exact verdict_boolean moduleName htype v
  by_cases harray : t? = some "array"
  · subst harray
    exact verdict_array moduleName htype v
  have heq : u.validate moduleName v = .ok v := by
    unfold validate
    simp only [htype _, hnumber, hboolean, harray, decide_false]
    rfl
  rw [heq]
  exact .accepted (fun w => by simp [accepts_iff, htype _, hnumber, hboolean, harray])
    (by simp [Overflows, htype _, hnumber, harray])

/-! ### Uniforms of a module -/

variable (u) in
/-- The value that the uniform takes from the options, unless it is private. -/
def taken? (options : Entries) : Option Value :=
  if u.isPrivate then none else options.get? u.name

variable (u) in
/-- The entry that the uniform gives for the options: under its name, the accepted form of the value
that is taken, or the default value if there is none. -/
@[mk_iff]
structure Gives (options : Entries) (e : Value × Value) : Prop where
  name_eq : e.1 = u.name
  default : u.taken? options = none → e.2 = u.value
  accepts : ∀ v, u.taken? options = some v → u.Accepts v e.2

variable (u) in
/-- The value that the uniform takes from the options overflows. -/
def OverflowsIn (options : Entries) : Prop := ∃ v, u.taken? options = some v ∧ u.Overflows v

end Uniform

/-- What can be a key can be looked up. -/
lemma Value.needKey_of_isHashable {k : Value} (h : k.isHashable = true) : k.needKey = .ok () := by
  have hpos : (if k.isHashable then .ok () else .error .unsupported : Answer Unit) = .ok () :=
    if_pos h
  cases k with
  | undefined u => exact if_pos h
  | _ => exact hpos

namespace ShaderModule

variable {m : ShaderModule} {u : Uniform} {options : Entries}

lemma uniformValue_map (hname : u.name.isHashable = true) (kind : MapKind) :
    m.uniformValue (.map kind options) u =
      match u.taken? options with
      | some v => u.validate m.name v
      | none => .ok u.value := by
  have hkey := Value.needKey_of_isHashable hname
  have hholds : (Value.map kind options).holds u.name = .ok (options.has u.name) := by
    unfold Value.holds
    rw [hkey]
    rfl
  have hitem : (Value.map kind options).item u.name =
      match options.get? u.name with
      | some v => .ok v
      | none => .error .missingKey := by
    unfold Value.item
    rw [hkey]
    rfl
  unfold uniformValue Uniform.taken?
  rw [hholds, hitem, ← Entries.isSome_get?]
  cases options.get? u.name <;> cases u.isPrivate <;> rfl

lemma verdict_uniform {t? : Option String} (htype : u.IsTyped t?)
    (hbounds : u.hasType "number" = .ok true → u.min.IsBound ∧ u.max.IsBound)
    (hname : u.name.isHashable = true) (kind : MapKind) :
    Verdict (u.Gives options) (u.OverflowsIn options)
      (do .ok (u.name, ← m.uniformValue (.map kind options) u)) := by
  rw [uniformValue_map hname]
  cases htaken : u.taken? options with
  | none =>
    refine (Verdict.ok (u.name, u.value)).congr (fun e => ?_) ?_
    · simp [Uniform.gives_iff, htaken, Prod.ext_iff]
    · simp [Uniform.OverflowsIn, htaken]
  | some v =>
    refine ((Uniform.verdict_validate m.name htype hbounds v).map fun w =>
      (u.name, w)).congr (fun e => ?_) ?_
    · constructor
      · rintro ⟨w, hw, rfl⟩
        refine ⟨rfl, by simp [htaken], fun v' hv' => ?_⟩
        obtain rfl : v = v' := by simpa [htaken] using hv'
        exact hw
      · intro he
        exact ⟨e.2, he.accepts v htaken, Prod.ext he.name_eq rfl⟩
    · simp [Uniform.OverflowsIn, htaken]

lemma computeUniforms_map (hdriver : m.driver = none) (kind : MapKind) (options : Entries) :
    ∃ kind', m.computeUniforms (.map kind options) .null =
      (do .ok (.map .plain (← m.uniforms.mapM fun u => do
        .ok (u.name, ← m.uniformValue (.map kind' options) u)))) := by
  obtain ⟨kind', hkind⟩ : ∃ kind',
      (Value.map kind options).orElse (.map .plain []) = .ok (.map kind' options) := by
    cases options with
    | nil => exact ⟨.plain, rfl⟩
    | cons e es => exact ⟨kind, rfl⟩
  refine ⟨kind', ?_⟩
  unfold computeUniforms evaluateUniforms
  rw [hkind, hdriver]
  change ((m.uniforms.mapM _) >>= _) >>= _ = _
  rw [bind_assoc]
  rfl

section Module

variable (hm : m.IsMade) (hdriver : m.driver = none)
  (hnames : ∀ u ∈ m.uniforms, u.name.isHashable = true)
  (hbounds : ∀ u ∈ m.uniforms, u.hasType "number" = .ok true → u.min.IsBound ∧ u.max.IsBound)
  (kind : MapKind) (options : Entries)

include hm hdriver hnames hbounds

/-- The uniforms of a module are checked one by one. -/
lemma verdict_computeUniforms :
    Verdict (fun v => ∃ es, List.Forall₂ (fun u e => u.Gives options e) m.uniforms es ∧
        v = .map .plain es)
      (MeetsFirst (fun u => ∃ e, u.Gives options e) (fun u => u.OverflowsIn options) m.uniforms)
      (m.computeUniforms (.map kind options) .null) := by
  obtain ⟨functions, id, d, hcreate⟩ := hm
  obtain ⟨-, -, hdeclared, -⟩ := parts_of_create hcreate
  obtain ⟨kind', heq⟩ := computeUniforms_map hdriver kind options
  rw [heq]
  refine (Verdict.mapM fun u hu => ?_).map fun es => Value.map .plain es
  obtain ⟨name, declaration, hdeclare⟩ := hdeclared u hu
  obtain ⟨t?, htype⟩ := Uniform.exists_isTyped_of_declare hdeclare
  exact verdict_uniform htype (hbounds u hu) (hnames u hu) kind'

end Module

end ShaderModule

/-- A module with a number, whose least value is a float of fixed width, and an array. -/
def lantern : ShaderModule where
  ref := ⟨0, "lantern"⟩
  vertex := .absent
  fragment := .absent
  dependencies := []
  defines := ⟨[], .number 0⟩
  vertexInjections := []
  fragmentInjections := []
  uniforms :=
    [⟨.text "level", .text "number", .int 1, .scalar (.double 0), .int 10, false⟩,
      ⟨.text "color", .text "array", .null, .null, .null, false⟩]
  driver := none
  deprecations := []

lemma isMade_lantern : lantern.IsMade := by
  refine ⟨fun _ => ⟨fun _ => .error .unsupported, fun _ _ => .error .unsupported⟩, 0,
    { name := .text "lantern", uniforms := .map .plain
        [(.text "level", .map .plain [(.text "value", .int 1),
          (.text "min", .scalar (.double 0)), (.text "max", .int 10)]),
        (.text "color", .map .plain [(.text "value", .null), (.text "type", .text "array")])] },
    ?_⟩
  with_unfolding_all rfl

lemma isHashable_name_lantern : ∀ u ∈ lantern.uniforms, u.name.isHashable = true := by
  simp [lantern, Value.isHashable]

lemma isBound_lantern : ∀ u ∈ lantern.uniforms, u.hasType "number" = .ok true →
    u.min.IsBound ∧ u.max.IsBound := by
  simp [lantern, Value.IsBound, Value.bare, Value.isReal]

/-- A level and the cells of a color. -/
def lanternOptions : Entries :=
  [(.text "level", .int 3), (.text "color", .tuple [.int 0, .bool true, .int 2])]

/-- The integer 10 to the power of 400. -/
def hugeInt : ℤ := Int.pow 10 400

end ShaderLoom
