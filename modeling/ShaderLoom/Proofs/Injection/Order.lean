import Mathlib.Algebra.Order.Ring.Rat
import Mathlib.Order.WithBot
import ShaderLoom.Injection.Basic
import ShaderLoom.Proofs.Sorting

/-!
# The arrangement of injections

Injections are arranged by comparing their orders. Integers and plain floats are compared by their
quantities, so that the arrangement is the sorted one (`Injection.inOrder_of_arrange`). Beside a
fixed-width number an integer counts as the double that is nearest to it: if that is not the integer
itself, such comparisons can contradict each other, and all that is left is that no injection comes
before its neighbour on the left.
-/

namespace ShaderLoom

open Number

/-! ### Quantities as a chain -/

namespace Number.Quantity

/-- The place of a quantity among the rational numbers and the two infinities. -/
def rank : Quantity → WithBot (WithTop ℚ)
  | .finite q => ((q : WithTop ℚ) : WithBot (WithTop ℚ))
  | .infinite negative => if negative then ⊥ else ((⊤ : WithTop ℚ) : WithBot (WithTop ℚ))
  | .missing => ⊥

lemma less_eq_rank {a b : Quantity} (ha : a ≠ .missing) (hb : b ≠ .missing) :
    a.less b = decide (a.rank < b.rank) := by
  rw [Bool.eq_iff_iff, decide_eq_true_iff]
  match a, b with
  | .finite p, .finite q => simp [Quantity.less, rank]
  | .finite p, .infinite true => simp [Quantity.less, rank]
  | .finite p, .infinite false =>
    have htop : rank (.finite p) < rank (.infinite false) :=
      WithBot.coe_lt_coe.2 (WithTop.coe_lt_top p)
    exact iff_of_true rfl htop
  | .infinite negative, .finite q => cases negative <;> simp [Quantity.less, rank]
  | .infinite m, .infinite n => cases m <;> cases n <;> simp [Quantity.less, rank]
  | .missing, _ => exact absurd rfl ha
  | .finite _, .missing | .infinite _, .missing => exact absurd rfl hb

lemma rank_inj {a b : Quantity} (ha : a ≠ .missing) (hb : b ≠ .missing) :
    a.rank = b.rank ↔ a = b := by
  match a, b with
  | .finite p, .finite q => simp [rank]
  | .finite p, .infinite negative => cases negative <;> simp [rank]
  | .infinite negative, .finite q => cases negative <;> simp [rank]
  | .infinite m, .infinite n => cases m <;> cases n <;> simp [rank]
  | .missing, _ => exact absurd rfl ha
  | .finite _, .missing | .infinite _, .missing => exact absurd rfl hb

lemma less_asymm {a b : Quantity} (h : a.less b = true) : b.less a = false := by
  have ha : a ≠ .missing := by
    rintro rfl
    simp [Quantity.less] at h
  have hb : b ≠ .missing := by
    rintro rfl
    cases a <;> simp [Quantity.less] at h
  rw [less_eq_rank ha hb, decide_eq_true_iff] at h
  rw [less_eq_rank hb ha, decide_eq_false_iff_not]
  exact h.asymm

end Number.Quantity

/-! ### Comparing orders -/

namespace Order

/-- What the order stands for. -/
def quantity : Order → Quantity
  | .whole n => .ofInt n
  | .real x => .ofDouble x
  | .wide x => .ofDouble x

/-- Whether the order is a fixed-width number. -/
def isWide : Order → Bool
  | .wide _ => true
  | _ => false

/-- The double that an order counts as beside a fixed-width number. -/
def double? : Order → Answer Float
  | .whole n => Value.doubleOf n
  | .real x => .ok x
  | .wide x => .ok x

lemma less_of_plain {a b : Order} (ha : a.isWide = false) (hb : b.isWide = false) :
    a.less b = .ok (a.quantity.less b.quantity) := by
  cases a <;> cases b <;> simp_all [isWide] <;>
    simp [less, toValue, Value.less?, Value.relate, Value.relateWhole, Value.isUndefined,
      Value.hasCells, Value.bare, Value.quantity?, Relation.holds, Value.truth, bind, Except.bind,
      quantity]

@[simp] lemma scalarTruth_truth (b : Bool) : Value.scalarTruth (.truth b) = b := by
  cases b <;> rfl

/-- A relation between operands that meet as doubles. -/
lemma relate_double {a b : Operand} {x y : Float} (r : Relation)
    (htype : Operand.commonType? a b = some .double)
    (ha : a.toArray .double = .ok (.ofScalar (.double x)))
    (hb : b.toArray .double = .ok (.ofScalar (.double y))) :
    Operand.relate r a b =
      .ok (.scalar (.truth (r.holds (.ofDouble x) (.ofDouble y)))) := by
  simp [Operand.relate, htype, ha, hb, CellType.isFloat, NumericArray.ofScalar, sharedShape?,
    padShape, stretch, NumericArray.toValue, Scalar.quantity, bind, Except.bind, pure, Except.pure]

/-- The operand that an order is. -/
def operand : Order → Operand
  | .whole n => .int n
  | .real x => .real x
  | .wide x => .cells (.ofScalar (.double x))

lemma toArray_operand (a : Order) :
    a.operand.toArray .double = a.double?.map fun x => .ofScalar (.double x) := by
  cases a with
  | whole n =>
    by_cases h : (doubleOfRat n).isInf
    · simp [operand, Operand.toArray, Operand.integerCell, double?, Value.doubleOf, bind,
        Except.bind, h, Except.map]
    · simp [operand, Operand.toArray, Operand.integerCell, double?, Value.doubleOf, bind,
        Except.bind, h, Except.map, Scalar.convert, Scalar.toDouble]
  | real x => rfl
  | wide x => rfl

lemma less_of_wide {a b : Order} (h : a.isWide || b.isWide) :
    a.less b =
      (do .ok ((Quantity.ofDouble (← a.double?)).less (.ofDouble (← b.double?))) : Answer Bool) := by
  have hrelate : a.less b =
      (do (← Operand.relate .lt a.operand b.operand).truth : Answer Bool) := by
    cases a <;> cases b <;> simp_all [isWide] <;>
      simp [less, toValue, Value.less?, Value.relate, Value.relateWhole, Value.isUndefined,
        Value.hasCells, Value.bare, Value.relateWithCells, Value.isComplex, Value.operandOf,
        Operand.ofValue?, operand, bind, Except.bind]
  -- a fixed-width number on either side makes both of them doubles, if they fit
  have htype : Operand.commonType? a.operand b.operand = some .double := by
    cases a <;> cases b <;> simp_all [isWide] <;> rfl
  rw [hrelate]
  cases hx : a.double? with
  | error f =>
    have ha : a.operand.toArray .double = .error f := by rw [toArray_operand, hx]; rfl
    simp [Operand.relate, htype, ha, CellType.isFloat, bind, Except.bind]
  | ok x =>
    have ha : a.operand.toArray .double = .ok (.ofScalar (.double x)) := by
      rw [toArray_operand, hx]
      rfl
    cases hy : b.double? with
    | error f =>
      have hb : b.operand.toArray .double = .error f := by rw [toArray_operand, hy]; rfl
      simp [Operand.relate, htype, ha, hb, CellType.isFloat, bind, Except.bind]
    | ok y =>
      have hb : b.operand.toArray .double = .ok (.ofScalar (.double y)) := by
        rw [toArray_operand, hy]
        rfl
      rw [relate_double .lt htype ha hb]
      simp [Value.truth, Relation.holds, bind, Except.bind]

/-- No two orders come before each other. -/
lemma less_asymm {a b : Order} (h : a.less b = .ok true) : b.less a = .ok false := by
  by_cases hwide : a.isWide || b.isWide
  · rw [less_of_wide hwide] at h
    rw [less_of_wide (by rwa [Bool.or_comm])]
    cases hx : a.double? with
    | error f => simp [hx, bind, Except.bind] at h
    | ok x =>
      cases hy : b.double? with
      | error f => simp [hx, hy, bind, Except.bind] at h
      | ok y =>
        have hlt : (Quantity.ofDouble x).less (.ofDouble y) = true := by
          simpa [hx, hy, bind, Except.bind] using h
        simp [Quantity.less_asymm hlt, bind, Except.bind]
  · obtain ⟨ha, hb⟩ : a.isWide = false ∧ b.isWide = false := by simpa using hwide
    rw [less_of_plain ha hb] at h
    rw [less_of_plain hb ha]
    have hlt : a.quantity.less b.quantity = true := by simpa using h
    rw [Quantity.less_asymm hlt]

/-- Beside a fixed-width number the order keeps its quantity. -/
def IsDouble (a : Order) : Prop := ∀ x, a.double? = .ok x → Quantity.ofDouble x = a.quantity

lemma eq_less_quantity {a b : Order} {c : Bool} (h : a.less b = .ok c)
    (hdouble : a.isWide || b.isWide → a.IsDouble ∧ b.IsDouble) :
    c = a.quantity.less b.quantity := by
  by_cases hwide : a.isWide || b.isWide
  · obtain ⟨ha, hb⟩ := hdouble hwide
    rw [less_of_wide hwide] at h
    cases hx : a.double? with
    | error f => simp [hx, bind, Except.bind] at h
    | ok x =>
      cases hy : b.double? with
      | error f => simp [hx, hy, bind, Except.bind] at h
      | ok y =>
        rw [← ha x hx, ← hb y hy]
        simpa [hx, hy, bind, Except.bind] using h.symm
  · obtain ⟨ha, hb⟩ : a.isWide = false ∧ b.isWide = false := by simpa using hwide
    rw [less_of_plain ha hb] at h
    simpa using h.symm

/-- Orders that fit a fixed-width number if one of them is one can be compared. -/
lemma exists_less {a b : Order}
    (hfit : a.isWide || b.isWide → (∃ x, a.double? = .ok x) ∧ ∃ y, b.double? = .ok y) :
    ∃ c, a.less b = .ok c := by
  by_cases hwide : a.isWide || b.isWide
  · obtain ⟨⟨x, hx⟩, ⟨y, hy⟩⟩ := hfit hwide
    exact ⟨_, by rw [less_of_wide hwide, hx, hy]; rfl⟩
  · obtain ⟨ha, hb⟩ : a.isWide = false ∧ b.isWide = false := by simpa using hwide
    exact ⟨_, less_of_plain ha hb⟩

end Order

/-! ### Arranging -/

namespace Injection

/-- Where an order is a fixed-width number, no other order is rounded for a comparison with it. -/
def ComparedExactly (is : List Injection) : Prop :=
  (∃ i ∈ is, i.order.isWide) → ∀ i ∈ is, i.order.IsDouble

/-- The second list is the first one in the sequence of the orders. -/
structure InOrder (is js : List Injection) : Prop where
  perm : js.Perm is
  rises : js.IsChain fun i j => j.order.less i.order = .ok false
  /-- The orders ascend. -/
  ascending : ComparedExactly is →
    js.Pairwise fun i j => j.order.quantity.less i.order.quantity = false
  /-- Injections of the same order keep their sequence. -/
  stable : ComparedExactly is →
    ∀ q, js.filter (·.order.quantity = q) = is.filter (·.order.quantity = q)

lemma exists_isWide {is : List Injection} {i j : Injection} (hi : i ∈ is) (hj : j ∈ is)
    (h : i.order.isWide || j.order.isWide) : ∃ i ∈ is, i.order.isWide := by
  rcases Bool.or_eq_true_iff.1 h with h | h
  · exact ⟨i, hi, h⟩
  · exact ⟨j, hj, h⟩

lemma answersBy_rank {is : List Injection} (hnumber : ∀ i ∈ is, i.order.quantity ≠ .missing)
    (hexact : ComparedExactly is) :
    AnswersBy (fun i j : Injection => i.order.less j.order)
      (fun i => i.order.quantity.rank) is := by
  intro i hi j hj b hb
  rw [← Quantity.less_eq_rank (hnumber i hi) (hnumber j hj)]
  refine Order.eq_less_quantity hb fun hwide => ?_
  have hsome := exists_isWide hi hj hwide
  exact ⟨hexact hsome i hi, hexact hsome j hj⟩

/-- Arranging puts injections into the sequence of their orders. -/
theorem inOrder_of_arrange {is js : List Injection}
    (hnumber : ∀ i ∈ is, i.order.quantity ≠ .missing) (h : arrange is = .ok js) :
    InOrder is js where
  perm := perm_of_arrange h
  rises := neighbours_sortWith (fun _ _ => Order.less_asymm) h
  ascending := by
    intro hexact
    have hsorted := sortedBy_sortWith (answersBy_rank hnumber hexact) h
    refine hsorted.ascending.imp_of_mem fun {i j} hi hj hij => ?_
    rw [Quantity.less_eq_rank (hnumber j (hsorted.perm.mem_iff.1 hj))
      (hnumber i (hsorted.perm.mem_iff.1 hi)), decide_eq_false_iff_not]
    exact not_lt_of_ge hij
  stable := by
    intro hexact q
    have hsorted := sortedBy_sortWith (answersBy_rank hnumber hexact) h
    by_cases hq : q = .missing
    · -- no order is without a quantity
      have hnone : ∀ ks : List Injection, (∀ i ∈ ks, i ∈ is) →
          ks.filter (·.order.quantity = q) = [] := by
        intro ks hks
        rw [List.filter_eq_nil_iff]
        intro i hi
        simpa [hq] using hnumber i (hks i hi)
      rw [hnone js fun i hi => hsorted.perm.mem_iff.1 hi, hnone is fun i hi => hi]
    · -- orders of one quantity are those of one rank
      have hrank : ∀ ks : List Injection, (∀ i ∈ ks, i ∈ is) →
          ks.filter (·.order.quantity = q) =
            ks.filter (·.order.quantity.rank = q.rank) := by
        intro ks hks
        refine List.filter_congr fun i hi => ?_
        rw [decide_eq_decide]
        exact (Quantity.rank_inj (hnumber i (hks i hi)) hq).symm
      rw [hrank js fun i hi => hsorted.perm.mem_iff.1 hi, hrank is fun i hi => hi]
      exact hsorted.stable q.rank

/-- The orders are numbers that can be compared with each other: where one of them is a fixed-width
number, all of them fit one. -/
structure Sortable (is : List Injection) : Prop where
  number : ∀ i ∈ is, i.order.quantity ≠ .missing
  fit : (∃ i ∈ is, i.order.isWide) → ∀ i ∈ is, ∃ x, i.order.double? = .ok x

lemma Sortable.subset {is js : List Injection} (h : Sortable is) (hsub : js ⊆ is) :
    Sortable js where
  number := fun i hi => h.number i (hsub hi)
  fit := fun ⟨i, hi, hwide⟩ j hj => h.fit ⟨i, hsub hi, hwide⟩ j (hsub hj)

/-- Injections with such orders are put into their sequence. -/
theorem Sortable.exists_inOrder {is : List Injection} (h : Sortable is) :
    ∃ js, arrange is = .ok js ∧ InOrder is js := by
  have hanswers : Answers (fun i j : Injection => i.order.less j.order) is := by
    intro i hi j hj
    refine Order.exists_less fun hwide => ?_
    have hsome := exists_isWide hi hj hwide
    exact ⟨h.fit hsome i hi, h.fit hsome j hj⟩
  obtain ⟨js, hjs⟩ := exists_sortWith hanswers
  exact ⟨js, hjs, inOrder_of_arrange h.number hjs⟩

end Injection

end ShaderLoom
