import ShaderLoom.Proofs.Defines
import ShaderLoom.Assembly.Program

/-!
# Requests with the same key

The key of a request is made of nine parts. Two requests have the same key exactly when their parts
have the same keys, one by one (`Request.sameKey_iff`): the same sources, the same modules in one
sequence, the same switches, and defines, hooks and injections whose entries have the same keys in
one sequence.
-/

namespace ShaderLoom

/-- The values have a key, and the same one. -/
def Value.Alike (v w : Value) : Prop := ∃ f, v.keyForm = .ok f ∧ w.keyForm = .ok f

/-- The entries have the same keys one by one. -/
def Entries.Alike (es es' : Entries) : Prop :=
  List.Forall₂ (fun e e' => e.1.Alike e'.1 ∧ e.2.Alike e'.2) es es'

namespace Value

lemma alike_iff_exists_keyText {v w : Value} :
    v.Alike w ↔ ∃ key, v.keyText = .ok key ∧ w.keyText = .ok key := by
  constructor
  · rintro ⟨f, hv, hw⟩
    refine ⟨f.text, ?_, ?_⟩
    · rw [keyText_eq, hv]
      rfl
    · rw [keyText_eq, hw]
      rfl
  · rintro ⟨key, hv, hw⟩
    exact keyForm_eq_of_keyText_eq hv hw

lemma exists_keyFormAll_iff {xs ys : List Value} :
    (∃ fs, keyFormAll xs = .ok fs ∧ keyFormAll ys = .ok fs) ↔ List.Forall₂ Alike xs ys := by
  constructor
  · rintro ⟨fs, hx, hy⟩
    induction fs generalizing xs ys with
    | nil =>
      rw [eq_nil_of_keyFormAll hx, eq_nil_of_keyFormAll hy]
      exact .nil
    | cons f fs ih =>
      obtain ⟨x, xs, rfl, hf, hfs⟩ := exists_of_keyFormAll_eq_cons hx
      obtain ⟨y, ys, rfl, hg, hgs⟩ := exists_of_keyFormAll_eq_cons hy
      exact .cons ⟨f, hf, hg⟩ (ih hfs hgs)
  · intro h
    induction h with
    | nil => exact ⟨[], rfl, rfl⟩
    | cons hhead _ ih =>
      obtain ⟨f, hf, hg⟩ := hhead
      obtain ⟨fs, hfs, hgs⟩ := ih
      refine ⟨f :: fs, ?_, ?_⟩
      · simp [keyFormAll, hf, hfs, bind, Except.bind]
      · simp [keyFormAll, hg, hgs, bind, Except.bind]

lemma alike_list_iff {xs ys : List Value} :
    (Value.list xs).Alike (.list ys) ↔ List.Forall₂ Alike xs ys := by
  rw [← exists_keyFormAll_iff]
  constructor
  · rintro ⟨f, hx, hy⟩
    obtain ⟨fs, hfs, rfl⟩ := map_eq_ok.1 hx
    obtain ⟨gs, hgs, heq⟩ := map_eq_ok.1 hy
    obtain rfl := KeyForm.sequence.inj heq
    exact ⟨gs, hfs, hgs⟩
  · rintro ⟨fs, hx, hy⟩
    refine ⟨.sequence fs, ?_, ?_⟩
    · exact map_eq_ok.2 ⟨fs, hx, rfl⟩
    · exact map_eq_ok.2 ⟨fs, hy, rfl⟩

lemma alike_pair_iff {k v k' v' : Value} :
    (Value.tuple [k, v]).Alike (.tuple [k', v']) ↔ k.Alike k' ∧ v.Alike v' := by
  have hlist : (Value.tuple [k, v]).Alike (.tuple [k', v']) ↔
      (Value.list [k, v]).Alike (.list [k', v']) := Iff.rfl
  rw [hlist, alike_list_iff]
  simp

lemma forall₂_alike_pairs_iff {es es' : Entries} :
    List.Forall₂ Alike (es.map fun e => .tuple [e.1, e.2])
      (es'.map fun e => .tuple [e.1, e.2]) ↔ es.Alike es' := by
  rw [List.forall₂_map_left_iff, List.forall₂_map_right_iff]
  unfold Entries.Alike
  simp only [alike_pair_iff]

lemma alike_bool_iff {b c : Bool} : (Value.bool b).Alike (.bool c) ↔ b = c := by
  constructor
  · rintro ⟨f, hb, hc⟩
    exact Value.bool.inj (@eq_of_keyForm_eq false _ _ _ rfl rfl hb hc)
  · rintro rfl
    exact ⟨_, rfl, rfl⟩

lemma arrayKeyForm_ne_quoted (shape : List ℕ) (cells : List Scalar) (cs : List Char) :
    arrayKeyForm shape (cells.map fun s => .word (scalarWord s)) ≠ .quoted cs := by
  match shape with
  | [] =>
    cases cells with
    | nil => simp [arrayKeyForm]
    | cons c cells => simp [arrayKeyForm]
  | [_] => simp [arrayKeyForm]
  | _ :: _ :: _ => simp [arrayKeyForm]

/-- Only a text has the key of a text. -/
lemma alike_text_iff {s : String} {v : Value} : (Value.text s).Alike v ↔ v = .text s := by
  constructor
  · rintro ⟨f, hs, hv⟩
    obtain rfl := Except.ok.inj hs
    cases v with
    | text t =>
      have hchars := KeyForm.quoted.inj (Except.ok.inj hv)
      rw [String.toList_inj.1 hchars]
    | int n =>
      simp only [keyForm] at hv
      split at hv <;> cases hv
    | list xs =>
      obtain ⟨fs, -, hne⟩ := map_eq_ok.1 hv
      cases hne
    | tuple xs =>
      obtain ⟨fs, -, hne⟩ := map_eq_ok.1 hv
      cases hne
    | map kind es =>
      obtain ⟨sorted, -, hfields⟩ := bind_eq_ok.1 hv
      obtain ⟨ds, -, hne⟩ := map_eq_ok.1 hfields
      cases hne
    | array a => exact absurd (Except.ok.inj hv) (arrayKeyForm_ne_quoted _ _ _)
    | _ => cases hv
  · rintro rfl
    exact ⟨_, rfl, rfl⟩

lemma alike_moduleRef_iff {m n : ModuleRef} :
    (Value.moduleRef m).Alike (.moduleRef n) ↔ m.id = n.id := by
  constructor
  · rintro ⟨f, hm, hn⟩
    obtain rfl := Except.ok.inj hm
    have hchars := congrArg KeyWord.chars (KeyForm.word.inj (Except.ok.inj hn))
    have htext := String.toList_inj.1 (List.append_cancel_left hchars)
    exact_mod_cast (intText_inj htext).symm
  · intro h
    refine ⟨_, rfl, ?_⟩
    rw [keyForm, h]

lemma forall₂_alike_toValue_iff {ms ns : List ShaderModule} :
    List.Forall₂ Alike (ms.map (·.toValue)) (ns.map (·.toValue)) ↔
      ms.map (·.ref.id) = ns.map (·.ref.id) := by
  rw [List.forall₂_map_left_iff, List.forall₂_map_right_iff,
    ← List.forall₂_eq_eq_eq, List.forall₂_map_left_iff, List.forall₂_map_right_iff]
  simp only [ShaderModule.toValue, alike_moduleRef_iff]

end Value

namespace Request

/-- What the key of a request is made of, apart from its sources, its name and its modules. -/
structure Parts where
  defines : Entries
  hooks : List Value
  inject : Entries
  toOldest : Bool
  hasPrologue : Bool

/-- The parts have the same keys. -/
structure Parts.Alike (p q : Parts) : Prop where
  defines : p.defines.Alike q.defines
  hooks : List.Forall₂ Value.Alike p.hooks q.hooks
  inject : p.inject.Alike q.inject
  toOldest : p.toOldest = q.toOldest
  hasPrologue : p.hasPrologue = q.hasPrologue

/-- Read the parts of a request. -/
def parts (r : Request) : Answer Parts := do
  let defines ← ShaderModule.optionalEntries r.defines
  let hooks ← (← r.hooks.orElse (.tuple [])).members
  let inject ← ShaderModule.optionalEntries r.inject
  let toOldest ← r.toOldest.truth
  let hasPrologue ← r.hasPrologue.truth
  .ok ⟨defines, hooks, inject, toOldest, hasPrologue⟩

/-- The value whose key is the key of a request. -/
def keyValue (r : Request) (modules : List ShaderModule) (p : Parts) : Value :=
  .list [r.vertex, r.fragment, r.id, .list (modules.map (·.toValue)),
    .list (p.defines.map fun e => .tuple [e.1, e.2]), .list p.hooks,
    .list (p.inject.map fun e => .tuple [e.1, e.2]), .bool p.toOldest, .bool p.hasPrologue]

lemma key_eq (r : Request) (modules : List ShaderModule) :
    r.key modules = r.parts >>= fun p => (r.keyValue modules p).keyText := by
  unfold key parts itemsOf keyValue
  simp only [bind_assoc]
  rfl

/-- The requests, with the modules that they ask for, have the same keys one by one. -/
structure SameKey (r : Request) (ms : List ShaderModule) (s : Request) (ns : List ShaderModule) :
    Prop where
  vertex : r.vertex.Alike s.vertex
  fragment : r.fragment.Alike s.fragment
  id : r.id.Alike s.id
  modules : ms.map (·.ref.id) = ns.map (·.ref.id)
  parts : ∃ p q, r.parts = .ok p ∧ s.parts = .ok q ∧ p.Alike q

/-- Two requests have the same key exactly when everything that it is made of has the same key. -/
theorem sameKey_iff {r s : Request} {ms ns : List ShaderModule} :
    SameKey r ms s ns ↔ ∃ key, r.key ms = .ok key ∧ s.key ns = .ok key := by
  have hkeys : ∀ p q : Parts, (r.keyValue ms p).Alike (s.keyValue ns q) ↔
      r.vertex.Alike s.vertex ∧ r.fragment.Alike s.fragment ∧ r.id.Alike s.id ∧
        ms.map (·.ref.id) = ns.map (·.ref.id) ∧ p.defines.Alike q.defines ∧
        List.Forall₂ Value.Alike p.hooks q.hooks ∧ p.inject.Alike q.inject ∧
        p.toOldest = q.toOldest ∧ p.hasPrologue = q.hasPrologue := by
    intro p q
    unfold keyValue
    simp only [Value.alike_list_iff, Value.alike_bool_iff, Value.forall₂_alike_toValue_iff,
      Value.forall₂_alike_pairs_iff, List.forall₂_cons, List.forall₂_nil_left_iff, and_true]
  constructor
  · rintro ⟨hvertex, hfragment, hid, hmodules, p, q, hp, hq, hparts⟩
    obtain ⟨hdefines, hhooks, hinject, htoOldest, hhasPrologue⟩ := hparts
    obtain ⟨key, hr, hs⟩ := Value.alike_iff_exists_keyText.1 ((hkeys p q).2
      ⟨hvertex, hfragment, hid, hmodules, hdefines, hhooks, hinject, htoOldest, hhasPrologue⟩)
    refine ⟨key, ?_, ?_⟩
    · rw [key_eq, hp]
      exact hr
    · rw [key_eq, hq]
      exact hs
  · rintro ⟨key, hr, hs⟩
    rw [key_eq, bind_eq_ok] at hr hs
    obtain ⟨p, hp, hr⟩ := hr
    obtain ⟨q, hq, hs⟩ := hs
    obtain ⟨hvertex, hfragment, hid, hmodules, hdefines, hhooks, hinject, htoOldest,
      hhasPrologue⟩ := (hkeys p q).1 (Value.alike_iff_exists_keyText.2 ⟨key, hr, hs⟩)
    exact ⟨hvertex, hfragment, hid, hmodules, p, q, hp, hq,
      hdefines, hhooks, hinject, htoOldest, hhasPrologue⟩

end Request

end ShaderLoom
