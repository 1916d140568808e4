import ShaderLoom.Proofs.Cache.Collision

/-!
# When a cache cannot be noticed

A cache cannot be noticed in the code of programs exactly when calls with the same key agree. The
key says everything that is written of a request whose values it determines (`Request.IsFaithful`),
so that such calls agree, as long as their values have tuples only or lists only. A tuple and a list
with the same members have the same key and are printed differently, so that a call with the one
need not agree with a call with the other.
-/

namespace ShaderLoom

namespace Request

/-- Among requests whose sequences are of the same kind the key determines the name, the hooks and
the injections, and determines the defines apart from the widths of numbers. -/
structure IsFaithful (tuples : Bool) (r : Request) : Prop where
  id : r.id.isPlain tuples = true
  defines : ∀ e ∈ r.defines.entries,
    e.1.isPlain tuples = true ∧ e.2.withoutWidth.isPlain tuples = true
  hooks : ∀ hooks, r.hooks.orElse (.tuple []) >>= Value.members = .ok hooks →
    ∀ h ∈ hooks, h.isPlain tuples = true
  inject : ∀ e ∈ r.inject.entries, e.1.isPlain tuples = true ∧ e.2.isPlain tuples = true

variable {tuples : Bool}

lemma mem_entries_of_optionalEntries {v : Value} {es : Entries}
    (h : ShaderModule.optionalEntries v = .ok es) {e : Value × Value} (he : e ∈ es) :
    e ∈ v.entries := by
  unfold ShaderModule.optionalEntries at h
  obtain ⟨b, -, h⟩ := bind_eq_ok.1 h
  cases b with
  | false =>
    obtain rfl := Except.ok.inj h
    cases he
  | true =>
    cases v with
    | map kind ds =>
      obtain rfl := Except.ok.inj h
      exact he
    | _ => cases h

lemma ofApplication_of_optionalEntries {v : Value} {es : Entries}
    (h : ShaderModule.optionalEntries v = .ok es) :
    Injection.ofApplication v = es.mapM fun e => Injection.create e.1 e.2 := by
  unfold ShaderModule.optionalEntries at h
  obtain ⟨b, hb, h⟩ := bind_eq_ok.1 h
  unfold Injection.ofApplication
  rw [hb]
  cases b with
  | false =>
    obtain rfl := Except.ok.inj h
    rfl
  | true =>
    cases v with
    | map kind ds =>
      obtain rfl := Except.ok.inj h
      rfl
    | _ => cases h

lemma ofDeclarations_of_members {v : Value} {hooks : List Value}
    (h : v.orElse (.tuple []) >>= Value.members = .ok hooks) :
    Hook.ofDeclarations v =
      (hooks.mapM Hook.declare).map fun hooks => hooks.flatten.foldl Hook.put [] := by
  obtain ⟨container, hcontainer, hmembers⟩ := bind_eq_ok.1 h
  obtain ⟨b, hb, rfl⟩ := map_eq_ok.1 hcontainer
  unfold Hook.ofDeclarations Value.orElse
  rw [hb]
  cases b with
  | false =>
    obtain rfl := Except.ok.inj hmembers
    rfl
  | true =>
    have hmembers : v.members = .ok hooks := hmembers
    show ((liftM v.members : Result (List Value)) >>= _) = _
    rw [hmembers]
    rfl

lemma eq_of_alike {xs ys : List Value} (h : List.Forall₂ Value.Alike xs ys)
    (hxs : ∀ x ∈ xs, x.isPlain tuples = true) (hys : ∀ y ∈ ys, y.isPlain tuples = true) :
    xs = ys := by
  induction h with
  | nil => rfl
  | cons hhead _ ih =>
    obtain ⟨f, hx, hy⟩ := hhead
    rw [Value.eq_of_keyForm_eq (hxs _ List.mem_cons_self) (hys _ List.mem_cons_self) hx hy,
      ih (fun x hx => hxs x (List.mem_cons_of_mem _ hx))
        (fun y hy => hys y (List.mem_cons_of_mem _ hy))]

/-- Entries with the same keys are the same, apart from the widths of numbers. -/
lemma withoutWidths_eq_of_alike {es es' : Entries} (h : es.Alike es')
    (hes : ∀ e ∈ es, e.1.isPlain tuples = true ∧ e.2.withoutWidth.isPlain tuples = true)
    (hes' : ∀ e ∈ es', e.1.isPlain tuples = true ∧ e.2.withoutWidth.isPlain tuples = true) :
    es.withoutWidths = es'.withoutWidths := by
  unfold Entries.Alike at h
  induction h with
  | nil => rfl
  | @cons e e' es es' hhead _ ih =>
    obtain ⟨⟨f, hk, hk'⟩, g, hv, hv'⟩ := hhead
    obtain ⟨hkey, hvalue⟩ := hes e List.mem_cons_self
    obtain ⟨hkey', hvalue'⟩ := hes' e' List.mem_cons_self
    have hrest := ih (fun e he => hes e (List.mem_cons_of_mem _ he))
      (fun e he => hes' e (List.mem_cons_of_mem _ he))
    unfold Entries.withoutWidths at hrest ⊢
    rw [List.map_cons, List.map_cons, hrest, Value.eq_of_keyForm_eq hkey hkey' hk hk',
      Value.withoutWidth_eq hvalue hvalue' hv hv']

lemma withoutWidths_of_isPlain {es : Entries} (h : ∀ e ∈ es, e.2.isPlain tuples = true) :
    es.withoutWidths = es := by
  have hid : ∀ e ∈ es, (e.1, e.2.withoutWidth) = e := by
    intro e he
    rw [Value.withoutWidth_of_isPlain (h e he)]
  unfold Entries.withoutWidths
  rw [List.map_congr_left hid, List.map_id']

/-- Of requests with the same key that the key determines, the same is written. -/
theorem SameKey.similar {r s : Request} {ms ns : List ShaderModule} (h : SameKey r ms s ns)
    (hr : r.IsFaithful tuples) (hs : s.IsFaithful tuples) (modules : List ShaderModule) :
    r.Similar s modules := by
  obtain ⟨p, q, hp, hq, hparts⟩ := h.parts
  obtain ⟨hdefines, hhooks, hinject, -, -⟩ := parts_eq_ok hp
  obtain ⟨hdefines', hhooks', hinject', -, -⟩ := parts_eq_ok hq
  have hid : r.id = s.id := by
    obtain ⟨f, hf, hg⟩ := h.id
    exact Value.eq_of_keyForm_eq hr.id hs.id hf hg
  exact
    { names := by simp [hid]
      injections := by
        have hplain : ∀ {es : Entries},
            (∀ e ∈ es, e.1.isPlain tuples = true ∧ e.2.isPlain tuples = true) →
            ∀ e ∈ es, e.1.isPlain tuples = true ∧ e.2.withoutWidth.isPlain tuples = true := by
          intro es hes e he
          rw [Value.withoutWidth_of_isPlain (hes e he).2]
          exact hes e he
        have hes := fun e he => hr.inject e (mem_entries_of_optionalEntries hinject he)
        have hes' := fun e he => hs.inject e (mem_entries_of_optionalEntries hinject' he)
        have hwidths := withoutWidths_eq_of_alike hparts.inject (hplain hes) (hplain hes')
        rw [withoutWidths_of_isPlain fun e he => (hes e he).2,
          withoutWidths_of_isPlain fun e he => (hes' e he).2] at hwidths
        rw [ofApplication_of_optionalEntries hinject, ofApplication_of_optionalEntries hinject',
          hwidths]
      hooks := by
        rw [ofDeclarations_of_members hhooks, ofDeclarations_of_members hhooks',
          eq_of_alike hparts.hooks (hr.hooks _ hhooks) (hs.hooks _ hhooks')]
      defines := by
        -- the widths are dropped before the merged defines are compared, and nothing is lost
        have hwidths := withoutWidths_eq_of_alike hparts.defines
          (fun e he => hr.defines e (mem_entries_of_optionalEntries hdefines he))
          (fun e he => hs.defines e (mem_entries_of_optionalEntries hdefines' he))
        unfold defineCode
        rw [Defines.merge_of_optionalEntries hdefines, Defines.merge_of_optionalEntries hdefines']
        show Defines.code _ = Defines.code _
        rw [← Defines.code_withoutWidths, Entries.withoutWidths_putAll, hwidths,
          ← Entries.withoutWidths_putAll, Defines.code_withoutWidths] }

end Request

namespace Call

/-- Calls that see the same modules and whose keys determine what is written of them agree. -/
lemma agree_of_isFaithful {a : Assembler} {c d : Call} {tuples : Bool}
    (hshares : c.SharesModules d) (hc : c.request.IsFaithful tuples)
    (hd : d.request.IsFaithful tuples) (hcollide : c.Collide a d) : c.Agree a d := by
  obtain ⟨p, q, hp, hq, hkey⟩ := hcollide
  have hsame := sameKey_of_reading hp hq hkey
  have hprogram := program_eq_of_collide hshares ⟨p, q, hp, hq, hkey⟩ hp
    (hsame.similar hc hd p.modules)
  intro program h
  refine ⟨program, ?_, rfl, rfl⟩
  rw [Session.uncached_eq, ← hprogram, ← Session.uncached_eq, h]

end Call

namespace Session

/-- When runs of calls give the code that the calls give without the cache: exactly if calls with
the same key agree. Calls that see the same modules agree if the same is written of them, and this
is so if their keys determine what is written, among calls with tuples only or with lists only. -/
theorem transparency (a : Assembler) (calls : Set Call) :
    (Transparent a calls ↔ ∀ c ∈ calls, ∀ d ∈ calls, c.Collide a d → c.Agree a d) ∧
    (∀ (c d : Call) (p : Plan), c.SharesModules d → c.Collide a d → c.reading a = .ok p →
      c.request.Similar d.request p.modules → c.uncached a = d.uncached a) ∧
    (∀ tuples, (∀ c ∈ calls, ∀ d ∈ calls, c.SharesModules d) →
      (∀ c ∈ calls, c.request.IsFaithful tuples) → Transparent a calls) := by
  refine ⟨transparent_iff a calls, ?_, ?_⟩
  · intro c d p hshares hcollide hp hsimilar
    rw [uncached_eq, uncached_eq]
    exact Call.program_eq_of_collide hshares hcollide hp hsimilar
  · intro tuples hshares hfaithful
    rw [transparent_iff]
    intro c hc d hd hcollide
    exact Call.agree_of_isFaithful (hshares c hc d hd) (hfaithful c hc) (hfaithful d hd) hcollide

/-! ### Numbers of several widths, tuples and lists -/

/-- An assembler that adds nothing to the code. -/
def bareAssembler : Assembler where
  platformDefines := fun _ => .text ""
  versionDefines := fun _ => .text ""
  convert := fun code _ _ => .ok code

/-- A call with one define and nothing else. -/
def defineCall (v : Value) : Call where
  catalog := []
  registry := none
  check := false
  request :=
    { vertex := .text "void main() \x7b\x7d"
      fragment := .text "void main() \x7b\x7d"
      id := .null
      modules := .tuple []
      defines := .map .plain [(.text "a", v)]
      hooks := .tuple []
      inject := .null
      toOldest := .bool false
      hasPrologue := .bool true }

lemma sharesModules_defineCall (v w : Value) : (defineCall v).SharesModules (defineCall w) := by
  intro m hm
  cases hm

lemma isFaithful_defineCall {tuples : Bool} {v : Value}
    (h : v.withoutWidth.isPlain tuples = true) : (defineCall v).request.IsFaithful tuples where
  id := rfl
  defines := by
    intro e he
    obtain rfl : e = (.text "a", v) := by simpa [defineCall, Value.entries] using he
    exact ⟨rfl, h⟩
  hooks := by
    intro hooks hhooks
    obtain rfl := Except.ok.inj hhooks
    simp
  inject := by simp [defineCall, Value.entries]

lemma resolve_defineCall (v : Value) :
    resolveValue (defineCall v).directory (.tuple []) = .ok [] := by
  show resolve (defineCall v).directory [] = .ok []
  rw [resolve, Resolution.visitAll]

lemma reading_defineCall {v : Value} {key : String}
    (hkey : (defineCall v).request.key [] = .ok key) :
    (defineCall v).reading bareAssembler = .ok ⟨[], [], [], key⟩ := by
  show (do
    let modules ← resolveValue (defineCall v).directory (.tuple [])
    let key ← (defineCall v).request.key modules
    .ok ⟨modules, [], [], key⟩ : Result Plan) = _
  rw [resolve_defineCall]
  show ((defineCall v).request.key [] >>= fun key => .ok ⟨[], [], [], key⟩ : Result Plan) = _
  rw [hkey]
  rfl

lemma collide_defineCall {v w : Value} {key : String}
    (hv : (defineCall v).request.key [] = .ok key) (hw : (defineCall w).request.key [] = .ok key) :
    (defineCall v).Collide bareAssembler (defineCall w) :=
  ⟨_, _, reading_defineCall hv, reading_defineCall hw, rfl⟩

lemma uncached_defineCall {v : Value} {key : String}
    (hkey : (defineCall v).request.key [] = .ok key) :
    (defineCall v).uncached bareAssembler =
      bareAssembler.building (defineCall v).request ⟨[], [], [], key⟩ := by
  rw [uncached_eq, Call.program, reading_defineCall hkey]
  rfl

/-- The key of a call with `3` as its define. -/
def threeKey : String :=
  "[\"void main() \x7b\x7d\", \"void main() \x7b\x7d\", null, [], [[\"a\", 3]], [], [], " ++
    "false, true]"

/-- A number of sixteen bits and one of any size have the same key, and the same code. -/
theorem threes_transparent :
    (defineCall (.int 3)).Collide bareAssembler (defineCall (.scalar (.integer .int16 3))) ∧
    (defineCall (.int 3)).uncached bareAssembler =
      (defineCall (.scalar (.integer .int16 3))).uncached bareAssembler ∧
    Transparent bareAssembler
      {defineCall (.int 3), defineCall (.scalar (.integer .int16 3))} := by
  have hint : (defineCall (.int 3)).request.key [] = .ok threeKey :=
    toOption_eq_some.1 (by decide +kernel)
  have hscalar : (defineCall (.scalar (.integer .int16 3))).request.key [] = .ok threeKey :=
    toOption_eq_some.1 (by decide +kernel)
  have hcollide := collide_defineCall hint hscalar
  have hsame := Request.sameKey_iff.2 ⟨threeKey, hint, hscalar⟩
  have hsimilar := hsame.similar (@isFaithful_defineCall false _ rfl) (isFaithful_defineCall rfl) []
  obtain ⟨-, hprograms, htransparent⟩ := transparency bareAssembler
    {defineCall (.int 3), defineCall (.scalar (.integer .int16 3))}
  refine ⟨hcollide, ?_, htransparent false ?_ ?_⟩
  · exact hprograms _ _ _ (sharesModules_defineCall _ _) hcollide (reading_defineCall hint) hsimilar
  · rintro c (rfl | rfl) d (rfl | rfl) <;> exact sharesModules_defineCall _ _
  · rintro c (rfl | rfl) <;> exact isFaithful_defineCall rfl

/-- The key of a call whose define is the pair of `1` and `2`. -/
def pairKey : String :=
  "[\"void main() \x7b\x7d\", \"void main() \x7b\x7d\", null, [], [[\"a\", [1, 2]]], [], [], " ++
    "false, true]"

/-- A tuple and a list have the same key, and different code. -/
theorem tuple_and_list_not_transparent :
    ¬ Transparent bareAssembler
      {defineCall (.tuple [.int 1, .int 2]), defineCall (.list [.int 1, .int 2])} := by
  have htuple : (defineCall (.tuple [.int 1, .int 2])).request.key [] = .ok pairKey :=
    toOption_eq_some.1 (by decide +kernel)
  have hlist : (defineCall (.list [.int 1, .int 2])).request.key [] = .ok pairKey :=
    toOption_eq_some.1 (by decide +kernel)
  have hvertex : ((defineCall (.tuple [.int 1, .int 2])).uncached bareAssembler).toOption.map
      (·.vertex) = some ("#version 100\n\n\n#define SHADER_TYPE_VERTEX\n\n\n\n\n" ++
        "// APPLICATION DEFINES\n#define A (1, 2)\n\n\n\n\n\n\nvoid main() \x7b\x7d") := by
    rw [uncached_defineCall htuple]
    decide +kernel
  have hvertex' : ((defineCall (.list [.int 1, .int 2])).uncached bareAssembler).toOption.map
      (·.vertex) = some ("#version 100\n\n\n#define SHADER_TYPE_VERTEX\n\n\n\n\n" ++
        "// APPLICATION DEFINES\n#define A [1, 2]\n\n\n\n\n\n\nvoid main() \x7b\x7d") := by
    rw [uncached_defineCall hlist]
    decide +kernel
  -- the call with the tuple comes first, and the call with the list gets its program
  obtain ⟨p, hp, hcode⟩ := Option.map_eq_some_iff.1 hvertex
  obtain ⟨q, hq, hcode'⟩ := Option.map_eq_some_iff.1 hvertex'
  intro htransparent
  obtain ⟨q', hq', hsame⟩ := (transparent_iff _ _).1 htransparent _ (.inl rfl) _ (.inr rfl)
    (collide_defineCall htuple hlist) p (toOption_eq_some.1 hp)
  obtain rfl := Except.ok.inj ((toOption_eq_some.1 hq).symm.trans hq')
  have hvertices := hsame.1
  rw [hcode, hcode'] at hvertices
  exact absurd hvertices (by decide)

end Session

end ShaderLoom
