import ShaderLoom.Proofs.Hook.Code

/-!
# Which hooks can receive injections

A hook can receive injections if its key is read as the hook, and this is so exactly if its name
consists of word characters and hyphens (`Hook.parse_key_iff`). Declarations are not checked for
this: what stands before the parameters is taken as the name, be it two words, a word with a hash in
front or a word behind the label of the other stage. Such a hook is kept, but nothing can be
injected into its body.
-/

namespace ShaderLoom

open Text

namespace Hook

variable {h : Hook} {is : List Injection} {i : Injection}

/-! ### Keys of hooks -/

lemma key_eq (h : Hook) : h.key = (Target.hook h.stage h.name).key := by
  rw [← String.toList_inj, toList_key]
  simp [Target.key, String.toList_append]

/-- The key of a hook is read as the hook just if its name is one that keys can give. -/
lemma parse_key_iff (h : Hook) :
    Target.parse h.key = .ok (.hook h.stage h.name) ↔ IsName h.name := by
  rw [Target.parse_eq_ok_iff]
  exact ⟨fun hparse => hparse.1, fun hname => ⟨hname, .inl h.key_eq⟩⟩

/-- An injection under the key of a hook targets the hook, unless the name of the hook is one that
keys cannot give; then the key is that of declarations or of a place. -/
lemma target_of_key_cases (hread : i.IsRead) (hkey : i.key = h.key) :
    i.target = .hook h.stage h.name ∧ IsName h.name ∨
      h.name.toList.head? = some '#' ∧ ¬ IsName h.name := by
  by_cases hhash : h.name.toList.head? = some '#'
  · exact .inr ⟨hhash, fun hname => hname.head?_ne_hash hhash⟩
  · have htarget := target_of_key hread hkey hhash
    refine .inl ⟨htarget, h.parse_key_iff.1 ?_⟩
    rw [← hkey, ← htarget]
    exact hread

/-- The contributions to the body of a hook are those under its key if its name is one that keys can
give, and otherwise there are none. -/
lemma injections_eq (h : Hook) (hread : ∀ i ∈ is, i.IsRead) :
    (IsName h.name → h.injections is = is.filter (·.key = h.key)) ∧
      (¬ IsName h.name → h.injections is = []) := by
  rw [injections]
  refine ⟨fun hname => if_neg hname.head?_ne_hash, fun hname => ?_⟩
  split
  · rfl
  · next hhash =>
    refine List.filter_eq_nil_iff.2 fun i hi hkey => ?_
    rcases target_of_key_cases (hread i hi) (by simpa using hkey) with htarget | htarget
    · exact hname htarget.2
    · exact hhash htarget.1

/-! ### Code of hooks -/

/-- An injection in the bucket of a hook stands in its body. -/
lemma exists_body_of_code {code : List Char} (hcode : h.code is = .ok code) (hi : i ∈ is) :
    ∃ body, indent i.content.toList <:+: body ∧
      code = "void ".toList ++ h.signature.toList ++ " \x7b\n".toList ++ body ++ "\x7d\n".toList := by
  obtain ⟨header, -, hcode⟩ := bind_eq_ok.1 hcode
  obtain ⟨arranged, harranged, hcode⟩ := bind_eq_ok.1 hcode
  obtain ⟨footer, -, hcode⟩ := bind_eq_ok.1 hcode
  obtain rfl := Except.ok.inj hcode
  have hmem : i ∈ arranged := (Injection.perm_of_arrange harranged).mem_iff.2 hi
  obtain ⟨before, after, rfl⟩ := List.append_of_mem hmem
  refine ⟨header ++ (before ++ i :: after).flatMap (fun i => indent i.content.toList) ++ footer,
    ⟨header ++ before.flatMap fun i => indent i.content.toList,
      after.flatMap (fun i => indent i.content.toList) ++ footer, ?_⟩, ?_⟩
  · simp
  · simp

/-- The code of hooks holds the code of each of them. -/
lemma exists_code_of_codeAll {hooks : List Hook} {buckets : List Bucket} {code : List Char}
    (hcode : codeAll hooks buckets = .ok code) (hh : h ∈ hooks) :
    ∃ part, h.code (Bucket.lookup buckets h.key) = .ok part ∧ part <:+: code := by
  obtain ⟨parts, hparts, hcode⟩ := bind_eq_ok.1 hcode
  obtain rfl := Except.ok.inj hcode
  obtain ⟨part, hpart, heq⟩ := exists_mem_of_mapM hparts hh
  exact ⟨part, heq, List.infix_of_mem_flatten hpart⟩

/-! ### Declarations that are accepted -/

lemma name_ne_nil_of_ofSignature {declaration signature : List Char} {stage? : Option Stage}
    {header footer : Value}
    (hh : ofSignature declaration stage? signature header footer = .ok h) :
    h.name.toList ≠ [] := by
  unfold ofSignature at hh
  split at hh
  · cases hh
  · dsimp only at hh
    split at hh
    · cases hh
    · next hname =>
      obtain ⟨header, -, hh⟩ := bind_eq_ok.1 hh
      obtain ⟨footer, -, hh⟩ := bind_eq_ok.1 hh
      obtain rfl := Except.ok.inj hh
      simpa [name] using hname

lemma name_ne_nil_of_ofText {declaration header footer : Value}
    (hh : ofText declaration header footer = .ok h) : h.name.toList ≠ [] := by
  unfold ofText at hh
  split at hh
  · exact name_ne_nil_of_ofSignature hh
  · cases hh

lemma name_ne_nil_of_ofTextFor {stage : Stage} {declaration header footer : Value}
    (hh : ofTextFor stage declaration header footer = .ok h) : h.name.toList ≠ [] := by
  unfold ofTextFor at hh
  split at hh
  · exact name_ne_nil_of_ofSignature hh
  · cases hh

lemma name_ne_nil_of_declare {v : Value} {hooks : List Hook} (hhooks : declare v = .ok hooks)
    (hh : h ∈ hooks) : h.name.toList ≠ [] := by
  unfold declare at hhooks
  split at hhooks
  · obtain ⟨g, hg, hhooks⟩ := bind_eq_ok.1 hhooks
    obtain rfl := Except.ok.inj hhooks
    obtain rfl := List.mem_singleton.1 hh
    exact name_ne_nil_of_ofText hg
  · split at hhooks
    · obtain ⟨g, hg, hhooks⟩ := bind_eq_ok.1 hhooks
      obtain rfl := Except.ok.inj hhooks
      obtain rfl := List.mem_singleton.1 hh
      exact name_ne_nil_of_ofText hg
    · split at hhooks
      · obtain ⟨⟨stage, v⟩, -, hdetails⟩ := exists_of_mem_mapM hhooks hh
        unfold ofDetails at hdetails
        split at hdetails
        · exact name_ne_nil_of_ofTextFor hdetails
        · exact name_ne_nil_of_ofTextFor hdetails
      · cases hhooks
  · cases hhooks

lemma mem_of_mem_foldl_put {declared hs : List Hook} (hh : h ∈ declared.foldl put hs) :
    h ∈ declared ∨ h ∈ hs := by
  induction declared generalizing hs with
  | nil => exact .inr hh
  | cons g declared ih =>
    rcases ih hh with hh | hh
    · exact .inl (List.mem_cons_of_mem _ hh)
    · rcases mem_put hh with hh | rfl
      · exact .inr hh
      · exact .inl List.mem_cons_self

/-- A hook that is accepted has a name. -/
lemma name_ne_nil {declarations : Value} {hooks : List Hook}
    (hhooks : ofDeclarations declarations = .ok hooks) (hh : h ∈ hooks) : h.name.toList ≠ [] := by
  obtain ⟨v, -, hhooks⟩ := bind_eq_ok.1 hhooks
  obtain ⟨vs, -, hhooks⟩ := bind_eq_ok.1 hhooks
  obtain ⟨read, hread, hhooks⟩ := bind_eq_ok.1 hhooks
  obtain rfl := Except.ok.inj hhooks
  rcases mem_of_mem_foldl_put hh with hh | hh
  · obtain ⟨declared, hdeclared, hh⟩ := List.mem_flatten.1 hh
    obtain ⟨w, -, hw⟩ := exists_of_mem_mapM hread hdeclared
    exact name_ne_nil_of_declare hw hh
  · cases hh

/-! ### Declarations that are refused -/

/-- The failure is one of a value that cannot be accepted, or of a template that used an undefined
value. -/
def IsRefusal (e : Failure) : Prop := e.kind = .value ∨ e.kind = .undefinedUse

lemma isRefusal_of_truth {v : Value} {f : Fault} (hv : v.truth = .error f) :
    IsRefusal (.fault f) := by
  fun_induction Value.truth v with
  | case13 a hcells =>
    obtain rfl := Except.error.inj hv
    exact .inl rfl
  | case17 u hstrict =>
    obtain rfl := Except.error.inj hv
    exact .inr rfl
  | case23 mark v ih => exact ih hv
  | _ => cases hv

lemma isRefusal_of_orElse {v other : Value} {e : Failure}
    (he : (liftM (v.orElse other) : Result Value) = .error e) : IsRefusal e := by
  unfold Value.orElse at he
  match htruth : v.truth with
  | .ok b => simp [htruth, Except.map, liftM, monadLift] at he
  | .error f =>
    obtain rfl : .fault f = e := by simpa [htruth, Except.map, liftM, monadLift] using he
    exact isRefusal_of_truth htruth

lemma isRefusal_of_ofSignature {declaration signature : List Char} {stage? : Option Stage}
    {header footer : Value} {e : Failure}
    (he : ofSignature declaration stage? signature header footer = .error e) : IsRefusal e := by
  unfold ofSignature at he
  split at he
  · obtain rfl := Except.error.inj he
    exact .inl rfl
  · dsimp only at he
    split at he
    · obtain rfl := Except.error.inj he
      exact .inl rfl
    · rcases bind_eq_error.1 he with hheader | ⟨header, -, he⟩
      · exact isRefusal_of_orElse hheader
      · rcases bind_eq_error.1 he with hfooter | ⟨footer, -, he⟩
        · exact isRefusal_of_orElse hfooter
        · cases he

lemma isRefusal_of_ofText {declaration header footer : Value} {e : Failure}
    (he : ofText declaration header footer = .error e) : IsRefusal e := by
  unfold ofText at he
  split at he
  · exact isRefusal_of_ofSignature he
  · obtain rfl := Except.error.inj he
    exact .inl rfl

lemma isRefusal_of_ofTextFor {stage : Stage} {declaration header footer : Value} {e : Failure}
    (he : ofTextFor stage declaration header footer = .error e) : IsRefusal e := by
  unfold ofTextFor at he
  split at he
  · exact isRefusal_of_ofSignature he
  · obtain rfl := Except.error.inj he
    exact .inl rfl

/-- A declaration is only refused as a value that cannot be accepted. -/
lemma isRefusal_of_declare {v : Value} {e : Failure} (he : declare v = .error e) :
    IsRefusal e := by
  unfold declare at he
  split at he
  · rcases bind_eq_error.1 he with htext | ⟨h, -, he⟩
    · exact isRefusal_of_ofText htext
    · cases he
  · split at he
    · rcases bind_eq_error.1 he with htext | ⟨h, -, he⟩
      · exact isRefusal_of_ofText htext
      · cases he
    · split at he
      · obtain ⟨⟨stage, v⟩, -, hdetails⟩ := exists_of_mapM_eq_error he
        unfold ofDetails at hdetails
        split at hdetails
        · exact isRefusal_of_ofTextFor hdetails
        · exact isRefusal_of_ofTextFor hdetails
      · obtain rfl := Except.error.inj he
        exact .inl rfl
  · obtain rfl := Except.error.inj he
    exact .inl rfl

/-! ### Reception -/

/-- The injections of an application and of modules, for whatever stage they are made. -/
def IsContributed (application : List Injection) (modules : List ShaderModule) (i : Injection) :
    Prop :=
  i ∈ application ∨ ∃ m ∈ modules, ∃ stage, i ∈ m.injections stage

lemma IsContributed.isRead {inject : Value} {application : List Injection}
    {modules : List ShaderModule} (hi : IsContributed application modules i)
    (hinject : Injection.ofApplication inject = .ok application)
    (hmodules : ∀ m ∈ modules, m.IsMade) : i.IsRead := by
  rcases hi with hi | ⟨m, hm, stage, hi⟩
  · exact Injection.isRead_of_ofApplication hinject hi
  · exact ((hmodules m hm).injections hi).1

/-- An injection that targets a stage counts there. -/
lemma IsContributed.mem_contributions {application : List Injection}
    {modules : List ShaderModule} (hi : IsContributed application modules i)
    (hmodules : ∀ m ∈ modules, m.IsMade) {stage : Stage} (hstage : i.target.stage? = some stage) :
    i ∈ Slots.contributions stage application modules := by
  rcases hi with hi | ⟨m, hm, s, hi⟩
  · have happlies : i.appliesTo stage = true := by
      simp [Injection.appliesTo, Target.appliesTo, hstage]
    exact List.mem_append_left _ (List.mem_filter.2 ⟨hi, happlies⟩)
  · obtain rfl : s = stage := Option.some.inj (((hmodules m hm).injections hi).2.symm.trans hstage)
    exact List.mem_append_right _ (List.mem_flatMap.2 ⟨m, hm, hi⟩)

/-- **Which hooks receive injections.**  The key of a declared hook is read as the hook exactly if
its name consists of word characters and hyphens. Then every injection under the key, be it of the
application or of a module, targets the hook, stands in its bucket, and its code stands indented in
the body of the hook in the code of the stage; there is such code if the headers and footers are
texts and the orders can be compared. If the name has other characters, the bucket of the hook is
empty whatever is injected. A declaration that is refused is refused as a value that cannot be
accepted. -/
theorem receives_injections {declarations : Value} {hooks : List Hook}
    (hhooks : ofDeclarations declarations = .ok hooks) {h : Hook} (hh : h ∈ hooks) :
    (Target.parse h.key = .ok (.hook h.stage h.name) ↔
      ∀ c ∈ h.name.toList, isNameChar c = true) ∧
    (∀ (inject : Value) (application : List Injection) (modules : List ShaderModule),
      Injection.ofApplication inject = .ok application → (∀ m ∈ modules, m.IsMade) →
      ((∀ c ∈ h.name.toList, isNameChar c = true) →
        ∀ i, IsContributed application modules i → i.key = h.key →
          i.target = .hook h.stage h.name ∧
          i ∈ Bucket.lookup (Slots.classify h.stage application modules).hooks h.key ∧
          ((∀ g ∈ forStage hooks h.stage,
              g.Ready (Slots.contributions h.stage application modules)) →
            ∃ code, codeAll (forStage hooks h.stage)
              (Slots.classify h.stage application modules).hooks = .ok code) ∧
          ∀ code, codeAll (forStage hooks h.stage)
              (Slots.classify h.stage application modules).hooks = .ok code →
            ∃ body, indent i.content.toList <:+: body ∧
              "void ".toList ++ h.signature.toList ++ " \x7b\n".toList ++ body ++
                "\x7d\n".toList <:+: code) ∧
      ((∃ c ∈ h.name.toList, isNameChar c = false) →
        Bucket.lookup (Slots.classify h.stage application modules).hooks h.key = [])) ∧
    (∀ v e, declare v = .error e → IsRefusal e) := by
  have hiff : IsName h.name ↔ ∀ c ∈ h.name.toList, isNameChar c = true :=
    ⟨fun hname => hname.chars, fun hchars => ⟨name_ne_nil hhooks hh, hchars⟩⟩
  refine ⟨h.parse_key_iff.trans hiff, fun inject application modules hinject hmodules => ?_,
    fun v e => isRefusal_of_declare⟩
  have hread : ∀ i ∈ Slots.contributions h.stage application modules, i.IsRead := fun i hi =>
    (Slots.isRead_of_mem_contributions
      (fun i hi => Injection.isRead_of_ofApplication hinject hi) hmodules hi).1
  have hlookup : ∀ g : Hook,
      Bucket.lookup (Slots.classify h.stage application modules).hooks g.key =
        g.injections (Slots.contributions h.stage application modules) :=
    fun g => g.lookup_hooks hread
  constructor
  · intro hchars i hi hkey
    have hparse := h.parse_key_iff.2 (hiff.2 hchars)
    rw [← hkey] at hparse
    have htarget : i.target = .hook h.stage h.name :=
      Except.ok.inj ((hi.isRead hinject hmodules).symm.trans hparse)
    have hmem : i ∈ Slots.contributions h.stage application modules :=
      hi.mem_contributions hmodules (by rw [htarget]; rfl)
    have hbucket : i ∈ Bucket.lookup (Slots.classify h.stage application modules).hooks h.key := by
      rw [hlookup, (h.injections_eq hread).1 (hiff.2 hchars)]
      exact List.mem_filter.2 ⟨hmem, by simpa using hkey⟩
    refine ⟨htarget, hbucket, fun hready => ?_, fun code hcode => ?_⟩
    · obtain ⟨blocks, -, hblocks⟩ := exists_codeAll hlookup hready
      exact ⟨_, hblocks⟩
    · have hstage : h ∈ forStage hooks h.stage := List.mem_filter.2 ⟨hh, by simp⟩
      obtain ⟨part, hpart, hinfix⟩ := exists_code_of_codeAll hcode hstage
      obtain ⟨body, hbody, rfl⟩ := exists_body_of_code hpart hbucket
      exact ⟨body, hbody, hinfix⟩
  · rintro ⟨c, hc, hchar⟩
    have hname : ¬ IsName h.name := fun hname => by simp [hname.chars c hc] at hchar
    rw [hlookup, (h.injections_eq hread).2 hname]

end Hook

/-- What the lamp contributes stands in the body of the hook. -/
theorem glowHooks_receive_lamp :
    Target.parse "vs:glow" = .ok (.hook .vertex "glow") ∧
    ∃ code body,
      Hook.codeAll (Hook.forStage glowHooks .vertex)
        (Slots.classify .vertex glowInjections [lamp (-1)]).hooks = .ok code ∧
      "  lamp();\n".toList <:+: body ∧
      "void glow(vec3 p) \x7b\n".toList ++ body ++ "\x7d\n".toList <:+: code := by
  have hinject : Injection.ofApplication (.map .plain [(.text "vs:glow", .text "app();"),
      (.text "fs:glow", .text "other();"), (.text "vs:shade", .text "unused();")]) =
      .ok glowInjections := toOption_eq_some.1 (by decide +kernel)
  have hmodules : ∀ m ∈ [lamp (-1)], m.IsMade := by
    intro m hm
    obtain rfl : m = lamp (-1) := by simpa using hm
    exact isMade_lamp (-1)
  have hcode : Hook.codeAll (Hook.forStage glowHooks .vertex)
      (Slots.classify .vertex glowInjections [lamp (-1)]).hooks =
      .ok "void glow(vec3 p) \x7b\n  // glow\n  lamp();\n  app();\n\x7d\n".toList :=
    toOption_eq_some.1 (by decide +kernel)
  have hhooks : Hook.ofDeclarations glowDeclarations = .ok glowHooks := rfl
  have hmem : (⟨.vertex, "glow(vec3 p)", .text "// glow", .text ""⟩ : Hook) ∈ glowHooks := by
    simp [glowHooks]
  have hchars : ∀ c ∈ "glow".toList, isNameChar c = true :=
    List.all_eq_true.1 (by decide +kernel)
  obtain ⟨hparse, hreceives, -⟩ := Hook.receives_injections hhooks hmem
  obtain ⟨-, -, -, hbody⟩ := (hreceives _ _ _ hinject hmodules).1 hchars
    ⟨"vs:glow", .hook .vertex "glow", "lamp();", .wide (-1)⟩
    (.inr ⟨lamp (-1), by simp, .vertex, by simp [lamp, ShaderModule.injections]⟩) rfl
  obtain ⟨body, hlamp, hblock⟩ := hbody _ hcode
  exact ⟨hparse.2 hchars, _, body, hcode, hlamp, hblock⟩

/-- Hooks that are accepted although their keys are refused: one named by two words, and one whose
declaration for a stage names the other one. A third one has the key of the declarations. -/
theorem hooks_without_keys :
    ∃ twoWords otherStage hash : Hook,
      Hook.ofDeclarations (.list [.text "vs:my glow()"]) = .ok [twoWords] ∧
      (Target.parse twoWords.key).toOption = none ∧
      Hook.ofDeclarations (.list [.map .plain [(.text "vs", .text "fs:glow()")]]) =
        .ok [otherStage] ∧
      (Target.parse otherStage.key).toOption = none ∧
      Hook.ofDeclarations (.list [.text "vs:#decl()"]) = .ok [hash] ∧
      (Target.parse hash.key).toOption = some (.declarations .vertex) :=
  ⟨⟨.vertex, "my glow()", .text "", .text ""⟩, ⟨.vertex, "fs:glow()", .text "", .text ""⟩,
    ⟨.vertex, "#decl()", .text "", .text ""⟩, rfl, by decide +kernel, rfl, by decide +kernel, rfl,
    by decide +kernel⟩

end ShaderLoom
