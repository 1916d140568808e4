import ShaderLoom.Hook.Code
import ShaderLoom.Proofs.Hook.Declarations
import ShaderLoom.Proofs.Injection.Order

/-!
# What the code of hooks consists of

The code of the hooks of a stage is made of one block for each hook that is kept, and the body of a
block holds the injections under the key of the hook, each of them once and in the sequence of their
orders (`Hook.codeAll_eq_blocks`). So an injection for another stage, or for a hook that is not
declared, is in none of them. A hook can be declared under a name that starts with a hash, but keys
with a hash are those of declarations and of places; no injection goes into its body.
-/

namespace ShaderLoom

open Text

namespace Hook

variable {h : Hook} {is : List Injection}

/-! ### Injections into a hook -/

/-- The contributions to the body of a hook, which are those under its key. A key with a hash means
declarations or a place. -/
def injections (h : Hook) (is : List Injection) : List Injection :=
  if h.name.toList.head? = some '#' then [] else is.filter (·.key = h.key)

lemma injections_subset (h : Hook) (is : List Injection) : h.injections is ⊆ is := by
  rw [injections]
  split
  · simp
  · exact List.filter_subset_self is

lemma parse_key (h : Hook) :
    (Target.parse h.key).toOption = stageTarget? h.stage h.name.toList := by
  rw [Target.parse, toList_key, isBlankText_label, if_neg Bool.false_ne_true, splitStage?_label]
  dsimp only
  cases stageTarget? h.stage h.name.toList <;> rfl

lemma stageTarget?_of_key {i : Injection} (hread : i.IsRead) (hkey : i.key = h.key) :
    stageTarget? h.stage h.name.toList = some i.target := by
  rw [← parse_key, ← hkey, toOption_eq_some]
  exact hread

lemma trim_ne_concat {cs name : List Char} {c : Char} (hc : isBlank c = true) :
    trim cs ≠ name ++ [c] := by
  intro htrim
  have hdrop : (trimLeft cs).reverse.dropWhile isBlank = c :: name.reverse := by
    rw [← List.reverse_reverse (List.dropWhile _ _), ← trimRight, ← trim, htrim]
    simp
  have hhead := List.head?_dropWhile_not isBlank (trimLeft cs).reverse
  rw [hdrop] at hhead
  simp [hc] at hhead

/-- The key of a hook is read as the hook, unless its name starts with a hash. -/
lemma target_of_key {i : Injection} (hread : i.IsRead) (hkey : i.key = h.key)
    (hhash : h.name.toList.head? ≠ some '#') : i.target = .hook h.stage h.name := by
  have htarget := stageTarget?_of_key hread hkey
  rw [stageTarget?_of_head?_ne _ hhash] at htarget
  obtain ⟨name, hname, htarget⟩ := Option.map_eq_some_iff.1 htarget
  obtain ⟨s, rfl⟩ : ∃ s : String, s.toList = name := ⟨.ofList name, String.toList_ofList⟩
  rw [← htarget]
  rcases (wholeName?_eq_some_iff.1 hname).2 with hname | hname
  · rw [← hname, String.ofList_toList]
  · -- no line break is left at the end of a name
    exact absurd (by rw [← hname, Hook.name, String.toList_ofList, signatureName])
      (trim_ne_concat (by decide))

lemma isHook_eq_false {i : Injection} (hread : i.IsRead) (hkey : i.key = h.key)
    (hhash : h.name.toList.head? = some '#') : Slots.isHook i = false := by
  have htarget := stageTarget?_of_key hread hkey
  obtain ⟨cs, hname⟩ := List.head?_eq_some_iff.1 hhash
  rw [hname, stageTarget?] at htarget
  obtain ⟨name, -, htarget⟩ := Option.map_eq_some_iff.1 htarget
  rw [Slots.isHook, ← htarget]
  by_cases hdecl : String.ofList name = "decl" <;> simp [hdecl]

/-- The bucket of a hook holds the contributions to its body. -/
lemma lookup_hooks (h : Hook) (hread : ∀ i ∈ is, i.IsRead) :
    Bucket.lookup (Slots.ofContributions is).hooks h.key = h.injections is := by
  rw [Slots.ofContributions, Bucket.lookup_collect, List.filter_filter, injections]
  split
  · next hhash =>
    rw [List.filter_eq_nil_iff]
    intro i hi
    by_cases hkey : i.key = h.key
    · simp [isHook_eq_false (hread i hi) hkey hhash]
    · simp [hkey]
  · next hhash =>
    refine List.filter_congr fun i hi => ?_
    by_cases hkey : i.key = h.key
    · simp [hkey, Slots.isHook, target_of_key (hread i hi) hkey hhash]
    · simp [hkey]

/-! ### Blocks -/

/-- The indented text of a header or a footer, if there is one. -/
def partCode (part : String) : List Char := if part = "" then [] else indent part.toList

/-- The block of a hook with the given header, injections and footer. -/
def block (h : Hook) (header footer : String) (body : List Injection) : List Char :=
  "void ".toList ++ h.signature.toList ++ " \x7b\n".toList ++ partCode header ++
    body.flatMap (fun i => indent i.content.toList) ++ partCode footer ++ "\x7d\n".toList

lemma indentedPart_text (part : String) : indentedPart (.text part) = .ok (partCode part) := by
  by_cases hpart : part = "" <;>
    simp [indentedPart, partCode, Value.truth, hpart, bind, Except.bind]

/-- The text is the block of a hook, with the contributions to its body in their sequence. -/
def IsBlock (is : List Injection) (h : Hook) (code : List Char) : Prop :=
  ∃ header footer body, h.header = .text header ∧ h.footer = .text footer ∧
    Injection.InOrder (h.injections is) body ∧ code = h.block header footer body

/-- What has to be given for the code of a hook: texts as its header and its footer, and
contributions whose orders can be compared. -/
structure Ready (is : List Injection) (h : Hook) : Prop where
  header : ∃ header, h.header = .text header
  footer : ∃ footer, h.footer = .text footer
  sortable : Injection.Sortable (h.injections is)

lemma Ready.exists_isBlock (hready : h.Ready is) :
    ∃ code, h.code (h.injections is) = .ok code ∧ IsBlock is h code := by
  obtain ⟨header, hheader⟩ := hready.header
  obtain ⟨footer, hfooter⟩ := hready.footer
  obtain ⟨body, hbody, hinOrder⟩ := hready.sortable.exists_inOrder
  refine ⟨h.block header footer body, ?_, header, footer, body, hheader, hfooter, hinOrder, rfl⟩
  rw [code, hheader, hfooter, indentedPart_text, indentedPart_text, hbody]
  rfl

lemma exists_codeAll {hooks : List Hook} {buckets : List Bucket}
    (hlookup : ∀ h : Hook, Bucket.lookup buckets h.key = h.injections is)
    (hready : ∀ h ∈ hooks, h.Ready is) :
    ∃ blocks, List.Forall₂ (IsBlock is) hooks blocks ∧
      codeAll hooks buckets = .ok blocks.flatten := by
  have hblocks : ∃ blocks, List.Forall₂ (IsBlock is) hooks blocks ∧
      List.Forall₂ (fun h block => h.code (Bucket.lookup buckets h.key) = .ok block)
        hooks blocks := by
    induction hooks with
    | nil => exact ⟨[], .nil, .nil⟩
    | cons h hooks ih =>
      obtain ⟨code, hcode, hblock⟩ := (hready h (by simp)).exists_isBlock
      obtain ⟨blocks, hblocks, hcodes⟩ := ih fun k hk => hready k (by simp [hk])
      rw [← hlookup h] at hcode
      exact ⟨code :: blocks, .cons hblock hblocks, .cons hcode hcodes⟩
  obtain ⟨blocks, hblocks, hcodes⟩ := hblocks
  exact ⟨blocks, hblocks, bind_eq_ok.2 ⟨blocks, mapM_eq_ok_iff.2 hcodes, rfl⟩⟩

/-- The code of the hooks of a stage consists of the blocks of those that are kept, each with the
injections under its key. -/
theorem codeAll_eq_blocks {inject declarations : Value} {application : List Injection}
    {modules : List ShaderModule} {hooks : List Hook} {stage : Stage}
    (hinject : Injection.ofApplication inject = .ok application)
    (hmodules : ∀ m ∈ modules, m.IsMade)
    (hhooks : ofDeclarations declarations = .ok hooks)
    (hready : ∀ h ∈ forStage hooks stage, h.Ready (Slots.contributions stage application modules)) :
    ∃ declared blocks,
      readAll declarations = .ok declared ∧
      Kept (forStage declared stage) (forStage hooks stage) ∧
      List.Forall₂ (IsBlock (Slots.contributions stage application modules))
        (forStage hooks stage) blocks ∧
      (∀ h ∈ forStage hooks stage,
        ∀ i ∈ h.injections (Slots.contributions stage application modules),
          i.target = .hook stage h.name) ∧
      codeAll (forStage hooks stage) (Slots.classify stage application modules).hooks =
        .ok blocks.flatten := by
  have hread : ∀ i ∈ Slots.contributions stage application modules, i.IsRead := fun i hi =>
    (Slots.isRead_of_mem_contributions
      (fun i hi => Injection.isRead_of_ofApplication hinject hi) hmodules hi).1
  obtain ⟨declared, hdeclared, hkept⟩ := kept_forStage hhooks stage
  obtain ⟨blocks, hblocks, hcode⟩ := exists_codeAll (fun h => lookup_hooks h hread) hready
  refine ⟨declared, blocks, hdeclared, hkept, hblocks, ?_, hcode⟩
  intro h hh i hi
  have hstage : h.stage = stage := by simpa using (List.mem_filter.1 hh).2
  rw [injections] at hi
  split at hi
  · simp at hi
  · next hhash =>
    obtain ⟨hmem, hkey⟩ := List.mem_filter.1 hi
    rw [target_of_key (hread i hmem) (by simpa using hkey) hhash, hstage]

end Hook

/-- A module that contributes to a hook, with a fixed-width number as the order. -/
def lamp (order : Float) : ShaderModule where
  ref := ⟨0, "lamp"⟩
  vertex := .absent
  fragment := .absent
  dependencies := []
  defines := ⟨[], .number 0⟩
  vertexInjections := [⟨"vs:glow", .hook .vertex "glow", "lamp();", .wide order⟩]
  fragmentInjections := []
  uniforms := []
  driver := none
  deprecations := []

lemma isMade_lamp (order : Float) : (lamp order).IsMade := by
  refine ⟨fun _ => ⟨fun _ => .error .unsupported, fun _ _ => .error .unsupported⟩, 0,
    { name := .text "lamp", inject := .map .plain
        [(.text "vs:glow", .map .plain [(.text "content", .text "lamp();"),
          (.text "order", .scalar (.double order))])] }, ?_⟩
  rfl

/-- Injections for a hook, for the other stage, and for a hook that is not declared. -/
def glowInjections : List Injection :=
  [⟨"vs:glow", .hook .vertex "glow", "app();", .whole 0⟩,
    ⟨"fs:glow", .hook .fragment "glow", "other();", .whole 0⟩,
    ⟨"vs:shade", .hook .vertex "shade", "unused();", .whole 0⟩]

/-- A hook that is declared twice, and one of the other stage. -/
def glowDeclarations : Value :=
  .list [.text "vs:glow()", .text "fs:glow()",
    .map .plain [(.text "hook", .text "vs:glow(vec3 p)"), (.text "header", .text "// glow")]]

/-- The hooks that are kept of the declarations. -/
def glowHooks : List Hook :=
  [⟨.vertex, "glow(vec3 p)", .text "// glow", .text ""⟩, ⟨.fragment, "glow()", .text "", .text ""⟩]

/-- The later declaration counts, and the module comes first. -/
theorem glowHooks_code :
    ∃ declared blocks,
      Hook.readAll glowDeclarations = .ok declared ∧
      Hook.Kept (Hook.forStage declared .vertex) (Hook.forStage glowHooks .vertex) ∧
      List.Forall₂ (Hook.IsBlock (Slots.contributions .vertex glowInjections [lamp (-1)]))
        (Hook.forStage glowHooks .vertex) blocks ∧
      blocks.flatten =
        "void glow(vec3 p) \x7b\n  // glow\n  lamp();\n  app();\n\x7d\n".toList := by
  have hinject : Injection.ofApplication (.map .plain [(.text "vs:glow", .text "app();"),
      (.text "fs:glow", .text "other();"), (.text "vs:shade", .text "unused();")]) =
      .ok glowInjections := toOption_eq_some.1 (by decide +kernel)
  have hhooks : Hook.ofDeclarations glowDeclarations = .ok glowHooks := rfl
  have hmodules : ∀ m ∈ [lamp (-1)], m.IsMade := by
    intro m hm
    obtain rfl : m = lamp (-1) := by simpa using hm
    exact isMade_lamp (-1)
  have hsortable : Injection.Sortable
      (Slots.contributions .vertex glowInjections [lamp (-1)]) := by
    refine ⟨by decide +kernel, fun _ i hi => ?_⟩
    have hfit : ∀ i ∈ Slots.contributions .vertex glowInjections [lamp (-1)],
        i.order.double?.toOption.isSome := by decide +kernel
    exact exists_of_isSome_toOption (hfit i hi)
  have hready : ∀ h ∈ Hook.forStage glowHooks .vertex,
      h.Ready (Slots.contributions .vertex glowInjections [lamp (-1)]) := by
    intro h hh
    obtain rfl : h = ⟨.vertex, "glow(vec3 p)", .text "// glow", .text ""⟩ := by
      simpa [Hook.forStage, glowHooks] using hh
    exact ⟨⟨_, rfl⟩, ⟨_, rfl⟩, hsortable.subset (Hook.injections_subset _ _)⟩
  obtain ⟨declared, blocks, hdeclared, hkept, hblocks, -, hcode⟩ :=
    Hook.codeAll_eq_blocks hinject hmodules hhooks hready
  refine ⟨declared, blocks, hdeclared, hkept, hblocks, ?_⟩
  have hvalue : Hook.codeAll (Hook.forStage glowHooks .vertex)
      (Slots.classify .vertex glowInjections [lamp (-1)]).hooks =
      .ok "void glow(vec3 p) \x7b\n  // glow\n  lamp();\n  app();\n\x7d\n".toList :=
    toOption_eq_some.1 (by decide +kernel)
  exact Except.ok.inj (hcode.symm.trans hvalue)

/-- What is given to a hook without being a body in ascending order. A hook has the key of the
declarations, but an injection under this key is one of them. A header that is a number is accepted,
but there is no code for it. The number 9007199254740993 counts as 9007199254740992 beside a
fixed-width number, so that it is not put behind it, and 10 to the power of 400 does not fit. -/
theorem codeAll_of_odd_requests :
    (∃ application hooks,
      Injection.ofApplication (.map .plain [(.text "vs:#decl", .text "x")]) = .ok application ∧
      Hook.ofDeclarations (.list [.text "vs:#decl()"]) = .ok hooks ∧
      (Slots.contributions .vertex application []).map (·.key) = hooks.map (·.key) ∧
      Hook.codeAll (Hook.forStage hooks .vertex) (Slots.classify .vertex application []).hooks =
        .ok "void #decl() \x7b\n\x7d\n".toList) ∧
    (∃ hooks,
      Hook.ofDeclarations (.list [.map .plain [(.text "hook", .text "vs:glow()"),
        (.text "header", .int 3)]]) = .ok hooks ∧
      Hook.codeAll (Hook.forStage hooks .vertex) (Slots.classify .vertex [] []).hooks =
        .error .missingAttribute) ∧
    (∃ application hooks,
      Injection.ofApplication (.map .plain [(.text "vs:glow", .map .plain
        [(.text "content", .text "app();"), (.text "order", .int 9007199254740993)])]) =
          .ok application ∧
      Hook.ofDeclarations (.list [.text "vs:glow()"]) = .ok hooks ∧
      Hook.codeAll (Hook.forStage hooks .vertex)
        (Slots.classify .vertex application [lamp 9007199254740992]).hooks =
          .ok "void glow() \x7b\n  app();\n  lamp();\n\x7d\n".toList) ∧
    ∃ application hooks,
      Injection.ofApplication (.map .plain [(.text "vs:glow", .map .plain
        [(.text "content", .text "app();"), (.text "order", .int (10 ^ 400))])]) =
          .ok application ∧
      Hook.ofDeclarations (.list [.text "vs:glow()"]) = .ok hooks ∧
      (Hook.codeAll (Hook.forStage hooks .vertex)
        (Slots.classify .vertex application [lamp 1]).hooks).toOption = none := by
  refine ⟨⟨[⟨"vs:#decl", .declarations .vertex, "x", .whole 0⟩],
      [⟨.vertex, "#decl()", .text "", .text ""⟩], ?_, rfl, ?_, ?_⟩,
    ⟨[⟨.vertex, "glow()", .int 3, .text ""⟩], rfl, rfl⟩,
    ⟨[⟨"vs:glow", .hook .vertex "glow", "app();", .whole 9007199254740993⟩],
      [⟨.vertex, "glow()", .text "", .text ""⟩], ?_, rfl, ?_⟩,
    ⟨[⟨"vs:glow", .hook .vertex "glow", "app();", .whole (10 ^ 400)⟩],
      [⟨.vertex, "glow()", .text "", .text ""⟩], ?_, rfl, ?_⟩⟩
  · exact toOption_eq_some.1 (by decide +kernel)
  · decide +kernel
  · exact toOption_eq_some.1 (by decide +kernel)
  · exact toOption_eq_some.1 (by decide +kernel)
  · exact toOption_eq_some.1 (by decide +kernel)
  · exact toOption_eq_some.1 (by decide +kernel)
  · decide +kernel

end ShaderLoom
