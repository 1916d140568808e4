import ShaderLoom.Proofs.Defines
import ShaderLoom.Proofs.Entries
import ShaderLoom.Proofs.Injection.Slots

/-!
# Which defines win

Merged defines are told apart by their keys, but a line carries the upper case of the key. So a
define overrides those of earlier modules under the same key, and not those under another key that
is written as the same name. A name is settled if it is defined at most once, as it is by the last
source that has a key written as it; `isSettled_iff` says when this is so, and it always is if only
one key is written as the name.
-/

namespace ShaderLoom

namespace Defines

/-! ### Lines -/

/-- A name that is defined, and the text that it stands for. -/
structure Definition where
  name : String
  text : String

/-- The line of a definition. -/
def Definition.line (d : Definition) : String := s!"#define {d.name} {d.text}"

/-- The definition is that of the entry. -/
def Definition.IsOf (d : Definition) (e : Value × Value) : Prop :=
  macroName e.1 = .ok d.name ∧ valueText e.2 = .ok d.text

/-- Whether the entry is written. -/
def isKept (e : Value × Value) : Bool := (isWritten e.2).toOption = some true

/-- The entries that are written. -/
def written (es : Entries) : Entries := es.filter isKept

/-- The code of definitions. -/
def layout (ds : List Definition) : String :=
  joinTexts "\n" (["", "// APPLICATION DEFINES"] ++ ds.map (·.line)) ++ "\n"

lemma line?_eq_ok {e : Value × Value} {l : Option String} (h : line? e.1 e.2 = .ok l) :
    (isKept e = false ∧ l = none) ∨
      (isKept e = true ∧ ∃ d, Definition.IsOf d e ∧ l = some d.line) := by
  unfold isKept
  obtain ⟨kept, hkept, h⟩ := bind_eq_ok.1 h
  rw [hkept]
  cases kept with
  | false => exact .inl ⟨rfl, (Except.ok.inj h).symm⟩
  | true =>
    obtain ⟨name, hname, h⟩ := bind_eq_ok.1 h
    obtain ⟨text, htext, h⟩ := bind_eq_ok.1 h
    exact .inr ⟨rfl, ⟨name, text⟩, ⟨hname, htext⟩, (Except.ok.inj h).symm⟩

lemma lines_eq_ok {es : Entries} {lines : List (Option String)}
    (h : (es.mapM fun e => line? e.1 e.2) = .ok lines) :
    ∃ ds, List.Forall₂ Definition.IsOf ds (written es) ∧
      lines.filterMap id = ds.map (·.line) := by
  rw [mapM_eq_ok_iff] at h
  induction h with
  | nil => exact ⟨[], .nil, rfl⟩
  | cons hl _ ih =>
    obtain ⟨ds, hds, hlines⟩ := ih
    rcases line?_eq_ok hl with ⟨hkept, rfl⟩ | ⟨hkept, d, hd, rfl⟩
    · exact ⟨ds, by simpa [written, hkept] using hds, by simpa using hlines⟩
    · refine ⟨d :: ds, ?_, by simpa using hlines⟩
      rw [written, List.filter_cons_of_pos hkept]
      exact .cons hd hds

/-- The code has one line for each entry that is written, in their sequence. -/
lemma code_eq_ok {es : Entries} {text : String} (h : code es = .ok text) :
    ∃ ds, List.Forall₂ Definition.IsOf ds (written es) ∧
      text = if es.isEmpty then "\n" else layout ds := by
  unfold code at h
  split at h
  · next hempty =>
    obtain rfl := List.isEmpty_iff.1 hempty
    exact ⟨[], .nil, (Except.ok.inj h).symm⟩
  · next hempty =>
    obtain ⟨lines, hlines, h⟩ := bind_eq_ok.1 h
    obtain ⟨ds, hds, hmap⟩ := lines_eq_ok hlines
    refine ⟨ds, hds, ?_⟩
    rw [if_neg hempty, ← Except.ok.inj h, hmap]
    rfl

/-! ### Sources -/

/-- Where defines come from: the modules, and the application at last. -/
def sources (modules : List ShaderModule) (application : Entries) : List Entries :=
  modules.map (·.defines.entries) ++ [application]

lemma ofModules_eq_union (modules : List ShaderModule) :
    ofModules modules = Entries.union (modules.map (·.defines.entries)) := by
  induction modules using List.reverseRecOn with
  | nil => rfl
  | append_singleton modules m ih =>
    rw [List.map_append, List.map_singleton, Entries.union_concat, ← ih]
    simp [ofModules]

lemma merge_eq {modules : List ShaderModule} {application : Value} {es : Entries}
    (h : ShaderModule.optionalEntries application = .ok es) :
    merge modules application = .ok (Entries.union (sources modules es)) := by
  rw [merge_of_optionalEntries h, sources, Entries.union_concat, ofModules_eq_union]

lemma textsDistinct_of_isMade {m : ShaderModule} (hm : m.IsMade) :
    m.defines.entries.TextsDistinct := by
  obtain ⟨functions, id, d, h⟩ := hm
  obtain ⟨-, ⟨es, hes⟩, -⟩ := ShaderModule.parts_of_create h
  obtain ⟨digest, -, hsealed⟩ := bind_eq_ok.1 hes
  rw [← Except.ok.inj hsealed]
  exact Entries.textsDistinct_ofList es

lemma textsDistinct_of_mem_sources {modules : List ShaderModule} {application : Entries}
    (hmodules : ∀ m ∈ modules, m.IsMade) (happlication : application.TextsDistinct) {es : Entries}
    (hes : es ∈ sources modules application) : es.TextsDistinct := by
  rcases List.mem_append.1 hes with hes | hes
  · obtain ⟨m, hm, rfl⟩ := List.mem_map.1 hes
    exact textsDistinct_of_isMade (hmodules m hm)
  · obtain rfl : es = application := by simpa using hes
    exact happlication

/-! ### Names -/

/-- Whether the key is written as the name. -/
def isNamed (name : String) (key : Value) : Bool := (macroName key).toOption = some name

/-- The entries that are written as the name. -/
def writtenAs (name : String) (es : Entries) : Entries :=
  es.filter fun e => isNamed name e.1 && isKept e

/-- The last source that has a key which is written as the name. -/
def decider (sources : List Entries) (name : String) : Entries :=
  (sources.reverse.find? fun es => es.any (isNamed name ·.1)).getD []

/-- The name is defined at most once, and as by the last source that has a key written as it. -/
structure IsSettled (sources : List Entries) (name : String) (merged : Entries) : Prop where
  unique : (writtenAs name merged).length ≤ 1
  decided : writtenAs name merged = writtenAs name (decider sources name)

lemma exists_text_of_isNamed {name : String} {key : Value} (h : isNamed name key = true) :
    ∃ s, key = .text s := by
  cases key with
  | text s => exact ⟨s, rfl⟩
  | _ => exact absurd h (by simp [isNamed, macroName, Except.toOption])

lemma mem_writtenAs {name : String} {es : Entries} {e : Value × Value} :
    e ∈ writtenAs name es ↔ e ∈ es ∧ isNamed name e.1 = true ∧ isKept e = true := by
  simp [writtenAs, List.mem_filter]

/-- The definitions of a name are those of the entries that are written as it. -/
lemma forall₂_writtenAs {ds : List Definition} {es : Entries}
    (h : List.Forall₂ Definition.IsOf ds (written es)) (name : String) :
    List.Forall₂ Definition.IsOf (ds.filter (·.name = name)) (writtenAs name es) := by
  rw [writtenAs, ← List.filter_filter, ← written]
  generalize written es = kept at h
  induction h with
  | nil => exact .nil
  | @cons d e ds es hd _ ih =>
    have hname : isNamed name e.1 = decide (d.name = name) := by
      simp [isNamed, hd.1, Except.toOption]
    rw [List.filter_cons, List.filter_cons, hname]
    split
    · exact .cons hd ih
    · exact ih

/-- If the entries that are written as a name have one key, there is only one of them. -/
lemma writtenAs_eq_singleton {name s : String} {es : Entries} {e : Value × Value}
    (hes : es.TextsDistinct) (he : e ∈ writtenAs name es)
    (hkey : ∀ e' ∈ writtenAs name es, e'.1 = .text s) : writtenAs name es = [e] :=
  (hes.sublist List.filter_sublist).eq_singleton he hkey

/-! ### The source that decides -/

section Winners

variable {sources : List Entries} {name : String}

/-- One of the sources has the text as a key. -/
def IsKey (sources : List Entries) (s : String) : Prop := ∃ es ∈ sources, .text s ∈ es.keys

/-- The value that the last source with a text as a key has under it. -/
def winner? (sources : List Entries) (s : String) : Option Value :=
  sources.reverse.findSome? (·.getText? s)

lemma decider_cases (sources : List Entries) (name : String) :
    (∀ es ∈ sources, ∀ e ∈ es, isNamed name e.1 = false) ∧ decider sources name = [] ∨
    ∃ later earlier, sources.reverse = later ++ decider sources name :: earlier ∧
      (∀ es ∈ later, ∀ e ∈ es, isNamed name e.1 = false) ∧
      ∃ e ∈ decider sources name, isNamed name e.1 = true := by
  unfold decider
  cases hfind : sources.reverse.find? fun es => es.any (isNamed name ·.1) with
  | none =>
    left
    rw [List.find?_eq_none] at hfind
    refine ⟨fun es hes e he => ?_, rfl⟩
    have hany := hfind es (List.mem_reverse.2 hes)
    rw [Bool.not_eq_true, List.any_eq_false] at hany
    exact Bool.eq_false_iff.2 (hany e he)
  | some es =>
    right
    obtain ⟨hes, later, earlier, hsources, hlater⟩ := List.find?_eq_some_iff_append.1 hfind
    refine ⟨later, earlier, hsources, fun es' hes' e he => ?_, List.any_eq_true.1 hes⟩
    have hany := hlater es' hes'
    rw [Bool.not_eq_true', List.any_eq_false] at hany
    exact Bool.eq_false_iff.2 (hany e he)

variable (hdistinct : ∀ es ∈ sources, es.TextsDistinct)
include hdistinct

lemma mem_union_iff {s : String} {v : Value} :
    (.text s, v) ∈ Entries.union sources ↔ winner? sources s = some v := by
  rw [winner?, ← Entries.getText?_union hdistinct]
  exact (Entries.textsDistinct_ofList _).mem_iff

/-- The entries of the decider that are written as the name win. -/
lemma winner?_of_mem_decider {s : String} {v : Value} (hs : isNamed name (.text s) = true)
    (hmem : (.text s, v) ∈ decider sources name) : winner? sources s = some v := by
  rcases decider_cases sources name with ⟨-, hnil⟩ | ⟨later, earlier, hsources, hlater, -⟩
  · simp [hnil] at hmem
  have hdistinct' : ∀ es ∈ later ++ decider sources name :: earlier, es.TextsDistinct :=
    fun es hes => hdistinct es (by simpa [← hsources] using hes)
  -- no later source has the text, since none has a key written as the name
  have hnone : later.findSome? (·.getText? s) = none := by
    rw [List.findSome?_eq_none_iff]
    intro es hes
    cases hget : es.getText? s with
    | none => rfl
    | some w =>
      have hentry := (hdistinct' es (by simp [hes])).mem_iff.2 hget
      exact absurd hs (by simp [hlater es hes _ hentry])
  have hget := (hdistinct' (decider sources name) (by simp)).mem_iff.1 hmem
  rw [winner?, hsources, List.findSome?_append, hnone, List.findSome?_cons, hget]
  rfl

/-- A name is settled just if every entry that wins under a key written as it, and is written, is
the only one that the decider writes as it. -/
lemma isSettled_iff : IsSettled sources name (Entries.union sources) ↔
    ∀ s v, winner? sources s = some v → isNamed name (.text s) = true →
      isKept (.text s, v) = true → writtenAs name (decider sources name) = [(.text s, v)] := by
  have hunion : (Entries.union sources).TextsDistinct := Entries.textsDistinct_ofList _
  constructor
  · intro h s v hwin hname hkept
    have hmem : (.text s, v) ∈ writtenAs name (Entries.union sources) :=
      mem_writtenAs.2 ⟨(mem_union_iff hdistinct).2 hwin, hname, hkept⟩
    rw [← h.decided]
    obtain ⟨e, he⟩ := List.length_eq_one_iff.1
      (le_antisymm h.unique (List.length_pos_of_mem hmem))
    rw [he] at hmem ⊢
    rw [List.mem_singleton.1 hmem]
  · intro h
    have heq : ∀ e ∈ writtenAs name (Entries.union sources),
        writtenAs name (decider sources name) = [e] := by
      rintro ⟨k, v⟩ he
      obtain ⟨hmem, hname, hkept⟩ := mem_writtenAs.1 he
      obtain ⟨s, rfl⟩ := exists_text_of_isNamed hname
      exact h s v ((mem_union_iff hdistinct).1 hmem) hname hkept
    cases hall : writtenAs name (Entries.union sources) with
    | nil =>
      -- what the decider writes wins, so it writes nothing either
      refine ⟨by simp [hall], hall.trans (List.eq_nil_iff_forall_not_mem.2 ?_).symm⟩
      rintro ⟨k, v⟩ he
      obtain ⟨hmem, hname, hkept⟩ := mem_writtenAs.1 he
      obtain ⟨s, rfl⟩ := exists_text_of_isNamed hname
      have hwin := winner?_of_mem_decider hdistinct hname hmem
      have hwritten := mem_writtenAs.2 ⟨(mem_union_iff hdistinct).2 hwin, hname, hkept⟩
      exact List.not_mem_nil (hall ▸ hwritten)
    | cons e rest =>
      have he : e ∈ writtenAs name (Entries.union sources) := by simp [hall]
      have hdecider := heq e he
      obtain ⟨s, hs⟩ := exists_text_of_isNamed (mem_writtenAs.1 he).2.1
      have hone : writtenAs name (Entries.union sources) = [e] := by
        refine writtenAs_eq_singleton hunion he (s := s) fun e' he' => ?_
        rw [← hs, List.singleton_injective ((heq e' he').symm.trans hdecider)]
      exact ⟨by simp [hone], hone.trans hdecider.symm⟩

/-- A name is settled if only one key is written as it. -/
lemma isSettled_of_one_key
    (hone : ∀ s s', IsKey sources s → IsKey sources s' → isNamed name (.text s) = true →
      isNamed name (.text s') = true → s = s') :
    IsSettled sources name (Entries.union sources) := by
  rw [isSettled_iff hdistinct]
  intro s v hwin hname hkept
  obtain ⟨es, hes, hget⟩ := List.exists_of_findSome?_eq_some hwin
  have hes : es ∈ sources := List.mem_reverse.1 hes
  have hmem : (.text s, v) ∈ es := (hdistinct es hes).mem_iff.2 hget
  rcases decider_cases sources name with ⟨hnone, -⟩ | ⟨later, earlier, hsources, -, e, he, hnamed⟩
  · exact absurd hname (by simp [hnone es hes _ hmem])
  have hdecider : decider sources name ∈ sources := by
    rw [← List.mem_reverse, hsources]
    simp
  -- every key of the decider that is written as the name is the one that wins
  have eq_of_mem : ∀ {s' w}, (Value.text s', w) ∈ decider sources name →
      isNamed name (.text s') = true → s = s' := fun hmem' hname' =>
    hone _ _ ⟨es, hes, List.mem_map_of_mem hmem⟩ ⟨_, hdecider, List.mem_map_of_mem hmem'⟩ hname
      hname'
  obtain ⟨k, w⟩ := e
  obtain ⟨s', rfl⟩ := exists_text_of_isNamed hnamed
  obtain rfl := eq_of_mem he hnamed
  obtain rfl : w = v :=
    Option.some.inj ((winner?_of_mem_decider hdistinct hnamed he).symm.trans hwin)
  refine writtenAs_eq_singleton (hdistinct _ hdecider) (mem_writtenAs.2 ⟨he, hname, hkept⟩)
    (s := s) ?_
  rintro ⟨k, w⟩ he'
  obtain ⟨hmem', hname', -⟩ := mem_writtenAs.1 he'
  obtain ⟨s', rfl⟩ := exists_text_of_isNamed hname'
  rw [eq_of_mem hmem' hname']

end Winners

/-- **Defines by name.**  The defines of modules and of an application are merged to the entries
that win under their keys, and the code has a line for each of them that is written, with the upper
case of the key. So a name can have several lines, or one that the last source with a key written as
it did not ask for: it is settled just if every entry that wins under a key written as it, and is
written, is the only one that this source writes as it. In particular it is settled if only one key
is written as it. -/
theorem merge_settles_names {modules : List ShaderModule} {application : Value} {es : Entries}
    (hmodules : ∀ m ∈ modules, m.IsMade)
    (happlication : ShaderModule.optionalEntries application = .ok es)
    (hdistinct : es.TextsDistinct) :
    ∃ merged, merge modules application = .ok merged ∧
      merged.TextsDistinct ∧ (∀ s, merged.getText? s = winner? (sources modules es) s) ∧
      (∀ text, code merged = .ok text →
        ∃ ds, text = (if merged.isEmpty then "\n" else layout ds) ∧
          List.Forall₂ Definition.IsOf ds (written merged) ∧
          ∀ name, List.Forall₂ Definition.IsOf (ds.filter (·.name = name))
            (writtenAs name merged)) ∧
      ∀ name,
        (IsSettled (sources modules es) name merged ↔
          ∀ s v, winner? (sources modules es) s = some v → isNamed name (.text s) = true →
            isKept (.text s, v) = true →
            writtenAs name (decider (sources modules es) name) = [(.text s, v)]) ∧
        ((∀ s s', IsKey (sources modules es) s → IsKey (sources modules es) s' →
            isNamed name (.text s) = true → isNamed name (.text s') = true → s = s') →
          IsSettled (sources modules es) name merged) := by
  have hsources : ∀ es' ∈ sources modules es, es'.TextsDistinct := fun es' hes' =>
    textsDistinct_of_mem_sources hmodules hdistinct hes'
  refine ⟨_, merge_eq happlication, Entries.textsDistinct_ofList _,
    fun s => Entries.getText?_union hsources s, fun text h => ?_,
    fun name => ⟨isSettled_iff hsources, isSettled_of_one_key hsources⟩⟩
  obtain ⟨ds, hds, htext⟩ := code_eq_ok h
  exact ⟨ds, htext, hds, fun name => forall₂_writtenAs hds name⟩

end Defines

/-- A module that defines one name, as one. -/
def oneDefine (key : String) : ShaderModule where
  ref := ⟨0, "a"⟩
  vertex := .absent
  fragment := .absent
  dependencies := []
  defines := ⟨[(.text key, .int 1)], .mapping [.text key, .number 1]⟩
  vertexInjections := []
  fragmentInjections := []
  uniforms := []
  driver := none
  deprecations := []

/-- The declaration of the module. -/
def oneDefineDeclaration (key : String) : ModuleDeclaration where
  name := .text "a"
  defines := .map .plain [(.text key, .int 1)]

/-- Functions that give nothing. -/
def noFunctions : Functions := fun _ =>
  ⟨fun _ => .error .unsupported, fun _ _ => .error .unsupported⟩

/-- A define of the application overrides one of a module, and another one is suppressed. -/
theorem application_overrides_foo :
    ∃ merged, Defines.merge [oneDefine "FOO"]
        (.map .plain [(.text "FOO", .int 2), (.text "SPAM", .bool false)]) = .ok merged ∧
      Defines.code merged = .ok "\n// APPLICATION DEFINES\n#define FOO 2\n" ∧
      Defines.IsSettled
        (Defines.sources [oneDefine "FOO"] [(.text "FOO", .int 2), (.text "SPAM", .bool false)])
        "FOO" merged := by
  have hmodules : ∀ m ∈ [oneDefine "FOO"], m.IsMade := by
    intro m hm
    obtain rfl : m = oneDefine "FOO" := by simpa using hm
    exact ⟨noFunctions, 0, oneDefineDeclaration "FOO", rfl⟩
  have happlication : ShaderModule.optionalEntries
      (.map .plain [(.text "FOO", .int 2), (.text "SPAM", .bool false)]) =
        .ok [(.text "FOO", .int 2), (.text "SPAM", .bool false)] := rfl
  have hdistinct : Entries.TextsDistinct
      [(.text "FOO", .int 2), (.text "SPAM", .bool false)] := by
    unfold Entries.TextsDistinct
    decide
  obtain ⟨merged, hmerge, -, -, -, hsettled⟩ :=
    Defines.merge_settles_names hmodules happlication hdistinct
  obtain rfl := Except.ok.inj hmerge
  refine ⟨_, rfl, toOption_eq_some.1 (by decide +kernel), (hsettled "FOO").2 ?_⟩
  have hkeys : ∀ s, Defines.IsKey (Defines.sources [oneDefine "FOO"]
      [(.text "FOO", .int 2), (.text "SPAM", .bool false)]) s → s = "FOO" ∨ s = "SPAM" := by
    rintro s ⟨es, hes, hs⟩
    simp only [Defines.sources, oneDefine, List.map_cons, List.map_nil, List.cons_append,
      List.nil_append, List.mem_cons, List.not_mem_nil, or_false] at hes
    rcases hes with rfl | rfl <;> simp [Entries.keys] at hs <;> tauto
  have hspam : Defines.isNamed "FOO" (.text "SPAM") = false := by decide +kernel
  intro s s' hs hs' hname hname'
  rcases hkeys s hs with rfl | rfl <;> rcases hkeys s' hs' with rfl | rfl <;> simp_all

/-- Under keys in another case, both defines are written, and the one of the module cannot be
suppressed. -/
theorem other_case_does_not_override :
    (oneDefine "foo").IsMade ∧
    Defines.isNamed "FOO" (.text "foo") = true ∧ Defines.isNamed "FOO" (.text "FOO") = true ∧
    (∃ merged, Defines.merge [oneDefine "foo"] (.map .plain [(.text "FOO", .int 2)]) = .ok merged ∧
      Defines.code merged =
        .ok "\n// APPLICATION DEFINES\n#define FOO 1\n#define FOO 2\n" ∧
      ¬ Defines.IsSettled (Defines.sources [oneDefine "foo"] [(.text "FOO", .int 2)]) "FOO"
        merged) ∧
    ∃ merged,
      Defines.merge [oneDefine "foo"] (.map .plain [(.text "FOO", .bool false)]) = .ok merged ∧
      Defines.code merged = .ok "\n// APPLICATION DEFINES\n#define FOO 1\n" ∧
      ¬ Defines.IsSettled (Defines.sources [oneDefine "foo"] [(.text "FOO", .bool false)]) "FOO"
        merged := by
  refine ⟨⟨noFunctions, 0, oneDefineDeclaration "foo", rfl⟩, by decide +kernel, by decide +kernel,
    ⟨_, rfl, toOption_eq_some.1 (by decide +kernel), ?_⟩,
    ⟨_, rfl, toOption_eq_some.1 (by decide +kernel), ?_⟩⟩
  · intro h
    exact absurd h.unique (by decide +kernel)
  · intro h
    exact absurd (congrArg List.length h.decided) (by decide +kernel)

end ShaderLoom
