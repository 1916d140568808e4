import ShaderLoom.Module.Source
import ShaderLoom.Proofs.Outcome
import ShaderLoom.Proofs.Resolution.Order

/-!
# Macros of modules

The code of a module is headed by a macro that is made of the upper case of the module's name, and
in which all characters other than letters and digits are the same. So the macro does not tell all
names apart: two names have one macro exactly if they are `SpelledAlike` (`presenceMacro_eq_iff`).
The modules of a resolution have different names, and so each of their macros stands for one module
exactly if no two of the names are spelled alike (`resolved_macros_identify_iff`).
-/

namespace ShaderLoom

open Text

/-! ### Names that are spelled alike -/

/-- Two characters cannot be told apart in a macro: they are the same, or neither of them is an
unaccented letter or a digit. -/
def LookAlike (c d : Char) : Prop := c = d ∨ isMacroChar c = false ∧ isMacroChar d = false

instance (c d : Char) : Decidable (LookAlike c d) := inferInstanceAs (Decidable (_ ∨ _))

/-- Two names cannot be told apart in a macro: their upper cases look alike, character by
character. -/
def SpelledAlike (a b : String) : Prop :=
  List.Forall₂ LookAlike (upper a.toList) (upper b.toList)

instance (a b : String) : Decidable (SpelledAlike a b) :=
  inferInstanceAs (Decidable (List.Forall₂ _ _ _))

/-- The character that stands for a character in a macro. -/
def macroChar (c : Char) : Char := if isMacroChar c then c else '_'

lemma macroChar_eq_iff {c d : Char} : macroChar c = macroChar d ↔ LookAlike c d := by
  have hunderscore : isMacroChar '_' = false := rfl
  unfold macroChar LookAlike
  cases hc : isMacroChar c <;> cases hd : isMacroChar d
  · simp
  · have hne : '_' ≠ d := by rintro rfl; simp [hunderscore] at hd
    have hne' : c ≠ d := by rintro rfl; simp [hc] at hd
    simp [hne, hne']
  · have hne : c ≠ '_' := by rintro rfl; simp [hunderscore] at hc
    have hne' : c ≠ d := by rintro rfl; simp [hc] at hd
    simp [hne, hne']
  · simp

lemma macroOfName_eq (name : List Char) : macroOfName name = (upper name).map macroChar := rfl

/-- Names have one macro exactly if they are spelled alike. -/
theorem macroOfName_eq_iff {a b : String} :
    macroOfName a.toList = macroOfName b.toList ↔ SpelledAlike a b := by
  rw [macroOfName_eq, macroOfName_eq, ← List.forall₂_eq_eq_eq, List.forall₂_map_left_iff,
    List.forall₂_map_right_iff, SpelledAlike]
  simp only [macroChar_eq_iff]

/-! ### Names in basic Latin -/

/-- Whether all characters of a name are basic Latin. -/
def isBasicName (name : String) : Bool := name.toList.all (·.toNat < 128)

lemma upper_of_basic {cs : List Char} (h : ∀ c ∈ cs, c.toNat < 128) :
    upper cs = cs.map Char.toUpper := by
  induction cs with
  | nil => rfl
  | cons c cs ih =>
    rw [List.forall_mem_cons] at h
    have hc : upperChars c = [c.toUpper] := by
      have hlt : c.val < 128 := h.1
      simp [upperChars, hlt]
    have hrest : cs.flatMap upperChars = cs.map Char.toUpper := ih h.2
    rw [upper, List.flatMap_cons, hc, hrest]
    rfl

lemma isMacroChar_toUpper {c : Char} (h : c.toNat < 128) :
    isMacroChar c.toUpper = isMacroChar c := by
  have hall : ∀ n < 128, isMacroChar (Char.ofNat n).toUpper = isMacroChar (Char.ofNat n) := by
    decide
  simpa using hall c.toNat h

/-- Two characters cannot be told apart in a macro if case does not count. -/
def LookAlikeInAnyCase (c d : Char) : Prop :=
  c.toUpper = d.toUpper ∨ isMacroChar c = false ∧ isMacroChar d = false

/-- Names in basic Latin are spelled alike if they have the same letters, in whatever case, and the
same digits at the same places, and any other characters at the other places. -/
theorem spelledAlike_iff_of_basic {a b : String} (ha : isBasicName a = true)
    (hb : isBasicName b = true) :
    SpelledAlike a b ↔ List.Forall₂ LookAlikeInAnyCase a.toList b.toList := by
  have hbasic : ∀ {name : String}, isBasicName name = true → ∀ c ∈ name.toList, c.toNat < 128 :=
    fun h c hc => by simpa using List.all_eq_true.1 h c hc
  have hchars : ∀ c d, (c, d) ∈ a.toList.zip b.toList →
      (LookAlike c.toUpper d.toUpper ↔ LookAlikeInAnyCase c d) := by
    intro c d hcd
    have hmem := List.of_mem_zip hcd
    rw [LookAlike, LookAlikeInAnyCase, isMacroChar_toUpper (hbasic ha c hmem.1),
      isMacroChar_toUpper (hbasic hb d hmem.2)]
  rw [SpelledAlike, upper_of_basic (hbasic ha), upper_of_basic (hbasic hb),
    List.forall₂_map_left_iff, List.forall₂_map_right_iff, List.forall₂_iff_zip,
    List.forall₂_iff_zip]
  exact and_congr_right fun _ => forall₃_congr hchars

namespace ShaderModule

/-! ### The heading of a source -/

/-- Modules have one macro exactly if their names are spelled alike. -/
theorem presenceMacro_eq_iff {m n : ShaderModule} :
    m.presenceMacro = n.presenceMacro ↔ SpelledAlike m.name n.name := by
  rw [presenceMacro, presenceMacro, String.append_right_inj, String.ofList_inj,
    macroOfName_eq_iff]

lemma newline_notMem_presenceMacro (m : ShaderModule) : '\n' ∉ m.presenceMacro.toList := by
  have hchar : ∀ c, macroChar c ≠ '\n' := by
    intro c hc
    unfold macroChar at hc
    split at hc
    · next h =>
      rw [hc] at h
      exact absurd h (by decide)
    · exact absurd hc (by decide)
  have hname : '\n' ∉ macroOfName m.name.toList := by
    rw [macroOfName_eq, List.mem_map]
    rintro ⟨c, -, hc⟩
    exact hchar c hc
  rw [presenceMacro, String.toList_append, List.mem_append, not_or]
  exact ⟨by decide, by rwa [String.toList_ofList]⟩

/-- The line that a source starts with. -/
def heading (code : String) : List Char := (cutAt '\n' code.toList).1

/-- Whatever the stage and the version are, the source of a module is headed by its macro. -/
theorem heading_of_code {m : ShaderModule} {surroundings : Template.Surroundings} {stage : Stage}
    {version : Value} {code : String} (h : m.code surroundings stage version = .ok code) :
    heading code = "#define ".toList ++ m.presenceMacro.toList := by
  obtain ⟨bare, -, h⟩ := bind_eq_ok.1 h
  obtain ⟨body, -, h⟩ := bind_eq_ok.1 h
  have hcut : '\n' ∉ "#define ".toList ++ m.presenceMacro.toList := by
    rw [List.mem_append, not_or]
    exact ⟨by decide, m.newline_notMem_presenceMacro⟩
  have hcode : code.toList = ("#define ".toList ++ m.presenceMacro.toList) ++
      '\n' :: (body.toList ++ ("// END MODULE_".toList ++ (m.name.toList ++ "\n\n".toList))) := by
    rw [← Except.ok.inj h, toList_joinTexts_empty]
    simp
  rw [heading, hcode, cutAt_append hcut]

end ShaderModule

/-! ### The modules of a resolution -/

/-- The sources of two modules of a resolution start with the same line exactly if their names are
spelled alike. So the macros identify the modules exactly if no two of the names are. -/
theorem resolved_macros_identify_iff {d : Directory} {requests : Value} {ms : List ShaderModule}
    (h : resolveValue d requests = .ok ms) (surroundings : Template.Surroundings) (stage : Stage)
    (version : Value) :
    (∀ m ∈ ms, ∀ code, m.code surroundings stage version = .ok code →
      ShaderModule.heading code = "#define ".toList ++ m.presenceMacro.toList) ∧
    (∀ m ∈ ms, ∀ n ∈ ms, m.presenceMacro = n.presenceMacro ↔ SpelledAlike m.name n.name) ∧
    ((∀ m ∈ ms, ∀ n ∈ ms, m.presenceMacro = n.presenceMacro → m = n) ↔
      ms.Pairwise fun m n => ¬SpelledAlike m.name n.name) := by
  have hnames : (ms.map (·.name)).Nodup := by
    obtain ⟨vs, -, hresolve⟩ := bind_eq_ok.1 h
    exact (Resolution.sound_resolve hresolve).1.nodup
  refine ⟨fun m _ code hcode => ShaderModule.heading_of_code hcode,
    fun m _ n _ => ShaderModule.presenceMacro_eq_iff, ?_⟩
  rw [← List.nodup_map_iff_inj_on hnames.of_map, List.Nodup, List.pairwise_map]
  simp only [ne_eq, ShaderModule.presenceMacro_eq_iff]

/-- Two names that are not spelled alike, one of them with a hyphen. -/
theorem base_and_my_mod_identified :
    resolveValue ⟨[.plain 0 "base" [], .plain 1 "my-mod" [.moduleRef ⟨0, "base"⟩]], none⟩
        (.list [.moduleRef ⟨1, "my-mod"⟩]) =
      .ok [.plain 0 "base" [], .plain 1 "my-mod" [.moduleRef ⟨0, "base"⟩]] ∧
    ∀ m ∈ [ShaderModule.plain 0 "base" [], .plain 1 "my-mod" [.moduleRef ⟨0, "base"⟩]],
      ∀ n ∈ [ShaderModule.plain 0 "base" [], .plain 1 "my-mod" [.moduleRef ⟨0, "base"⟩]],
        m.presenceMacro = n.presenceMacro → m = n := by
  have h : resolveValue ⟨[.plain 0 "base" [], .plain 1 "my-mod" [.moduleRef ⟨0, "base"⟩]], none⟩
      (.list [.moduleRef ⟨1, "my-mod"⟩]) =
        .ok [.plain 0 "base" [], .plain 1 "my-mod" [.moduleRef ⟨0, "base"⟩]] := by
    cbv
  have hapart : ¬SpelledAlike "base" "my-mod" := by decide
  refine ⟨h, (resolved_macros_identify_iff h {} .vertex (.int 300)).2.2.2 ?_⟩
  exact List.pairwise_pair.2 hapart

/-- Two different modules of one resolution are headed by one macro, because a hyphen and an
underscore look alike. -/
theorem hyphen_and_underscore_share_macro :
    resolveValue ⟨[.plain 0 "a-b" [], .plain 1 "a_b" []], none⟩
        (.list [.moduleRef ⟨0, "a-b"⟩, .moduleRef ⟨1, "a_b"⟩]) =
      .ok [.plain 0 "a-b" [], .plain 1 "a_b" []] ∧
    (ShaderModule.plain 0 "a-b" []).code {} .vertex (.int 100) =
      .ok "#define MODULE_A_B\n// END MODULE_a-b\n\n" ∧
    (ShaderModule.plain 1 "a_b" []).code {} .vertex (.int 100) =
      .ok "#define MODULE_A_B\n// END MODULE_a_b\n\n" := by
  exact ⟨by cbv, rfl, rfl⟩

end ShaderLoom
