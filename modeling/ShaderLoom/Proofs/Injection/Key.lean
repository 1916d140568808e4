import Mathlib.Data.List.TakeWhile
import ShaderLoom.Injection.Key
import ShaderLoom.Proofs.Outcome
import ShaderLoom.Text.Search

/-!
# The grammar of injection keys

A key is written for a target (`Target.key`), and read back. Every key of a well-named target is
read as this target, and so is the key with a line break behind it, unless the target is a pattern.
No other key is read as the target (`Target.parse_eq_ok_iff`).
-/

namespace ShaderLoom

open Text

/-! ### Names -/

/-- The text can name a hook or a place. -/
structure IsName (s : String) : Prop where
  ne_nil : s.toList ≠ []
  chars : ∀ c ∈ s.toList, isNameChar c = true

lemma isNameChar_lineBreak : isNameChar '\n' = false := by decide +kernel

lemma isNameChar_hash : isNameChar '#' = false := by decide +kernel

lemma isName_decl : IsName "decl" where
  ne_nil := by decide
  chars := List.all_eq_true.1 (by decide +kernel)

lemma IsName.head?_ne_hash {s : String} (h : IsName s) : s.toList.head? ≠ some '#' := by
  intro hhash
  have hchar := h.chars '#' (List.mem_of_mem_head? hhash)
  rw [isNameChar_hash] at hchar
  exact absurd hchar (by simp)

lemma IsName.endsWith_eq_false {s : String} (h : IsName s) : endsWith '\n' s.toList = false := by
  have hlast : s.toList.getLast? ≠ some '\n' := by
    intro hlast
    have hchar := h.chars '\n' (List.mem_of_getLast? hlast)
    rw [isNameChar_lineBreak] at hchar
    exact absurd hchar (by simp)
  simpa [endsWith] using hlast

/-- The texts that are read as a name are the name, and the name with a line break behind it. -/
lemma wholeName?_eq_some_iff {cs : List Char} {s : String} :
    wholeName? cs = some s.toList ↔ IsName s ∧ (cs = s.toList ∨ cs = s.toList ++ ['\n']) := by
  constructor
  · intro h
    have hsplit := List.takeWhile_append_dropWhile (p := isNameChar) (l := cs)
    simp only [wholeName?] at h
    split at h
    · next hwhole =>
      have hname : cs.takeWhile isNameChar = s.toList := by simpa using h
      rw [hname] at hsplit hwhole
      refine ⟨⟨hwhole.1, fun c hc => ?_⟩, ?_⟩
      · rw [← hname] at hc
        exact List.mem_takeWhile_imp hc
      · rcases hwhole.2 with hrest | hrest
        · left
          rw [← hsplit, hrest, List.append_nil]
        · right
          rw [← hsplit, hrest]
    · exact absurd h (by simp)
  · rintro ⟨hname, rfl | rfl⟩
    · have htake : s.toList.takeWhile isNameChar = s.toList :=
        List.takeWhile_eq_self_iff.2 hname.chars
      have hdrop : s.toList.dropWhile isNameChar = [] :=
        List.dropWhile_eq_nil_iff.2 hname.chars
      simp [wholeName?, htake, hdrop, hname.ne_nil]
    · have htake : (s.toList ++ ['\n']).takeWhile isNameChar = s.toList := by
        rw [List.takeWhile_append_of_pos hname.chars]
        simp [isNameChar_lineBreak]
      have hdrop : (s.toList ++ ['\n']).dropWhile isNameChar = ['\n'] := by
        rw [List.dropWhile_append_of_pos hname.chars]
        simp [isNameChar_lineBreak]
      simp [wholeName?, htake, hdrop, hname.ne_nil]

/-! ### Stages -/

lemma append_of_splitStage? {cs rest : List Char} {stage : Stage}
    (h : splitStage? cs = some (stage, rest)) : cs = stage.label.toList ++ ':' :: rest := by
  unfold splitStage? at h
  split at h
  · obtain ⟨rfl, rfl⟩ : Stage.vertex = stage ∧ _ = rest := by simpa using h
    rfl
  · obtain ⟨rfl, rfl⟩ : Stage.fragment = stage ∧ _ = rest := by simpa using h
    rfl
  · exact absurd h (by simp)

lemma splitStage?_label (stage : Stage) (cs : List Char) :
    splitStage? (stage.label.toList ++ ':' :: cs) = some (stage, cs) := by
  cases stage <;> rfl

lemma isBlankText_label (stage : Stage) (cs : List Char) :
    isBlankText (stage.label.toList ++ cs) = false := by
  have hletter : isBlank 's' = false := by decide
  cases stage <;> simp [isBlankText, Stage.label, hletter]

/-- The text starts like the key of a stage. -/
def StartsWithStage (s : String) : Prop :=
  ∃ stage : Stage, (stage.label ++ ":").toList <+: s.toList

lemma splitStage?_eq_none_iff {s : String} :
    splitStage? s.toList = none ↔ ¬ StartsWithStage s := by
  constructor
  · rintro h ⟨stage, rest, hrest⟩
    have hstage : stage.label.toList ++ ':' :: rest = s.toList := by simpa using hrest
    rw [← hstage, splitStage?_label] at h
    exact absurd h (by simp)
  · intro h
    by_contra hne
    obtain ⟨⟨stage, rest⟩, hstage⟩ := Option.ne_none_iff_exists'.1 hne
    exact h ⟨stage, rest, by simpa using (append_of_splitStage? hstage).symm⟩

/-! ### Targets -/

lemma stageTarget?_hash (stage : Stage) (cs : List Char) :
    stageTarget? stage ('#' :: cs) =
      (wholeName? cs).map fun name =>
        if String.ofList name = "decl" then .declarations stage
        else .place stage (String.ofList name) := rfl

lemma stageTarget?_of_head?_ne (stage : Stage) {cs : List Char} (hhead : cs.head? ≠ some '#') :
    stageTarget? stage cs = (wholeName? cs).map fun name => .hook stage (String.ofList name) := by
  unfold stageTarget?
  split
  · exact absurd rfl hhead
  · rfl

namespace Target

/-- The key that is written for a target: a text for a pattern, and otherwise the stage and, behind
a colon, the name, which a hash precedes unless a hook is meant. -/
def key : Target → String
  | .hook stage name => stage.label ++ ":" ++ name
  | .declarations stage => stage.label ++ ":#decl"
  | .place stage name => stage.label ++ ":#" ++ name
  | .pattern text => text

/-- The target has a name that keys can give it. -/
def WellNamed : Target → Prop
  | .hook _ name => IsName name
  | .declarations _ => True
  | .place _ name => IsName name ∧ name ≠ "decl"
  | .pattern text => isBlankText text.toList = false ∧ ¬ StartsWithStage text

variable {t u : Target} {stage : Stage} {cs : List Char}

/-- What follows the colon in the key of a target of a stage. -/
def tail : Target → List Char
  | .hook _ name => name.toList
  | .declarations _ => '#' :: "decl".toList
  | .place _ name => '#' :: name.toList
  | .pattern _ => []

lemma toList_key (hstage : t.stage? = some stage) :
    t.key.toList = stage.label.toList ++ ':' :: t.tail := by
  cases t with
  | hook _ _ =>
    obtain rfl := Option.some.inj hstage
    simp [key, tail]
  | declarations _ =>
    obtain rfl := Option.some.inj hstage
    simp [key, tail]
  | place _ _ =>
    obtain rfl := Option.some.inj hstage
    simp [key, tail]
  | pattern _ => cases hstage

lemma WellNamed.isName_name (h : t.WellNamed) (hstage : t.stage? = some stage) :
    IsName t.name := by
  cases t with
  | hook _ _ => exact h
  | declarations _ => exact isName_decl
  | place _ _ => exact h.1
  | pattern _ => exact absurd hstage (by simp [stage?])

lemma WellNamed.tail_ne_nil (h : t.WellNamed) (hstage : t.stage? = some stage) : t.tail ≠ [] := by
  cases t with
  | hook _ _ => exact h.ne_nil
  | declarations _ => simp [tail]
  | place _ _ => simp [tail]
  | pattern _ => cases hstage

lemma WellNamed.endsWith_tail (h : t.WellNamed) (hstage : t.stage? = some stage) :
    endsWith '\n' t.tail = false := by
  cases t with
  | hook _ _ => exact h.endsWith_eq_false
  | declarations _ => simp [tail, endsWith]
  | place _ name =>
    have hname := h.1.endsWith_eq_false
    obtain ⟨c, cs, hcs⟩ := List.exists_cons_of_ne_nil h.1.ne_nil
    rw [endsWith] at hname ⊢
    rwa [tail, hcs, List.getLast?_cons_cons, ← hcs]
  | pattern _ => cases hstage

/-- What is read behind the stage of a key. -/
lemma stageTarget?_eq_some_iff :
    stageTarget? stage cs = some t ↔
      t.stage? = some stage ∧ t.WellNamed ∧ (cs = t.tail ∨ cs = t.tail ++ ['\n']) := by
  constructor
  · intro h
    by_cases hhead : cs.head? = some '#'
    · obtain ⟨cs, rfl⟩ := List.head?_eq_some_iff.1 hhead
      rw [stageTarget?_hash] at h
      obtain ⟨name, hname, rfl⟩ := Option.map_eq_some_iff.1 h
      obtain ⟨s, rfl⟩ : ∃ s : String, s.toList = name := ⟨.ofList name, String.toList_ofList⟩
      obtain ⟨hisName, hcs⟩ := wholeName?_eq_some_iff.1 hname
      rw [String.ofList_toList]
      split
      · next hdecl =>
        subst hdecl
        exact ⟨rfl, trivial, by simpa [tail] using hcs⟩
      · next hdecl => exact ⟨rfl, ⟨hisName, hdecl⟩, by simpa [tail] using hcs⟩
    · rw [stageTarget?_of_head?_ne stage hhead] at h
      obtain ⟨name, hname, rfl⟩ := Option.map_eq_some_iff.1 h
      obtain ⟨s, rfl⟩ : ∃ s : String, s.toList = name := ⟨.ofList name, String.toList_ofList⟩
      obtain ⟨hisName, hcs⟩ := wholeName?_eq_some_iff.1 hname
      rw [String.ofList_toList]
      exact ⟨rfl, hisName, hcs⟩
  · rintro ⟨hstage, hnamed, hcs⟩
    cases t with
    | hook _ name =>
      obtain rfl := Option.some.inj hstage
      have hhead : cs.head? ≠ some '#' := by
        obtain ⟨c, rest, hname⟩ := List.exists_cons_of_ne_nil hnamed.ne_nil
        have hhash := hnamed.head?_ne_hash
        rcases hcs with rfl | rfl <;> simpa [tail, hname] using hhash
      rw [stageTarget?_of_head?_ne _ hhead, wholeName?_eq_some_iff.2 ⟨hnamed, hcs⟩]
      simp
    | declarations _ =>
      obtain rfl := Option.some.inj hstage
      rcases hcs with rfl | rfl
      · rfl
      · rfl
    | place _ name =>
      obtain rfl := Option.some.inj hstage
      obtain ⟨hisName, hdecl⟩ := hnamed
      rcases hcs with rfl | rfl
      · rw [tail, stageTarget?_hash, wholeName?_eq_some_iff.2 ⟨hisName, .inl rfl⟩]
        simp [hdecl]
      · rw [tail, List.cons_append, stageTarget?_hash,
          wholeName?_eq_some_iff.2 ⟨hisName, .inr rfl⟩]
        simp [hdecl]
    | pattern _ => cases hstage

/-- **The grammar of keys.**  A key is read as a target exactly when the target is well named, and
the key is that of the target or, for a target of a stage, has one line break behind it. -/
theorem parse_eq_ok_iff {s : String} :
    parse s = .ok t ↔
      t.WellNamed ∧ (s = t.key ∨ t.stage? ≠ none ∧ s = t.key ++ "\n") := by
  constructor
  · intro h
    unfold parse at h
    split at h
    · exact absurd h (by simp)
    · next hblank =>
      split at h
      · next stage rest hsplit =>
        have hs := append_of_splitStage? hsplit
        split at h
        · next u hu =>
          obtain rfl := Except.ok.inj h
          obtain ⟨hstage, hnamed, hrest⟩ := stageTarget?_eq_some_iff.1 hu
          refine ⟨hnamed, ?_⟩
          rcases hrest with rfl | rfl
          · left
            rw [← String.toList_inj, hs, toList_key hstage]
          · refine .inr ⟨by simp [hstage], ?_⟩
            rw [← String.toList_inj, hs, String.toList_append, toList_key hstage]
            simp
        · exact absurd h (by simp)
      · next hsplit =>
        obtain rfl := Except.ok.inj h
        exact ⟨⟨by simpa using hblank, splitStage?_eq_none_iff.1 hsplit⟩, .inl rfl⟩
  · rintro ⟨hnamed, hkey⟩
    -- only the key of a target of a stage may have a line break behind it
    cases hstage : t.stage? with
    | none =>
      cases t with
      | pattern text =>
        obtain rfl : s = text := hkey.resolve_right fun h => h.1 hstage
        rw [parse, hnamed.1, splitStage?_eq_none_iff.2 hnamed.2]
        rfl
      | _ => cases hstage
    | some stage =>
      obtain ⟨rest, hs, hrest⟩ : ∃ rest, s.toList = stage.label.toList ++ ':' :: rest ∧
          (rest = t.tail ∨ rest = t.tail ++ ['\n']) := by
        rcases hkey with rfl | ⟨-, rfl⟩
        · exact ⟨t.tail, toList_key hstage, .inl rfl⟩
        · refine ⟨t.tail ++ ['\n'], ?_, .inr rfl⟩
          rw [String.toList_append, toList_key hstage]
          simp
      rw [parse, hs, isBlankText_label, if_neg Bool.false_ne_true, splitStage?_label]
      dsimp only
      rw [stageTarget?_eq_some_iff.2 ⟨hstage, hnamed, hrest⟩]

lemma WellNamed.endsWith_key (h : t.WellNamed) (hstage : t.stage? = some stage) :
    endsWith '\n' t.key.toList = false := by
  have htail := h.endsWith_tail hstage
  obtain ⟨c, rest, hcons⟩ := List.exists_cons_of_ne_nil (h.tail_ne_nil hstage)
  rw [endsWith] at htail ⊢
  rw [toList_key hstage, hcons, List.getLast?_append_cons, List.getLast?_cons_cons, ← hcons]
  exact htail

/-- The line break behind a key is all that reading it forgets. -/
lemma eq_of_parse {s : String} (h : parse s = .ok t) :
    s = if t.stage? ≠ none ∧ endsWith '\n' s.toList = true then t.key ++ "\n" else t.key := by
  obtain ⟨hnamed, hkey | ⟨hne, hbroken⟩⟩ := parse_eq_ok_iff.1 h
  · rw [if_neg, hkey]
    rintro ⟨hne, hends⟩
    obtain ⟨stage, hstage⟩ := Option.ne_none_iff_exists'.1 hne
    rw [hkey, hnamed.endsWith_key hstage] at hends
    exact absurd hends (by simp)
  · rw [if_pos, hbroken]
    exact ⟨hne, by simp [hbroken, endsWith]⟩

/-- An accepted key is that of its target unless a line break stands behind it. -/
lemma eq_key_iff {s : String} (h : parse s = .ok t) :
    s = t.key ↔ ¬ (t.stage? ≠ none ∧ endsWith '\n' s.toList = true) := by
  have hs := eq_of_parse h
  constructor
  · rintro hkey ⟨hne, hends⟩
    rw [if_pos ⟨hne, hends⟩] at hs
    have hlength := congrArg String.length (hkey.symm.trans hs)
    simp at hlength
  · intro hcond
    rwa [if_neg hcond] at hs

/-- Two accepted keys of one target are the same unless a line break stands behind one of them. -/
lemma eq_iff_of_parse {s s' : String} (h : parse s = .ok t) (h' : parse s' = .ok t) :
    s = s' ↔ endsWith '\n' s.toList = endsWith '\n' s'.toList := by
  refine ⟨fun hkey => hkey ▸ rfl, fun hends => ?_⟩
  rw [eq_of_parse h, eq_of_parse h', hends]

/-- Kind, stage and name make up a target. -/
lemma eq_of_parts (hkind : t.kindName = u.kindName) (hstage : t.stage? = u.stage?)
    (hname : t.name = u.name) : t = u := by
  cases t <;> cases u <;>
    simp [kindName, Target.stage?, Target.name] at hkind hstage hname ⊢ <;> simp [*]

end Target

end ShaderLoom
