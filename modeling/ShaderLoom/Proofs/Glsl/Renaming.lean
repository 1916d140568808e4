import ShaderLoom.Proofs.Glsl.Words

/-!
# Substitution as renaming

The rules of conversions apply where a word starts, and keep everything but the word. So
substitution by such a rule renames the words of the text (`substitute_eq_renameWords`). This holds
of the names of texture functions, of the built-in output, and of qualifiers that have a single
space behind them.
-/

namespace ShaderLoom.Glsl

open Text

/-! ### Places -/

/-- The text from each place on at which a rule applies. -/
def places (rule : Rule) : Option Char → List Char → List (List Char)
  | _, [] => []
  | previous, c :: cs =>
    if (rule previous (c :: cs)).isSome then (c :: cs) :: places rule (some c) cs
    else places rule (some c) cs

lemma places_eq_nil_iff {rule : Rule} {previous : Option Char} {cs : List Char} :
    places rule previous cs = [] ↔ inapplicable rule previous cs = true := by
  induction cs generalizing previous with
  | nil => simp [places, inapplicable]
  | cons c cs ih =>
    rw [places, inapplicable]
    cases rule previous (c :: cs) <;> simp [ih]

/-- The character in front of what follows a text. -/
def lastOf : Option Char → List Char → Option Char
  | previous, [] => previous
  | _, c :: cs => lastOf (some c) cs

lemma lastOf_append (previous : Option Char) (front cs : List Char) :
    lastOf previous (front ++ cs) = lastOf (lastOf previous front) cs := by
  induction front generalizing previous with
  | nil => rfl
  | cons c front ih => exact ih (some c)

lemma mem_places {rule : Rule} {previous : Option Char} {before after : List Char}
    (hne : after ≠ []) (h : (rule (lastOf previous before) after).isSome) :
    after ∈ places rule previous (before ++ after) := by
  induction before generalizing previous with
  | nil =>
    match after, hne with
    | c :: cs, _ =>
      have happlies : (rule previous (c :: cs)).isSome := h
      simp [places, happlies]
  | cons c before ih =>
    rw [List.cons_append, places]
    split
    · exact List.mem_cons_of_mem _ (ih h)
    · exact ih h

@[simp] lemma startsWord_none : startsWord none = true := rfl

@[simp] lemma startsWord_some {c : Char} : startsWord (some c) = !isWordChar c := by
  simp [startsWord]

/-- Each word stands at a place. -/
lemma exists_place {cs w : List Char} {behind : Follower} (h : .word w behind ∈ pieces cs) :
    ∃ before rest, cs = before ++ (w ++ rest) ∧ IsWord w ∧ AtWordEnd rest ∧
      follower rest = behind ∧ startsWord (lastOf none before) = true := by
  have hplace : ∀ previous, startsWord previous = true ∨ AtWordEnd cs →
      ∃ before rest, cs = before ++ (w ++ rest) ∧ IsWord w ∧ AtWordEnd rest ∧
        follower rest = behind ∧ startsWord (lastOf previous before) = true := by
    induction cs using text_induction with
    | nil => cases h
    | mark c cs hc ih =>
      intro previous _
      have hmem : .word w behind ∈ pieces cs := by simpa [pieces_mark hc] using h
      obtain ⟨before, rest, rfl, hw, hrest, hbehind, hstart⟩ :=
        ih hmem (some c) (.inl (by simp [hc]))
      exact ⟨c :: before, rest, rfl, hw, hrest, hbehind, hstart⟩
    | word v rest hv hrest ih =>
      intro previous hprevious
      rw [pieces_word hv hrest] at h
      rcases List.mem_cons.1 h with heq | hmem
      · obtain ⟨rfl, rfl⟩ : w = v ∧ behind = follower rest := by simpa using heq
        exact ⟨[], rest, rfl, hv, hrest, rfl, hprevious.resolve_right hv.not_atWordEnd⟩
      · obtain ⟨before, rest', rfl, hw, hrest', hbehind, hstart⟩ :=
          ih hmem (lastOf previous v) (.inr hrest)
        refine ⟨v ++ before, rest', by simp, hw, hrest', hbehind, ?_⟩
        rw [lastOf_append]
        exact hstart
  exact hplace none (.inl rfl)

/-! ### Rules that rename words -/

namespace Rule

/-- The rule applies only where a word starts. -/
structure AtWords (rule : Rule) : Prop where
  inside : ∀ previous cs, startsWord previous = false → rule previous cs = none
  mark : ∀ previous c cs, isWordChar c = false → rule previous (c :: cs) = none

/-- Where the word stands in front of something, the rule does what the renaming says; marks behind
the word are replaced by themselves. -/
def RenamesAt (rule : Rule) (f : Renaming) (w : List Char) (behind : Follower) : Prop :=
  ∀ previous rest, startsWord previous = true → AtWordEnd rest → follower rest = behind →
    rule previous (w ++ rest) = none ∧ f behind w = w ∨
    ∃ marks rest', rest = marks ++ rest' ∧ (∀ c ∈ marks, isWordChar c = false) ∧
      rule previous (w ++ rest) = some (replaceUntil (w ++ rest) rest' (f behind w ++ marks))

end Rule

/-- Where such a rule applies, a word stands. -/
lemma exists_piece {rule : Rule} (hrule : rule.AtWords) {cs after : List Char}
    (h : after ∈ places rule none cs) :
    ∃ previous w rest, after = w ++ rest ∧ IsWord w ∧ AtWordEnd rest ∧
      startsWord previous = true ∧ (rule previous after).isSome ∧
      .word w (follower rest) ∈ pieces cs := by
  have hpiece : ∀ previous, startsWord previous = true ∨ AtWordEnd cs →
      after ∈ places rule previous cs →
      ∃ previous w rest, after = w ++ rest ∧ IsWord w ∧ AtWordEnd rest ∧
        startsWord previous = true ∧ (rule previous after).isSome ∧
        .word w (follower rest) ∈ pieces cs := by
    clear h
    induction cs using text_induction with
    | nil => intro _ _ hnil; cases hnil
    | mark c cs hc ih =>
      intro previous _ hmem
      rw [places, hrule.mark previous c cs hc] at hmem
      obtain ⟨p, w, rest, hafter, hw, hrest, hstart, happlies, hword⟩ :=
        ih (some c) (.inl (by simp [hc])) hmem
      exact ⟨p, w, rest, hafter, hw, hrest, hstart, happlies, by simp [pieces_mark hc, hword]⟩
    | word v rest hv hrest ih =>
      intro previous hprevious hmem
      have hstart := hprevious.resolve_right hv.not_atWordEnd
      have hinside : ∀ (u : List Char) (p : Option Char), startsWord p = false →
          (∀ c ∈ u, isWordChar c = true) →
          places rule p (u ++ rest) = places rule (lastOf p u) rest := by
        intro u
        induction u with
        | nil => intro _ _ _; rfl
        | cons c u ihu =>
          intro p hp hu
          rw [List.cons_append, places, hrule.inside p _ hp]
          exact ihu (some c) (by simp [hu c]) fun d hd => hu d (by simp [hd])
      have hhere : after = v ++ rest ∧ (rule previous after).isSome ∨
          after ∈ places rule (lastOf previous v) rest := by
        obtain ⟨c, u, rfl, hc⟩ := hv.exists_cons
        have hrec := hinside u (some c) (by simp [hc]) fun d hd => hv.all d (by simp [hd])
        rw [List.cons_append, places] at hmem
        split at hmem
        · next happlies =>
          rcases List.mem_cons.1 hmem with rfl | hmem
          · exact .inl ⟨rfl, happlies⟩
          · rw [hrec] at hmem
            exact .inr hmem
        · rw [hrec] at hmem
          exact .inr hmem
      rcases hhere with ⟨rfl, happlies⟩ | hmem
      · exact ⟨previous, v, rest, rfl, hv, hrest, hstart, happlies, by simp [pieces_word hv hrest]⟩
      · obtain ⟨p, w, rest', hafter, hw, hrest', hstart', happlies, hword⟩ :=
          ih _ (.inr hrest) hmem
        exact ⟨p, w, rest', hafter, hw, hrest', hstart', happlies,
          by simp [pieces_word hv hrest, hword]⟩
  exact hpiece none (.inl rfl) h

section Substitute

variable {rule : Rule} {f : Renaming}

lemma substituteFrom_skip (previous : Option Char) (front rest : List Char) :
    substituteFrom rule front.length previous (front ++ rest) =
      substituteFrom rule 0 (lastOf previous front) rest := by
  induction front generalizing previous with
  | nil => rfl
  | cons c front ih => exact ih (some c)

/-- Marks are copied. -/
lemma substituteFrom_marks (hrule : rule.AtWords) {marks : List Char}
    (hmarks : ∀ c ∈ marks, isWordChar c = false) (previous : Option Char) (rest : List Char) :
    substituteFrom rule 0 previous (marks ++ rest) =
      marks ++ substituteFrom rule 0 (lastOf previous marks) rest := by
  induction marks generalizing previous with
  | nil => rfl
  | cons c marks ih =>
    have hnone := hrule.mark previous c (marks ++ rest) (hmarks c (by simp))
    have hrec := ih (fun d hd => hmarks d (by simp [hd])) (some c)
    simp [substituteFrom, hnone, hrec, lastOf]

/-- A word at whose start the rule does not apply is copied. -/
lemma substituteFrom_word (hrule : rule.AtWords) {previous : Option Char} {w rest : List Char}
    (hw : IsWord w) (hnone : rule previous (w ++ rest) = none) :
    substituteFrom rule 0 previous (w ++ rest) =
      w ++ substituteFrom rule 0 (lastOf previous w) rest := by
  have hinside : ∀ (v : List Char) (previous : Option Char), startsWord previous = false →
      (∀ c ∈ v, isWordChar c = true) →
      substituteFrom rule 0 previous (v ++ rest) =
        v ++ substituteFrom rule 0 (lastOf previous v) rest := by
    intro v
    induction v with
    | nil => intro _ _ _; rfl
    | cons c v ih =>
      intro previous hprevious hv
      have hstop := hrule.inside previous (c :: (v ++ rest)) hprevious
      have hrec := ih (some c) (by simp [hv c]) fun d hd => hv d (by simp [hd])
      simp [substituteFrom, hstop, hrec, lastOf]
  obtain ⟨c, v, rfl, hc⟩ := hw.exists_cons
  have hrec := hinside v (some c) (by simp [hc]) fun d hd => hw.all d (by simp [hd])
  rw [List.cons_append] at hnone ⊢
  simp [substituteFrom, hnone, hrec, lastOf]

/-- Substitution by a rule that renames the words of a text. -/
theorem substitute_eq_renameWords (hrule : rule.AtWords) {cs : List Char}
    (h : ∀ w behind, .word w behind ∈ pieces cs → IsWord w → rule.RenamesAt f w behind) :
    substitute rule cs = renameWords f cs := by
  -- where a mark comes next, it does not matter what stood before
  have hfrom : ∀ previous, startsWord previous = true ∨ AtWordEnd cs →
      substituteFrom rule 0 previous cs = renameWords f cs := by
    induction cs using text_induction with
    | nil => intro _ _; rfl
    | mark c cs hc ih =>
      intro previous _
      have hrec := ih (fun w behind hmem => h w behind (by simp [pieces_mark hc, hmem])) (some c)
        (.inl (by simp [hc]))
      rw [renameWords_mark hc, substituteFrom, hrule.mark previous c cs hc, hrec]
    | word w rest hw hrest ih =>
      intro previous hprevious
      have hstart := hprevious.resolve_right hw.not_atWordEnd
      have hrec : ∀ previous, substituteFrom rule 0 previous rest = renameWords f rest := by
        intro previous
        exact ih (fun v behind hmem => h v behind (by simp [pieces_word hw hrest, hmem])) previous
          (.inr hrest)
      have hrenames := h w (follower rest) (by simp [pieces_word hw hrest]) hw
      rw [renameWords_word hw hrest]
      rcases hrenames previous rest hstart hrest rfl with ⟨hnone, hsame⟩ | ⟨marks, rest', hmarks⟩
      · rw [substituteFrom_word hrule hw hnone, hrec, hsame]
      · obtain ⟨rfl, hmark, hsome⟩ := hmarks
        obtain ⟨c, v, rfl, hc⟩ := hw.exists_cons
        -- the rest is renamed, and the marks at its front are copied
        have hbehind : marks ++ substituteFrom rule 0 (lastOf (some c) (v ++ marks)) rest' =
            renameWords f (marks ++ rest') := by
          rw [← hrec (lastOf (some c) v), substituteFrom_marks hrule hmark, lastOf_append]
        have hlength : (c :: v ++ (marks ++ rest')).length - rest'.length - 1 =
            (v ++ marks).length := by
          simp only [List.length_append, List.length_cons]
          omega
        rw [replaceUntil, hlength, List.cons_append, ← List.append_assoc] at hsome
        rw [List.cons_append, ← List.append_assoc v, substituteFrom, hsome]
        simp only
        rw [substituteFrom_skip, List.append_assoc, hbehind]
  exact hfrom none (.inl rfl)

end Substitute

/-! ### The names of texture functions -/

lemma afterFront?_mark {front : List Char} (hfront : IsWord front) {c : Char}
    (hc : isWordChar c = false) (cs : List Char) : afterFront? front (c :: cs) = none := by
  obtain ⟨f, front, rfl, hf⟩ := hfront.exists_cons
  have hne : f ≠ c := by
    rintro rfl
    exact absurd hf (by simp [hc])
  simp [afterFront?, hne]

/-- A keyword in front of something that cannot start with a character of a word is the first word
of a text. -/
lemma afterFront?_bind_eq_splitWord? {β : Type} {front : List Char}
    {next : List Char → Option β} (hfront : IsWord front)
    (hnext : ∀ c cs, isWordChar c = true → next (c :: cs) = none) (cs : List Char) :
    (afterFront? front cs).bind next =
      (splitWord? cs).bind fun s => if s.1 = front then next s.2 else none := by
  cases cs using text_induction with
  | nil =>
    obtain ⟨f, front, rfl, -⟩ := hfront.exists_cons
    rfl
  | mark c cs hc =>
    rw [afterFront?_mark hfront hc, splitWord?_of_atWordEnd (atWordEnd_cons.2 hc)]
    rfl
  | word w rest hw hrest =>
    rw [afterFront?_bind_word hfront.all hw.all hrest hnext, splitWord?_word hw hrest,
      Option.bind_some]

lemma afterFront?_append_of_atWordEnd {front rest : List Char}
    (hfront : ∀ c ∈ front, isWordChar c = true) (hrest : AtWordEnd rest) (w : List Char) :
    afterFront? front (w ++ rest) = (afterFront? front w).map (· ++ rest) := by
  induction front generalizing w with
  | nil => simp [afterFront?]
  | cons f front ih =>
    cases w with
    | nil =>
      cases rest with
      | nil => simp [afterFront?]
      | cons c rest =>
        rw [List.nil_append, afterFront?_mark (.cons (hfront f (by simp)) fun d hd =>
          hfront d (by simp [hd])) (atWordEnd_cons.1 hrest)]
        rfl
    | cons c w =>
      by_cases hfc : f = c
      · simpa [afterFront?, hfc] using ih (fun d hd => hfront d (by simp [hd])) w
      · simp [afterFront?, hfc]

lemma afterFront?_append_singleton (front : List Char) (c : Char) (cs : List Char) :
    afterFront? (front ++ [c]) cs = (afterFront? front cs).bind (afterChar? c) := by
  induction front generalizing cs with
  | nil => cases cs <;> simp [afterFront?, afterChar?, eq_comm]
  | cons f front ih =>
    cases cs with
    | nil => rfl
    | cons d cs => by_cases hfd : f = d <;> simp [afterFront?, hfd, ih]

/-- The new name of a texture function, made of the kind that its name mentions. -/
def textureName? (kinds endings : List (List Char)) (new : List Char → List Char)
    (w : List Char) : Option (List Char) :=
  (afterFront? "texture".toList w).bind fun rest =>
    kinds.findSome? fun kind =>
      (afterFront? kind rest).bind fun rest =>
        endings.findSome? fun ending => if rest = ending then some (new kind) else none

/-- Rename texture functions where they are called. -/
def textureRenaming (kinds endings : List (List Char)) (new : List Char → List Char) : Renaming
  | .call, w => (textureName? kinds endings new w).getD w
  | _, w => w

section Texture

variable {kinds endings : List (List Char)} {new : List Char → List Char}

lemma findSome?_congr {α β : Type} {f g : α → Option β} {xs : List α} (h : ∀ x ∈ xs, f x = g x) :
    xs.findSome? f = xs.findSome? g := by
  induction xs with
  | nil => rfl
  | cons x xs ih =>
    rw [List.findSome?_cons, List.findSome?_cons, h x (by simp), ih fun y hy => h y (by simp [hy])]

/-- What a rule for texture functions does with a word. -/
lemma textureRule_word (hkinds : ∀ kind ∈ kinds, kind.all isWordChar = true)
    (hendings : ∀ ending ∈ endings, ending.all isWordChar = true)
    {previous : Option Char} {w rest : List Char} (hstart : startsWord previous = true)
    (hw : IsWord w) (hrest : AtWordEnd rest) :
    textureRule kinds endings new previous (w ++ rest) =
      (afterChar? '(' rest).bind fun rest' =>
        (textureName? kinds endings new w).map fun name =>
          replaceUntil (w ++ rest) rest' (name ++ ['(']) := by
  have htexture : IsWord "texture".toList := by decide
  -- the parenthesis follows the word, so that the rest of the word is the ending
  have hending : ∀ ending ∈ endings, ∀ v : List Char, (∀ c ∈ v, isWordChar c = true) →
      afterFront? (ending ++ ['(']) (v ++ rest) =
        if v = ending then afterChar? '(' rest else none := by
    intro ending hmem v hv
    rw [afterFront?_append_singleton]
    exact afterFront?_bind_word (List.all_eq_true.1 (hendings ending hmem)) hv hrest fun c cs hc =>
      afterChar?_of_isWordChar hc (by decide)
  rw [textureRule, if_pos hstart, afterFront?_append_of_atWordEnd htexture.all hrest,
    Option.bind_map, textureName?]
  cases hu : afterFront? "texture".toList w with
  | none => simp
  | some u =>
    obtain rfl := eq_append_of_afterFront? hu
    have hall := fun c hc => hw.all c (List.mem_append_right _ hc)
    have hkind : ∀ kind ∈ kinds, ((afterFront? kind (u ++ rest)).bind fun cs =>
          endings.findSome? fun ending =>
            (afterFront? (ending ++ ['(']) cs).map fun rest' =>
              replaceUntil ("texture".toList ++ u ++ rest) rest' (new kind ++ ['('])) =
        (afterFront? kind u).bind fun v => endings.findSome? fun ending =>
          (if v = ending then afterChar? '(' rest else none).map fun rest' =>
            replaceUntil ("texture".toList ++ u ++ rest) rest' (new kind ++ ['(']) := by
      intro kind hmem
      rw [afterFront?_append_of_atWordEnd (List.all_eq_true.1 (hkinds kind hmem)) hrest,
        Option.bind_map]
      refine Option.bind_congr fun v hv => findSome?_congr fun ending hmem' => ?_
      obtain rfl := eq_append_of_afterFront? hv
      rw [hending ending hmem' v fun c hc => hall c (List.mem_append_right _ hc)]
    refine (findSome?_congr hkind).trans ?_
    cases afterChar? '(' rest with
    | none =>
      simp only [ite_self, Option.map_none, Option.bind_none, List.findSome?_eq_none_iff,
        Option.bind_eq_none_iff, implies_true]
    | some rest' =>
      simp only [Option.bind_some, List.map_findSome?, Function.comp_def, Option.map_bind]
      refine findSome?_congr fun kind _ => Option.bind_congr fun v _ =>
        findSome?_congr fun ending _ => ?_
      split <;> rfl

lemma textureRule_atWords : (textureRule kinds endings new).AtWords where
  inside := by
    intro previous cs hinside
    simp [textureRule, hinside]
  mark := by
    intro previous c cs hc
    have htexture : IsWord "texture".toList := by decide
    rw [textureRule, afterFront?_mark htexture hc]
    simp

lemma follower_eq_call_iff {cs : List Char} : follower cs = .call ↔ cs.head? = some '(' := by
  unfold follower
  split
  · next h => exact iff_of_true rfl h
  · next h => split <;> exact iff_of_false (by simp) h

lemma afterChar?_eq_some_iff {c : Char} {cs rest : List Char} :
    afterChar? c cs = some rest ↔ cs = c :: rest := by
  cases cs with
  | nil => simp [afterChar?]
  | cons d cs => by_cases hd : d = c <;> simp [afterChar?, hd]

/-- Substitution by a rule for texture functions renames them. -/
theorem substitute_textureRule (hkinds : ∀ kind ∈ kinds, kind.all isWordChar = true)
    (hendings : ∀ ending ∈ endings, ending.all isWordChar = true) (cs : List Char) :
    substitute (textureRule kinds endings new) cs =
      renameWords (textureRenaming kinds endings new) cs := by
  refine substitute_eq_renameWords textureRule_atWords fun w behind _ hw => ?_
  intro previous rest hstart hrest hbehind
  rw [textureRule_word hkinds hendings hstart hw hrest]
  by_cases hcall : rest.head? = some '('
  · obtain rfl : behind = .call := by rw [← hbehind, follower_eq_call_iff.2 hcall]
    obtain ⟨rest', rfl⟩ : ∃ rest', rest = '(' :: rest' := by
      cases rest with
      | nil => cases hcall
      | cons c rest' =>
        obtain rfl : c = '(' := by simpa using hcall
        exact ⟨rest', rfl⟩
    cases hname : textureName? kinds endings new w with
    | none => exact .inl ⟨by simp, by simp [textureRenaming, hname]⟩
    | some name =>
      refine .inr ⟨['('], rest', rfl, List.forall_mem_singleton.2 (by decide), ?_⟩
      simp [afterChar?, textureRenaming, hname]
  · -- without a parenthesis nothing is renamed
    left
    have hnone : afterChar? '(' rest = none := by
      cases h : afterChar? '(' rest with
      | none => rfl
      | some rest' => exact absurd (by simp [afterChar?_eq_some_iff.1 h]) hcall
    refine ⟨by simp [hnone], ?_⟩
    cases behind with
    | call => exact absurd (follower_eq_call_iff.1 hbehind) hcall
    | variableAfter gap => rfl
    | other => rfl

/-- Where a texture function with a new name is called, the rule applies. -/
lemma exists_mem_places_textureRule (hkinds : ∀ kind ∈ kinds, kind.all isWordChar = true)
    (hendings : ∀ ending ∈ endings, ending.all isWordChar = true) {cs w : List Char}
    (hw : .word w .call ∈ pieces cs) (hname : (textureName? kinds endings new w).isSome) :
    ∃ rest, w ++ '(' :: rest ∈ places (textureRule kinds endings new) none cs := by
  obtain ⟨before, rest, rfl, hword, hrest, hbehind, hstart⟩ := exists_place hw
  obtain ⟨rest, rfl⟩ : ∃ rest', rest = '(' :: rest' := by
    cases rest with
    | nil => cases follower_eq_call_iff.1 hbehind
    | cons c rest' =>
      obtain rfl : c = '(' := by simpa using follower_eq_call_iff.1 hbehind
      exact ⟨rest', rfl⟩
  refine ⟨rest, mem_places (by simp) ?_⟩
  rw [textureRule_word hkinds hendings hstart hword hrest]
  simpa [afterChar?] using hname

end Texture

/-! ### Qualifiers -/

/-- Rename a qualifier of variables. -/
def qualifierRenaming (old new : List Char) : Renaming
  | .variableAfter _, w => if w = old then new else w
  | _, w => w

section Qualifier

variable {old new : List Char}

/-- What the rule for a qualifier does with a word. -/
lemma qualifierRule_word (hold : IsWord old) {previous : Option Char} {w rest : List Char}
    (hstart : startsWord previous = true) (hw : IsWord w) (hrest : AtWordEnd rest) :
    qualifierRule old new previous (w ++ rest) =
      if w = old then
        (afterGap? rest).bind fun variableText =>
          (afterVariable? variableText).map fun _ =>
            replaceUntil (w ++ rest) variableText (new ++ [' '])
      else none := by
  rw [qualifierRule, if_pos hstart]
  show (afterFront? old (w ++ rest)).bind _ = _
  rw [afterFront?_bind_word hold.all hw.all hrest fun c cs hc => by
    rw [afterGap?_of_isWordChar hc]; rfl]
  split
  · show (afterGap? rest).bind _ = _
    refine Option.bind_congr fun variableText _ => ?_
    cases afterVariable? variableText <;> rfl
  · rfl

lemma qualifierRule_atWords (hold : IsWord old) : (qualifierRule old new).AtWords where
  inside := by
    intro previous cs hinside
    simp [qualifierRule, hinside]
  mark := by
    intro previous c cs hc
    simp [qualifierRule, afterFront?_mark hold hc]

/-- A variable stands behind a gap exactly if there are a gap and a variable. -/
lemma follower_eq_variableAfter_iff {cs gap : List Char} :
    follower cs = .variableAfter gap ↔
      ((afterGap? cs).bind afterVariable?).isSome ∧ cs.takeWhile isGap = gap := by
  unfold follower
  split
  · next hcall =>
    refine iff_of_false (by simp) ?_
    rintro ⟨hvariable, -⟩
    match cs, hcall with
    | c :: cs, hcall =>
      obtain rfl : c = '(' := by simpa using hcall
      simp [afterGap?, isGap] at hvariable
  · split
    · next h => simp [h]
    · next h => exact iff_of_false (by simp) fun hvariable => h hvariable.1

/-- Behind a word of the list, a gap before a variable is a single space. -/
def Spaced (names : List (List Char)) (cs : List Char) : Prop :=
  ∀ w ∈ names, ∀ gap, .word w (.variableAfter gap) ∈ pieces cs → gap = [' ']

/-- Substitution by the rule for a qualifier renames it, if a single space follows it. -/
theorem substitute_qualifierRule (hold : IsWord old) {names : List (List Char)}
    (hmem : old ∈ names) {cs : List Char} (hspaced : Spaced names cs) :
    substitute (qualifierRule old new) cs = renameWords (qualifierRenaming old new) cs := by
  refine substitute_eq_renameWords (qualifierRule_atWords hold) fun w behind hpiece hw => ?_
  intro previous rest hstart hrest hbehind
  rw [qualifierRule_word hold hstart hw hrest]
  by_cases hname : w = old
  · subst hname
    rw [if_pos rfl]
    cases hvariable : (afterGap? rest).bind afterVariable? with
    | none =>
      left
      constructor
      · cases hgap : afterGap? rest with
        | none => rfl
        | some variableText => simpa [hgap] using hvariable
      · cases behind with
        | variableAfter gap =>
          rw [follower_eq_variableAfter_iff, hvariable] at hbehind
          exact absurd hbehind.1 (by simp)
        | call => rfl
        | other => rfl
    | some after =>
      right
      have hfollower : follower rest = .variableAfter (rest.takeWhile isGap) :=
        follower_eq_variableAfter_iff.2 ⟨by simp [hvariable], rfl⟩
      obtain rfl : behind = .variableAfter (rest.takeWhile isGap) := by rw [← hbehind, hfollower]
      have hgap := hspaced w hmem _ hpiece
      obtain ⟨variableText, htext, hafter⟩ := Option.bind_eq_some_iff.1 hvariable
      obtain ⟨-, rfl⟩ := afterGap?_eq_some_iff.1 htext
      refine ⟨[' '], rest.dropWhile isGap, ?_, List.forall_mem_singleton.2 (by decide), ?_⟩
      · rw [← hgap, List.takeWhile_append_dropWhile]
      · simp [htext, hafter, qualifierRenaming]
  · left
    refine ⟨by simp [hname], ?_⟩
    cases behind <;> simp [qualifierRenaming, hname]

/-- Where a qualifier stands in front of a variable, its rule applies. -/
lemma exists_mem_places_qualifierRule (new : List Char) (hold : IsWord old) {cs gap : List Char}
    (h : .word old (.variableAfter gap) ∈ pieces cs) :
    ∃ rest, rest.takeWhile isGap = gap ∧ old ++ rest ∈ places (qualifierRule old new) none cs := by
  obtain ⟨before, rest, rfl, hword, hrest, hbehind, hstart⟩ := exists_place h
  obtain ⟨hvariable, hgap⟩ := follower_eq_variableAfter_iff.1 hbehind
  refine ⟨rest, hgap, mem_places (by simp [hold.ne_nil]) ?_⟩
  obtain ⟨after, hafter⟩ := Option.isSome_iff_exists.1 hvariable
  obtain ⟨variableText, htext, hafter⟩ := Option.bind_eq_some_iff.1 hafter
  rw [qualifierRule_word hold hstart hword hrest, if_pos rfl]
  simp [htext, hafter]

end Qualifier

/-! ### Names of variables -/

/-- Rename a word wherever it stands. -/
def wordRenaming (old new : List Char) : Renaming := fun _ w => if w = old then new else w

/-- What the rule for a name does with a word. -/
lemma renameRule_word {old new : List Char} (hold : IsWord old) {previous : Option Char}
    {w rest : List Char} (hstart : startsWord previous = true) (hw : IsWord w)
    (hrest : AtWordEnd rest) :
    renameRule old new previous (w ++ rest) =
      if w = old then some (replaceUntil (w ++ rest) rest new) else none := by
  have hmatch : renameRule old new previous (w ++ rest) =
      (afterFront? old (w ++ rest)).bind fun rest' =>
        if rest'.head?.any isWordChar then none
        else some (replaceUntil (w ++ rest) rest' new) := by
    rw [renameRule, if_pos hstart]
    cases afterFront? old (w ++ rest) <;> rfl
  rw [hmatch, afterFront?_bind_word hold.all hw.all hrest fun c cs hc => by simp [hc]]
  split
  · rw [if_neg (by rw [hrest]; simp)]
  · rfl

lemma renameRule_atWords {old new : List Char} (hold : IsWord old) :
    (renameRule old new).AtWords where
  inside := by
    intro previous cs hinside
    simp [renameRule, hinside]
  mark := by
    intro previous c cs hc
    simp [renameRule, afterFront?_mark hold hc]

/-- Renaming a word wherever it stands as a whole. -/
theorem renameWord_eq_renameWords {old : List Char} (hold : IsWord old) (new cs : List Char) :
    renameWord old new cs = renameWords (wordRenaming old new) cs := by
  refine substitute_eq_renameWords (renameRule_atWords hold) fun w behind _ hw => ?_
  intro previous rest hstart hrest _
  rw [renameRule_word hold hstart hw hrest]
  by_cases hname : w = old
  · exact .inr ⟨[], rest, rfl, by simp, by simp [hname, wordRenaming]⟩
  · exact .inl ⟨by simp [hname], by simp [wordRenaming, hname]⟩

/-- A word stands somewhere as a whole if it is one of the pieces. -/
lemma hasWord_iff {w cs : List Char} (hw : IsWord w) :
    hasWord w cs = true ↔ ∃ behind, .word w behind ∈ pieces cs := by
  have hplaces : hasWord w cs = true ↔ places (renameRule w w) none cs ≠ [] := by
    rw [ne_eq, places_eq_nil_iff]
    simp [hasWord]
  rw [hplaces]
  constructor
  · intro hne
    obtain ⟨after, hafter⟩ := List.exists_mem_of_ne_nil _ hne
    obtain ⟨previous, v, rest, rfl, hv, hrest, hstart, happlies, hmem⟩ :=
      exists_piece (renameRule_atWords hw) hafter
    rw [renameRule_word hw hstart hv hrest] at happlies
    by_cases hvw : v = w
    · exact ⟨_, hvw ▸ hmem⟩
    · simp [hvw] at happlies
  · rintro ⟨behind, hmem⟩
    obtain ⟨before, rest, rfl, -, hrest, -, hstart⟩ := exists_place hmem
    have happlies : (renameRule w w (lastOf none before) (w ++ rest)).isSome := by
      simp [renameRule_word hw hstart hw hrest]
    exact List.ne_nil_of_mem (mem_places (by simp [hw.ne_nil]) happlies)

end ShaderLoom.Glsl
