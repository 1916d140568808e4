import ShaderLoom.Proofs.Glsl.Header

/-!
# The first header of a main function

The header of a main function is a text with a brace behind it (`IsMainHeader`), and the recognised
headers are exactly these. Whether one begins at a place in front of the first one is not changed by
what stands behind the brace of the first one: the parenthesis that closes the parameters stands in
front of that brace, and no other brace may follow it. So the first header stays the first one,
whatever is put behind its brace (`AtMain.splitMain?`).
-/

namespace ShaderLoom.Glsl

open Text

/-! ### The form of a header -/

/-- A text of blank characters. -/
def IsBlanks (cs : List Char) : Prop := ∀ c ∈ cs, isBlank c = true

/-- The header of a main function up to its brace. -/
inductive IsMainHeader : List Char → Prop
  | mk {gap space parameters back : List Char} (hne : gap ≠ []) (hgap : IsBlanks gap)
      (hspace : IsBlanks space) (hparameters : ')' ∉ parameters) (hback : IsBlanks back) :
      IsMainHeader ("void".toList ++ (gap ++ ("main".toList ++
        (space ++ '(' :: (parameters ++ ')' :: back)))))

lemma trimLeft_blanks {blanks : List Char} (h : IsBlanks blanks) {c : Char}
    (hc : isBlank c = false) (cs : List Char) : trimLeft (blanks ++ c :: cs) = c :: cs := by
  rw [trimLeft, List.dropWhile_append_of_pos h, List.dropWhile_cons_of_neg (by simp [hc])]

lemma afterBlanks?_blanks {blanks : List Char} (hne : blanks ≠ []) (h : IsBlanks blanks) {c : Char}
    (hc : isBlank c = false) (cs : List Char) :
    afterBlanks? (blanks ++ c :: cs) = some (c :: cs) := by
  obtain ⟨b, blanks, rfl⟩ := List.exists_cons_of_ne_nil hne
  rw [List.cons_append, afterBlanks?, if_pos (h b List.mem_cons_self),
    trimLeft_blanks (fun d hd => h d (List.mem_cons_of_mem b hd)) hc]

lemma afterChar?_self (c : Char) (cs : List Char) : afterChar? c (c :: cs) = some cs :=
  afterChar?_eq_some_iff.2 rfl

/-- The line break that belongs to the header, if one follows its brace. -/
def lineBreakOf : List Char → List Char
  | '\n' :: _ => ['\n']
  | _ => []

lemma lineBreakOf_cases (cs : List Char) :
    (∃ below, cs = '\n' :: below ∧ lineBreakOf cs = ['\n'] ∧ dropLineBreak cs = below) ∨
      lineBreakOf cs = [] ∧ dropLineBreak cs = cs := by
  by_cases h : ∃ below, cs = '\n' :: below
  · obtain ⟨below, rfl⟩ := h
    exact .inl ⟨below, rfl, rfl, rfl⟩
  · refine .inr ⟨?_, ?_⟩
    · rw [lineBreakOf]
      exact fun below hbelow => h ⟨below, hbelow⟩
    · rw [dropLineBreak]
      exact fun below hbelow => h ⟨below, hbelow⟩

lemma lineBreakOf_eq_or (cs : List Char) : lineBreakOf cs = [] ∨ lineBreakOf cs = ['\n'] := by
  obtain ⟨-, -, hbreak, -⟩ | ⟨hbreak, -⟩ := lineBreakOf_cases cs
  exacts [.inr hbreak, .inl hbreak]

lemma lineBreakOf_append (cs : List Char) : lineBreakOf cs ++ dropLineBreak cs = cs := by
  obtain ⟨below, rfl, hbreak, hdrop⟩ | ⟨hbreak, hdrop⟩ := lineBreakOf_cases cs
  · rw [hbreak, hdrop]
    rfl
  · rw [hbreak, hdrop, List.nil_append]

lemma lineBreakOf_of_head?_ne {cs : List Char} (h : cs.head? ≠ some '\n') :
    lineBreakOf cs = [] ∧ dropLineBreak cs = cs := by
  refine (lineBreakOf_cases cs).resolve_left ?_
  rintro ⟨below, rfl, -, -⟩
  exact h rfl

namespace IsMainHeader

variable {front : List Char}

lemma ne_nil (h : IsMainHeader front) : front ≠ [] := by
  cases h
  simp

/-- A text that starts with a header and a brace is recognised. -/
lemma afterMainHeader? (h : IsMainHeader front) (below : List Char) :
    afterMainHeader? (front ++ '\x7b' :: below) = some (dropLineBreak below) := by
  obtain @⟨gap, space, parameters, back, hne, hgap, hspace, hparameters, hback⟩ := h
  have hopened : (parameters ++ ')' :: (back ++ '\x7b' :: below)).dropWhile (· ≠ ')') =
      ')' :: (back ++ '\x7b' :: below) := by
    rw [List.dropWhile_append_of_pos fun c hc => ?_]
    · simp
    · simpa using ne_of_mem_of_not_mem hc hparameters
  have hname : afterBlanks? (gap ++ ("main".toList ++
        (space ++ '(' :: (parameters ++ ')' :: (back ++ '\x7b' :: below))))) =
      some ("main".toList ++ (space ++ '(' :: (parameters ++ ')' :: (back ++ '\x7b' :: below)))) :=
    afterBlanks?_blanks hne hgap (by decide) _
  simp only [Glsl.afterMainHeader?, Option.bind_eq_bind, List.append_assoc, List.cons_append]
  rw [show ['v', 'o', 'i', 'd'] = "void".toList from rfl, afterFront?_append, Option.bind_some,
    hname, Option.bind_some, show ['m', 'a', 'i', 'n'] = "main".toList from rfl,
    afterFront?_append, Option.bind_some, trimLeft_blanks hspace (by decide), afterChar?_self,
    Option.bind_some, hopened, afterChar?_self, Option.bind_some,
    trimLeft_blanks hback (by decide), afterChar?_self, Option.bind_some]

/-- Behind the parenthesis that closes the parameters, a header has blank characters only. -/
lemma blanks_behind {u v : List Char} (h : IsMainHeader (u ++ ')' :: v)) : IsBlanks v := by
  generalize hcs : u ++ ')' :: v = cs at h
  obtain @⟨gap, space, parameters, back, hne, hgap, hspace, hparameters, hback⟩ := h
  have hblank : ∀ {blanks}, IsBlanks blanks → ')' ∉ blanks := fun h hmem =>
    absurd (h _ hmem) (by decide)
  -- there is one closing parenthesis, so that both cuts are the same
  have hfront : ')' ∉ "void".toList ++ (gap ++ ("main".toList ++ (space ++ '(' :: parameters))) := by
    simp only [List.mem_append, List.mem_cons, not_or]
    exact ⟨by decide, hblank hgap, by decide, hblank hspace, by decide, hparameters⟩
  have hcut : u ++ ')' :: v = "void".toList ++ (gap ++ ("main".toList ++
      (space ++ '(' :: parameters))) ++ ')' :: back := by
    rw [hcs]
    simp only [List.append_assoc, List.cons_append]
  have hsame := (List.append_cons_inj_of_notMem hfront (hblank hback)).1 hcut.symm
  exact hsame.2.2 ▸ hback

lemma exists_parenthesis (h : IsMainHeader front) : ∃ u v, front = u ++ ')' :: v := by
  obtain @⟨gap, space, parameters, back, hne, hgap, hspace, hparameters, hback⟩ := h
  exact ⟨"void".toList ++ (gap ++ ("main".toList ++ (space ++ '(' :: parameters))), back,
    by simp only [List.append_assoc, List.cons_append]⟩

end IsMainHeader

lemma exists_blanks_trimLeft (cs : List Char) : ∃ blanks, cs = blanks ++ trimLeft cs ∧ IsBlanks blanks :=
  ⟨cs.takeWhile isBlank, List.takeWhile_append_dropWhile.symm, fun _ hc => List.mem_takeWhile_imp hc⟩

/-- What is recognised is a header and a brace. -/
lemma exists_header_of_afterMainHeader? {cs rest : List Char}
    (h : afterMainHeader? cs = some rest) :
    ∃ front below, IsMainHeader front ∧ cs = front ++ '\x7b' :: below ∧
      rest = dropLineBreak below := by
  simp only [afterMainHeader?, Option.bind_eq_bind, Option.bind_eq_some_iff] at h
  obtain ⟨a, ha, b, hb, c, hc, d, hd, e, he, below, hbelow, hrest⟩ := h
  obtain ⟨gap, rfl, hne, hgap⟩ := exists_blanks hb
  obtain ⟨space, hspace, hspaceBlank⟩ := exists_blanks_trimLeft c
  obtain ⟨back, hback, hbackBlank⟩ := exists_blanks_trimLeft e
  rw [afterChar?_eq_some_iff] at hd he hbelow
  have hparameters : d = d.takeWhile (· ≠ ')') ++ ')' :: e := by
    rw [← he, List.takeWhile_append_dropWhile]
  have hclosed : ')' ∉ d.takeWhile (· ≠ ')') := fun hmem => by
    simpa using List.mem_takeWhile_imp hmem
  refine ⟨_, below, .mk hne hgap hspaceBlank hclosed hbackBlank, ?_, (Option.some.inj hrest).symm⟩
  rw [hd] at hspace
  rw [hbelow] at hback
  have hvoid := eq_append_of_afterFront? ha
  rw [eq_append_of_afterFront? hc, hspace, hparameters, hback] at hvoid
  rw [hvoid]
  simp only [List.append_assoc, List.cons_append]
  rfl

/-! ### What stands behind the first header -/

/-- Whether a header begins in front of another one is seen up to the brace of that one. -/
lemma isSome_afterMainHeader?_append {front : List Char} (hfront : IsMainHeader front)
    {v below : List Char} (below' : List Char)
    (h : (afterMainHeader? (v ++ (front ++ '\x7b' :: below))).isSome) :
    (afterMainHeader? (v ++ (front ++ '\x7b' :: below'))).isSome := by
  obtain ⟨rest, hrest⟩ := Option.isSome_iff_exists.1 h
  obtain ⟨earlier, behind, hearlier, heq, -⟩ := exists_header_of_afterMainHeader? hrest
  have hsome : ∀ cs, (afterMainHeader? (earlier ++ '\x7b' :: cs)).isSome := fun cs => by
    rw [hearlier.afterMainHeader?]
    rfl
  rw [← List.append_assoc] at heq ⊢
  rcases List.append_eq_append_iff.1 heq with ⟨more, hmore, hbehind⟩ | ⟨more, hmore, hbehind⟩
  · cases more with
    | nil =>
      rw [List.append_nil] at hmore
      exact hmore ▸ hsome below'
    | cons c more =>
      -- the brace would stand behind the parenthesis in the earlier header
      exfalso
      obtain ⟨u, w, rfl⟩ := hfront.exists_parenthesis
      obtain rfl : '\x7b' = c := (List.cons.inj hbehind).1
      have hcut : earlier = v ++ u ++ ')' :: (w ++ '\x7b' :: more) := by
        rw [hmore]
        simp only [List.append_assoc, List.cons_append]
      have hblank := (hcut ▸ hearlier).blanks_behind '\x7b' (by simp)
      exact absurd hblank (by decide)
  · cases more with
    | nil =>
      rw [List.append_nil] at hmore
      exact hmore ▸ hsome below'
    | cons c more =>
      obtain rfl : '\x7b' = c := (List.cons.inj hbehind).1
      rw [hmore, List.append_assoc]
      exact hsome _

/-- The first header of a main function stands behind the text `before`, whatever follows its
brace. -/
structure AtMain (before front : List Char) : Prop where
  header : IsMainHeader front
  first : ∀ v, v <:+ before → v ≠ [] → ∀ below,
    afterMainHeader? (v ++ (front ++ '\x7b' :: below)) = none

namespace AtMain

variable {before front : List Char}

/-- The first header is found, and a line break behind its brace belongs to it. -/
theorem splitMain? (h : AtMain before front) (below : List Char) :
    splitMain? (before ++ (front ++ '\x7b' :: below)) =
      some ⟨before, front ++ '\x7b' :: lineBreakOf below, dropLineBreak below⟩ := by
  induction before with
  | nil =>
    have hheader := h.header.afterMainHeader? below
    have hlength : (front ++ '\x7b' :: below).length - (dropLineBreak below).length =
        (front ++ '\x7b' :: lineBreakOf below).length := by
      have hwhole := congrArg List.length (lineBreakOf_append below)
      simp only [List.length_append, List.length_cons] at hwhole ⊢
      omega
    have htake : (front ++ '\x7b' :: below).take
        ((front ++ '\x7b' :: below).length - (dropLineBreak below).length) =
          front ++ '\x7b' :: lineBreakOf below := by
      have hcut : front ++ '\x7b' :: below =
          front ++ '\x7b' :: lineBreakOf below ++ dropLineBreak below := by
        rw [List.append_assoc, List.cons_append, lineBreakOf_append]
      rw [hlength, hcut, List.take_left]
    obtain ⟨c, cs, hcons⟩ := List.exists_cons_of_ne_nil (h.header.ne_nil)
    rw [hcons, List.cons_append] at hheader htake
    rw [hcons, List.nil_append, List.cons_append, Glsl.splitMain?, hheader]
    simp only [htake]
  | cons c before ih =>
    have hnone := h.first _ (List.suffix_refl _) (by simp) below
    have hrest := ih ⟨h.header, fun v hv => h.first v (hv.trans (List.suffix_cons c before))⟩
    rw [List.cons_append] at hnone ⊢
    rw [Glsl.splitMain?, hnone, hrest]
    rfl

end AtMain

/-- Where a text is cut at a main function, the first header stands. -/
lemma exists_atMain {cs : List Char} {m : MainSplit} (h : splitMain? cs = some m) :
    ∃ front below, AtMain m.before front ∧ cs = m.before ++ (front ++ '\x7b' :: below) := by
  induction cs generalizing m with
  | nil => cases h
  | cons c cs ih =>
    rw [splitMain?] at h
    split at h
    · next body hbody =>
      cases h
      obtain ⟨front, below, hfront, heq, -⟩ := exists_header_of_afterMainHeader? hbody
      refine ⟨front, below, ⟨hfront, fun v hv hne => ?_⟩, heq⟩
      exact absurd (List.suffix_nil.1 hv) hne
    · next hnone =>
      obtain ⟨n, hn, rfl⟩ := Option.map_eq_some_iff.1 h
      obtain ⟨front, below, hmain, rfl⟩ := ih hn
      refine ⟨front, below, ⟨hmain.header, fun v hv hne below' => ?_⟩, rfl⟩
      rcases List.suffix_cons_iff.1 hv with rfl | hv
      · by_contra hsome
        have hsome' := isSome_afterMainHeader?_append hmain.header below
          (Option.isSome_iff_ne_none.2 hsome)
        rw [List.cons_append, hnone] at hsome'
        exact absurd hsome' (by simp)
      · exact hmain.first v hv hne below'

end ShaderLoom.Glsl
