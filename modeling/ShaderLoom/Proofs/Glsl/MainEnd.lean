import ShaderLoom.Proofs.Glsl.Braces
import ShaderLoom.Proofs.Glsl.MainHeader

/-!
# The brace that ends the main function

The end of the main function is sought from the first brace of its header on. Where the parameters
hold no brace, this is the brace with which the header ends, and the first place is found at which
it is closed. Where they hold one, another brace is closed first, or none is.
-/

namespace ShaderLoom.Glsl

open Text

/-- The places behind the place `p` of a brace at which the braces of a text from `p` on cancel. -/
def blockEnds (cs : List Char) (p : ℕ) : Set ℕ :=
  {j | p < j ∧ j < cs.length ∧ braceSum ((cs.drop p).take (j + 1 - p)) = 0}

/-- The braces from an open brace on cancel where the braces behind it have closed it. -/
lemma mem_blockEnds (front rest : List Char) (j : ℕ) :
    j ∈ blockEnds (front ++ '\x7b' :: rest) front.length ↔
      ∃ i ∈ closings 0 rest, j = i + (front.length + 1) := by
  have hsum : ∀ i, braceSum (((front ++ '\x7b' :: rest).drop front.length).take
      (i + (front.length + 1) + 1 - front.length)) = 1 + braceSum (rest.take (i + 1)) := fun i => by
    rw [List.drop_left, show i + (front.length + 1) + 1 - front.length = i + 1 + 1 by omega,
      List.take_succ_cons, braceSum_cons, braceSum_open]
  constructor
  · rintro ⟨hlt, hlength, hzero⟩
    obtain ⟨i, rfl⟩ : ∃ i, j = i + (front.length + 1) := ⟨j - (front.length + 1), by omega⟩
    rw [hsum] at hzero
    rw [List.length_append, List.length_cons] at hlength
    exact ⟨i, ⟨by omega, by push_cast; omega⟩, rfl⟩
  · rintro ⟨i, ⟨hlength, hclosed⟩, rfl⟩
    refine ⟨by omega, ?_, ?_⟩
    · rw [List.length_append, List.length_cons]
      omega
    · rw [hsum, hclosed]
      rfl

/-- The first place at which an open brace is closed is found by counting. -/
lemma isFirst_blockEnds (front rest : List Char) :
    IsFirst (blockEnds (front ++ '\x7b' :: rest) front.length)
      ((closingBrace? 0 rest).map (· + (front.length + 1))) :=
  (isFirst_closingBrace? 0 rest).map_add (mem_blockEnds front rest)

/-- The braces from one place on, split at another place. -/
lemma braceSum_drop_take (cs : List Char) {p q j : ℕ} (hpq : p ≤ q) (hqj : q ≤ j) :
    braceSum ((cs.drop p).take (j + 1 - p)) =
      braceSum ((cs.drop p).take (q - p)) + braceSum ((cs.drop q).take (j + 1 - q)) := by
  rw [← braceSum_append, show j + 1 - p = q - p + (j + 1 - q) by omega, List.take_add,
    List.drop_drop, show p + (q - p) = q by omega]

/-- Two open braces are not closed by one brace for the first time. -/
lemma blockEnds_first_ne {cs : List Char} {p q n : ℕ} (hpq : p < q)
    (hopen : braceSum ((cs.drop p).take 1) = 1) (hp : IsFirst (blockEnds cs p) (some n)) :
    n ∉ blockEnds cs q := by
  rintro ⟨hqn, hn, hzero⟩
  obtain ⟨⟨-, -, hzero'⟩, hfirst⟩ := isFirst_some.1 hp
  have hbetween : braceSum ((cs.drop p).take (q - p)) = 0 := by
    have hsplit := braceSum_drop_take cs hpq.le hqn.le
    omega
  -- the braces between the two would cancel, so that the first one is closed in front of the second
  have hne : q ≠ p + 1 := by
    rintro rfl
    rw [Nat.add_sub_cancel_left, hopen] at hbetween
    exact absurd hbetween (by decide)
  have hearlier : q - 1 ∈ blockEnds cs p := by
    refine ⟨by omega, by omega, ?_⟩
    rwa [show q - 1 + 1 - p = q - p by omega]
  have hle := hfirst _ hearlier
  omega

section FirstBrace

variable {parameters : List Char}

lemma takeWhile_open (h : '\x7b' ∉ parameters) (rest : List Char) :
    (parameters ++ '\x7b' :: rest).takeWhile (· ≠ '\x7b') = parameters := by
  rw [List.takeWhile_append_of_pos fun c hc => decide_eq_true (ne_of_mem_of_not_mem hc h)]
  simp

lemma dropWhile_open (h : '\x7b' ∉ parameters) (rest : List Char) :
    (parameters ++ '\x7b' :: rest).dropWhile (· ≠ '\x7b') = '\x7b' :: rest := by
  rw [List.dropWhile_append_of_pos fun c hc => decide_eq_true (ne_of_mem_of_not_mem hc h)]
  simp

end FirstBrace

namespace AtMain

variable {before front parameters below rest : List Char}

/-- What is found from the header on is the closing of the first brace from there on. -/
lemma endOfMain? (h : AtMain before front) (hparameters : '\x7b' ∉ parameters)
    (hcut : front ++ '\x7b' :: below = parameters ++ '\x7b' :: rest) :
    endOfMain? (before ++ (front ++ '\x7b' :: below)) =
      (closingBrace? 0 rest).map (· + (before.length + parameters.length + 1)) := by
  have htail : front ++ '\x7b' :: lineBreakOf below ++ dropLineBreak below =
      parameters ++ '\x7b' :: rest := by
    rw [← hcut, List.append_assoc, List.cons_append, lineBreakOf_append]
  rw [Glsl.endOfMain?, h.splitMain?]
  simp only [htail, takeWhile_open hparameters, dropWhile_open hparameters, List.drop_succ_cons,
    List.drop_zero]

/-- The end of the main function is the first place at which the first brace of its header is
closed. -/
lemma isFirst_endOfMain? (h : AtMain before front) (hparameters : '\x7b' ∉ parameters)
    (hcut : front ++ '\x7b' :: below = parameters ++ '\x7b' :: rest) :
    IsFirst (blockEnds (before ++ (front ++ '\x7b' :: below)) (before.length + parameters.length))
      (Glsl.endOfMain? (before ++ (front ++ '\x7b' :: below))) := by
  rw [h.endOfMain? hparameters hcut, hcut, ← List.append_assoc, ← List.length_append]
  exact isFirst_blockEnds (before ++ parameters) rest

end AtMain

/-- The end of the main function is the first place at which the first brace of its header is
closed. This is the first place at which the brace that ends the header is closed, exactly where
there is no other brace in the header or neither of the two is closed. -/
theorem endOfMain?_isFirst_iff (cs : List Char) :
    (splitMain? cs = none → endOfMain? cs = none) ∧
    ∀ m, splitMain? cs = some m → ∃ front lineBreak,
      m.header = front ++ '\x7b' :: lineBreak ∧ (lineBreak = [] ∨ lineBreak = ['\n']) ∧
      IsFirst (blockEnds cs (m.before.length + (front.takeWhile (· ≠ '\x7b')).length))
        (endOfMain? cs) ∧
      (IsFirst (blockEnds cs (m.before.length + front.length)) (endOfMain? cs) ↔
        '\x7b' ∉ front ∨ endOfMain? cs = none ∧
          blockEnds cs (m.before.length + front.length) = ∅) := by
  refine ⟨fun hnone => by rw [endOfMain?, hnone], fun m hm => ?_⟩
  obtain ⟨front, below, hmain, rfl⟩ := exists_atMain hm
  rw [hmain.splitMain?] at hm
  have hheader : m.header = front ++ '\x7b' :: lineBreakOf below := by
    rw [← Option.some.inj hm]
  refine ⟨front, lineBreakOf below, hheader, lineBreakOf_eq_or below, ?_⟩
  by_cases hbrace : '\x7b' ∈ front
  · obtain ⟨parameters, more, rfl, hparameters⟩ := List.eq_append_cons_of_mem hbrace
    have hcut : parameters ++ '\x7b' :: more ++ '\x7b' :: below =
        parameters ++ '\x7b' :: (more ++ '\x7b' :: below) := by
      rw [List.append_assoc, List.cons_append]
    have hfirst := hmain.isFirst_endOfMain? hparameters hcut
    rw [takeWhile_open hparameters]
    refine ⟨hfirst, fun hlast => .inr ?_, ?_⟩
    · cases hend : endOfMain? (m.before ++ (parameters ++ '\x7b' :: more ++ '\x7b' :: below)) with
      | none => exact ⟨rfl, isFirst_none.1 (hend ▸ hlast)⟩
      | some n =>
        rw [hend] at hfirst hlast
        refine absurd (isFirst_some.1 hlast).1 (blockEnds_first_ne ?_ ?_ hfirst)
        · simp
        · rw [← List.length_append, List.append_assoc, List.cons_append, ← List.append_assoc,
            List.drop_left]
          exact braceSum_open
    · rintro (hnot | ⟨hend, hempty⟩)
      · exact absurd hbrace hnot
      · rw [hend]
        exact isFirst_none.2 hempty
  · have hfirst := hmain.isFirst_endOfMain? hbrace (rfl : front ++ '\x7b' :: below = _)
    have htake : front.takeWhile (· ≠ '\x7b') = front :=
      List.takeWhile_eq_self_iff.2 fun c hc => decide_eq_true (ne_of_mem_of_not_mem hc hbrace)
    rw [htake]
    exact ⟨hfirst, iff_of_true hfirst (.inl hbrace)⟩

/-- A main function with a block in it and a function behind it. -/
def nestedMain : String :=
  "uniform float t;\nvoid main(void) \x7b\n  if (t > 0.0) \x7b glow(); \x7d\n\x7d\n" ++
    "void dim() \x7b\x7d\n"

theorem nestedMain_ends_behind_block :
    splitMain? nestedMain.toList = some ⟨"uniform float t;\n".toList,
      "void main(void) \x7b\n".toList,
      "  if (t > 0.0) \x7b glow(); \x7d\n\x7d\nvoid dim() \x7b\x7d\n".toList⟩ ∧
    IsFirst (blockEnds nestedMain.toList 33) (some 62) := by
  have hmain : splitMain? nestedMain.toList = some ⟨"uniform float t;\n".toList,
      "void main(void) \x7b\n".toList,
      "  if (t > 0.0) \x7b glow(); \x7d\n\x7d\nvoid dim() \x7b\x7d\n".toList⟩ := by
    decide +kernel
  obtain ⟨front, lineBreak, hheader, hbreak, -, hfirst⟩ :=
    (endOfMain?_isFirst_iff nestedMain.toList).2 _ hmain
  obtain rfl : front = "void main(void) ".toList := by
    rcases hbreak with rfl | rfl
    · have hlast := congrArg List.getLast? hheader
      rw [List.getLast?_concat] at hlast
      exact absurd (Option.some.inj hlast) (by decide)
    · have hcut : front ++ "\x7b\n".toList = "void main(void) ".toList ++ "\x7b\n".toList :=
        hheader.symm
      exact List.append_cancel_right hcut
  have hend : endOfMain? nestedMain.toList = some 62 := by decide +kernel
  exact ⟨hmain, hend ▸ hfirst.2 (.inl (by decide +kernel))⟩

/-- A main function with a brace in a comment between its parentheses. -/
def bracedParameters : String := "void main(/* \x7b */) \x7b\x7d"

theorem bracedParameters_end_not_found :
    splitMain? bracedParameters.toList =
        some ⟨[], "void main(/* \x7b */) \x7b".toList, ['\x7d']⟩ ∧
      IsFirst (blockEnds bracedParameters.toList 19) (some 20) ∧
      endOfMain? bracedParameters.toList = none := by
  refine ⟨by decide +kernel, isFirst_some.2 ⟨⟨by decide, by decide, by decide +kernel⟩, ?_⟩,
    by decide +kernel⟩
  rintro j ⟨hlt, -, -⟩
  exact hlt

end ShaderLoom.Glsl
