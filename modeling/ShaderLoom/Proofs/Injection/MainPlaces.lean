import ShaderLoom.Injection.Splice
import ShaderLoom.Proofs.Glsl.MainEnd

/-!
# The start and the end of the main function

What is spliced in at the start of the main function changes the text in which the end of it is
sought, and the other way round. Where the braces of the first text are balanced and the header
holds no other brace, neither changes the place of the other one, so that both sequences give the
same code (`Splice.run_mainPlaces_comm`).
-/

namespace ShaderLoom

open Text Glsl

/-- The brace of the main function is directly followed by one that closes it. -/
def Glsl.MainSplit.HasEmptyBlock (m : MainSplit) : Prop :=
  m.header.getLast? = some '\x7b' ∧ m.body.head? = some '\x7d'

namespace Splice

/-! ### Both insertions behind a header -/

section Places

variable {before front : List Char}

lemma atMainStart?_atMain (h : AtMain before front) (fragment below : List Char) :
    atMainStart? fragment (before ++ (front ++ '\x7b' :: below)) =
      some (before ++ (front ++ '\x7b' ::
        (lineBreakOf below ++ fragment ++ dropLineBreak below))) := by
  rw [atMainStart?, h.splitMain?, Option.map_some]
  simp only [List.append_assoc, List.cons_append]

lemma atMainEnd?_atMain (h : AtMain before front) (hfront : '\x7b' ∉ front)
    (fragment below : List Char) :
    atMainEnd? fragment (before ++ (front ++ '\x7b' :: below)) =
      (closingBrace? 0 below).map fun k =>
        before ++ (front ++ '\x7b' :: (below.take k ++ fragment ++ below.drop k)) := by
  rw [atMainEnd?, h.endOfMain? hfront rfl, Option.map_map]
  congr 1
  funext k
  have hcut : before ++ (front ++ '\x7b' :: below) = before ++ front ++ ['\x7b'] ++ below := by
    simp only [List.append_assoc, List.cons_append, List.nil_append]
  have hplace : k + (before.length + front.length + 1) =
      (before ++ front ++ ['\x7b']).length + k := by
    simp only [List.length_append, List.length_singleton]
    omega
  rw [Function.comp_apply, hplace, hcut, List.take_length_add_append, List.drop_length_add_append]
  simp only [List.append_assoc, List.cons_append, List.nil_append]

end Places

/-- A line break holds no brace. -/
lemma closingBrace?_lineBreakOf (below rest : List Char) (depth : ℕ) :
    closingBrace? depth (lineBreakOf below ++ rest) =
      (closingBrace? depth rest).map (· + (lineBreakOf below).length) := by
  refine closingBrace?_balanced ?_ depth rest
  rcases lineBreakOf_eq_or below with h | h <;> rw [h] <;> decide

/-- What is inserted in front of the closing brace leaves the line break of the header alone. -/
lemma lineBreakOf_inserted {below fragment : List Char} {k : ℕ}
    (hk : closingBrace? 0 (dropLineBreak below) = some k)
    (hempty : lineBreakOf below = [] → below.head? = some '\x7d' → fragment.head? ≠ some '\n') :
    let inserted := (dropLineBreak below).take k ++ fragment ++ (dropLineBreak below).drop k
    lineBreakOf (lineBreakOf below ++ inserted) = lineBreakOf below ∧
      dropLineBreak (lineBreakOf below ++ inserted) = inserted := by
  obtain ⟨rest, rfl, hbreak, -⟩ | ⟨hbreak, hdrop⟩ := lineBreakOf_cases below
  · rw [hbreak]
    exact ⟨rfl, rfl⟩
  · rw [hdrop] at hk ⊢
    rw [hbreak]
    refine lineBreakOf_of_head?_ne ?_
    cases below with
    | nil => cases hk
    | cons c below =>
      cases k with
      | succ k =>
        -- the first character stays the first one
        intro hhead
        obtain rfl : c = '\n' := by simpa using hhead
        exact absurd hbreak (by simp [lineBreakOf])
      | zero =>
        obtain rfl := eq_close_of_closingBrace?_zero hk
        cases fragment with
        | nil => exact fun hhead => absurd (Option.some.inj hhead) (by decide)
        | cons d fragment => exact hempty hbreak rfl

/-- Insert a fragment after the header of the main function, if there is one. -/
def atMainStart (fragment source : List Char) : List Char :=
  (atMainStart? fragment source).getD source

/-- Insert a fragment before the brace that ends the main function, if there is one. -/
def atMainEnd (fragment source : List Char) : List Char :=
  (atMainEnd? fragment source).getD source

section Places

variable {before front : List Char}

lemma atMainStart_atMain (h : AtMain before front) (fragment below : List Char) :
    atMainStart fragment (before ++ (front ++ '\x7b' :: below)) =
      before ++ (front ++ '\x7b' :: (lineBreakOf below ++ fragment ++ dropLineBreak below)) := by
  rw [atMainStart, atMainStart?_atMain h, Option.getD_some]

lemma atMainEnd_atMain (h : AtMain before front) (hfront : '\x7b' ∉ front)
    (fragment : List Char) {below : List Char} {k : ℕ} (hk : closingBrace? 0 below = some k) :
    atMainEnd fragment (before ++ (front ++ '\x7b' :: below)) =
      before ++ (front ++ '\x7b' :: (below.take k ++ fragment ++ below.drop k)) := by
  rw [atMainEnd, atMainEnd?_atMain h hfront, hk, Option.map_some, Option.getD_some]

lemma atMainEnd_of_closingBrace?_none (h : AtMain before front) (hfront : '\x7b' ∉ front)
    (fragment : List Char) {below : List Char} (hnone : closingBrace? 0 below = none) :
    atMainEnd fragment (before ++ (front ++ '\x7b' :: below)) =
      before ++ (front ++ '\x7b' :: below) := by
  rw [atMainEnd, atMainEnd?_atMain h hfront, hnone]
  rfl

/-- An insertion behind a text that is passed over. -/
lemma insert_behind (passed rest fragment : List Char) (k : ℕ) :
    (passed ++ rest).take (k + passed.length) ++ fragment ++
        (passed ++ rest).drop (k + passed.length) =
      passed ++ (rest.take k ++ fragment ++ rest.drop k) := by
  rw [Nat.add_comm, List.take_length_add_append, List.drop_length_add_append]
  simp only [List.append_assoc]

/-- Behind a header without another brace, both insertions give the same in either sequence. -/
lemma atMainEnd_atMainStart_atMain {opening closing below : List Char} (h : AtMain before front)
    (hfront : '\x7b' ∉ front) (hbalanced : Balanced opening)
    (hempty : lineBreakOf below = [] → below.head? = some '\x7d' → closing.head? ≠ some '\n') :
    atMainEnd closing (atMainStart opening (before ++ (front ++ '\x7b' :: below))) =
      atMainStart opening (atMainEnd closing (before ++ (front ++ '\x7b' :: below))) := by
  have hbelow : closingBrace? 0 below =
      (closingBrace? 0 (dropLineBreak below)).map (· + (lineBreakOf below).length) := by
    rw [← closingBrace?_lineBreakOf, lineBreakOf_append]
  -- what was put in at the start is passed over when the end is sought
  have hopened : closingBrace? 0 (lineBreakOf below ++ opening ++ dropLineBreak below) =
      (closingBrace? 0 (dropLineBreak below)).map
        (· + (lineBreakOf below ++ opening).length) := by
    rw [List.append_assoc, closingBrace?_lineBreakOf, closingBrace?_balanced hbalanced,
      Option.map_map, List.length_append]
    congr 1
    funext k
    simp only [Function.comp_apply]
    omega
  rw [atMainStart_atMain h]
  cases hk : closingBrace? 0 (dropLineBreak below) with
  | none =>
    rw [hk] at hbelow hopened
    rw [atMainEnd_of_closingBrace?_none h hfront closing hbelow,
      atMainEnd_of_closingBrace?_none h hfront closing hopened, atMainStart_atMain h]
  | some k =>
    rw [hk] at hbelow hopened
    obtain ⟨hbreak, hdrop⟩ := lineBreakOf_inserted hk hempty
    have hend := insert_behind (lineBreakOf below) (dropLineBreak below) closing k
    rw [lineBreakOf_append] at hend
    have hboth := insert_behind (lineBreakOf below ++ opening) (dropLineBreak below) closing k
    rw [atMainEnd_atMain h hfront closing hbelow, atMainEnd_atMain h hfront closing hopened, hend,
      hboth, atMainStart_atMain h, hbreak, hdrop]

end Places

/-- Where the header of the main function holds one brace only and the first fragment is balanced,
both insertions give the same in either sequence. -/
theorem atMainEnd_atMainStart {source opening closing : List Char} (hbalanced : Balanced opening)
    (hheader : ∀ m, splitMain? source = some m → m.header.count '\x7b' = 1)
    (hempty : ∀ m, splitMain? source = some m → m.HasEmptyBlock → closing.head? ≠ some '\n') :
    atMainEnd closing (atMainStart opening source) =
      atMainStart opening (atMainEnd closing source) := by
  cases hmain : splitMain? source with
  | none =>
    have hstart : atMainStart opening source = source := by
      rw [atMainStart, atMainStart?, hmain]
      rfl
    have hend : atMainEnd closing source = source := by
      rw [atMainEnd, atMainEnd?, endOfMain?, hmain]
      rfl
    rw [hstart, hend, hstart]
  | some m =>
    obtain ⟨front, below, hat, rfl⟩ := exists_atMain hmain
    have hsplit := Option.some.inj ((hat.splitMain? below).symm.trans hmain)
    have hfront : '\x7b' ∉ front := by
      have hcount := hheader m hmain
      rw [← hsplit, List.count_append, List.count_cons_self] at hcount
      exact List.count_eq_zero.1 (by omega)
    refine atMainEnd_atMainStart_atMain hat hfront hbalanced fun hbreak hclose => ?_
    refine hempty m hmain ?_
    rw [← hsplit]
    have hdrop : dropLineBreak below = below := by
      have hcut := lineBreakOf_append below
      rwa [hbreak, List.nil_append] at hcut
    exact ⟨by rw [hbreak, List.getLast?_concat], by rwa [hdrop]⟩

/-! ### Splicing both buckets -/

section Buckets

variable {label : String} {stage : Stage}

/-- Splice one bucket, without a report about its target. -/
def spliced (label : String) (code : List Char) (b : Bucket) : Answer (List Char) :=
  if isForeign label b then .ok code
  else b.fragment.map fun fragment => (insert? b.first fragment code).getD code

lemma map_step_code (p : Progress) (b : Bucket) :
    (step label p b).map Progress.code = spliced label p.code b := by
  rw [step, spliced]
  split
  · rfl
  · cases b.fragment with
    | error f => rfl
    | ok fragment =>
      simp only [bind, Except.bind, Except.map]
      cases insert? b.first fragment p.code <;> rfl

/-- The code is that of splicing one bucket after the other; the keys of missed targets do not
matter to it. -/
lemma map_stepAll_code (bs : List Bucket) (p : Progress) :
    (stepAll label bs p).2.map (fun _ => (stepAll label bs p).1.code) =
      bs.foldlM (spliced label) p.code := by
  induction bs generalizing p with
  | nil => rfl
  | cons b bs ih =>
    rw [List.foldlM_cons, ← map_step_code, stepAll]
    cases hstep : step label p b with
    | error f => rfl
    | ok q => exact ih q

lemma run_code (bs : List Bucket) (source : List Char) :
    (run label bs source).2 =
      (bs.foldlM (spliced label) source).map (removeAll declarationMarker) := by
  rw [← map_stepAll_code bs ⟨source, []⟩, run]
  generalize stepAll label bs ⟨source, []⟩ = result
  obtain ⟨p, outcome⟩ := result
  cases outcome <;> rfl

lemma spliced_of_place {b : Bucket} {name : String} (h : b.first.target = .place stage name)
    (code : List Char) :
    spliced stage.label code b =
      b.fragment.map fun fragment => (insert? b.first fragment code).getD code := by
  rw [spliced, if_neg]
  simp [isForeign, h, Target.stage?]

lemma spliced_mainStart {b : Bucket} (h : b.first.target = .place stage "main-start")
    (code : List Char) :
    spliced stage.label code b = b.fragment.map fun fragment => atMainStart fragment code := by
  rw [spliced_of_place h]
  simp only [insert?, h, if_pos, atMainStart]

lemma spliced_mainEnd {b : Bucket} (h : b.first.target = .place stage "main-end")
    (code : List Char) :
    spliced stage.label code b = b.fragment.map fun fragment => atMainEnd fragment code := by
  rw [spliced_of_place h]
  simp only [insert?, h, if_neg (show ¬ "main-end" = "main-start" by decide), if_pos, atMainEnd]

/-- Whichever of the start and the end of the main function is first, splicing gives the same code:
where the header holds one brace only, the fragment for the start is balanced, and the fragment for
the end does not give an empty block a line break. -/
theorem run_mainPlaces_comm {start finish : Bucket} (rest : List Bucket)
    {source opening : List Char} (hstart : start.first.target = .place stage "main-start")
    (hfinish : finish.first.target = .place stage "main-end")
    (hopening : start.fragment = .ok opening) (hbalanced : Balanced opening)
    (hheader : ∀ m, splitMain? source = some m → m.header.count '\x7b' = 1)
    (hempty : ∀ m, splitMain? source = some m → m.HasEmptyBlock →
      ∀ closing, finish.fragment = .ok closing → closing.head? ≠ some '\n') :
    (run stage.label (start :: finish :: rest) source).2 =
      (run stage.label (finish :: start :: rest) source).2 := by
  have hboth : (spliced stage.label source start >>= fun code =>
        spliced stage.label code finish) =
      (spliced stage.label source finish >>= fun code => spliced stage.label code start) := by
    simp only [spliced_mainStart hstart, spliced_mainEnd hfinish, hopening]
    cases hclosing : finish.fragment with
    | error f => rfl
    | ok closing =>
      exact congrArg Except.ok (atMainEnd_atMainStart hbalanced hheader fun m hm hblock =>
        hempty m hm hblock closing hclosing)
  rw [run_code, run_code]
  simp only [List.foldlM_cons]
  rw [← bind_assoc, hboth, bind_assoc]

/-- Code for the start of the main function, with a block and with another main function in a
comment. -/
def litStart : Bucket :=
  ⟨"vs:#main-start", ⟨"vs:#main-start", .place .vertex "main-start",
    "if (lit) \x7b glow(); \x7d // not: void main() \x7b\x7d", .whole 0⟩, []⟩

/-- Code for the end of the main function. -/
def fadeEnd : Bucket :=
  ⟨"vs:#main-end", ⟨"vs:#main-end", .place .vertex "main-end", "fade();", .whole 0⟩, []⟩

theorem litStart_fadeEnd_comm :
    litStart.fragment =
        .ok "if (lit) \x7b glow(); \x7d // not: void main() \x7b\x7d\n".toList ∧
      (run Stage.vertex.label [litStart, fadeEnd] "void main() \x7b\x7d".toList).2 =
        (run Stage.vertex.label [fadeEnd, litStart] "void main() \x7b\x7d".toList).2 := by
  have hopening : litStart.fragment =
      .ok "if (lit) \x7b glow(); \x7d // not: void main() \x7b\x7d\n".toList := rfl
  have hclosing : fadeEnd.fragment = .ok "fade();\n".toList := rfl
  have hmain : splitMain? "void main() \x7b\x7d".toList =
      some ⟨[], "void main() \x7b".toList, ['\x7d']⟩ := by decide +kernel
  refine ⟨hopening, run_mainPlaces_comm [] rfl rfl hopening (by decide +kernel)
    (fun m hm => ?_) fun m _ _ closing hc => ?_⟩
  · obtain rfl := Option.some.inj (hmain.symm.trans hm)
    decide +kernel
  · obtain rfl := Except.ok.inj (hclosing.symm.trans hc)
    decide

end Buckets

end Splice

end ShaderLoom
