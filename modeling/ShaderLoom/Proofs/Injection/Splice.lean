import ShaderLoom.Injection.Splice
import ShaderLoom.Proofs.Injection.Order
import ShaderLoom.Proofs.Injection.Slots
import ShaderLoom.Proofs.Text.Occurrence

/-!
# What splicing does to code

Splicing the buckets of a body inserts the fragment of each bucket whose target is found when its
turn comes, and changes nothing else (`Splice.inserted_of_run`). Splicing declarations puts them in
place of the marker (`Splice.run_declarations`).
-/

namespace ShaderLoom

open Text Glsl

/-! ### Fragments -/

/-- The contents of injections, each with a line break behind it. -/
def Injection.lines (is : List Injection) : List Char :=
  is.flatMap fun i => i.content.toList ++ ['\n']

lemma joinWith_contents {is : List Injection} (hne : is ≠ []) :
    joinWith ['\n'] (is.map (·.content.toList)) ++ ['\n'] = Injection.lines is := by
  match is, hne with
  | [i], _ => simp [joinWith, Injection.lines]
  | i :: j :: rest, _ =>
    have ih : joinWith ['\n'] ((j :: rest).map (·.content.toList)) ++ ['\n'] =
        Injection.lines (j :: rest) := joinWith_contents (by simp)
    simp only [List.map_cons, joinWith, Injection.lines, List.flatMap_cons] at ih ⊢
    rw [List.append_assoc, ih, List.append_assoc]

namespace Bucket

/-- The text is the fragment of a bucket: the contents in the sequence of the orders, each with a
line break behind it. -/
def IsFragment (b : Bucket) (fragment : List Char) : Prop :=
  ∃ is, Injection.arrange b.members = .ok is ∧ Injection.InOrder b.members is ∧
    fragment = Injection.lines is

/-- The fragment of a bucket consists of its contents, arranged. -/
lemma exists_lines_of_fragment {b : Bucket} {fragment : List Char} (h : b.fragment = .ok fragment) :
    ∃ is, Injection.arrange b.members = .ok is ∧ fragment = Injection.lines is := by
  obtain ⟨is, his, hlines⟩ := bind_eq_ok.1 h
  refine ⟨is, his, ?_⟩
  have hne : is ≠ [] := by
    rintro rfl
    exact absurd (Injection.perm_of_arrange his).symm.eq_nil (by simp [members])
  rw [← joinWith_contents hne]
  exact (Except.ok.inj hlines).symm

lemma isFragment_of_fragment {b : Bucket} {fragment : List Char}
    (hnumber : ∀ i ∈ b.members, i.order.quantity ≠ .missing) (h : b.fragment = .ok fragment) :
    b.IsFragment fragment := by
  obtain ⟨is, his, hlines⟩ := exists_lines_of_fragment h
  exact ⟨is, his, Injection.inOrder_of_arrange hnumber his, hlines⟩

end Bucket

namespace Splice

/-! ### Places in code -/

/-- Where the code of an injection goes: what stands before and after that place. The start and the
end of the main function are places of their own, every other one is behind the first occurrence of
a text. -/
def cut? (i : Injection) (source : List Char) : Option (List Char × List Char) :=
  match i.target with
  | .place _ name =>
    if name = "main-start" then (splitMain? source).map fun m => (m.before ++ m.header, m.body)
    else if name = "main-end" then (endOfMain? source).map fun n => (source.take n, source.drop n)
    else (splitAtFirst name.toList source).map fun cut => (cut.1 ++ name.toList, cut.2)
  | _ => (splitAtFirst i.key.toList source).map fun cut => (cut.1 ++ i.key.toList, cut.2)

/-- Whether the injection goes to the start or to the end of the main function. -/
def isInMain (i : Injection) : Bool :=
  match i.target with
  | .place _ name => name = "main-start" || name = "main-end"
  | _ => false

/-- What is inserted for a fragment. Outside of the main function it is put on lines of its own. -/
def insertion (i : Injection) (fragment : List Char) : List Char :=
  if isInMain i then fragment else '\n' :: dropTrailing '\n' fragment

lemma append_of_cut? {i : Injection} {source before after : List Char}
    (h : cut? i source = some (before, after)) : before ++ after = source := by
  have hfirst : ∀ target, ((splitAtFirst target source).map fun cut => (cut.1 ++ target, cut.2)) =
      some (before, after) → before ++ after = source := by
    intro target htarget
    obtain ⟨cut, hcut, heq⟩ := Option.map_eq_some_iff.1 htarget
    obtain ⟨rfl, rfl⟩ : cut.1 ++ target = before ∧ cut.2 = after := by simpa using heq
    exact (splitAtFirst_eq_some hcut).symm
  unfold cut? at h
  split at h
  · split at h
    · obtain ⟨m, hm, heq⟩ := Option.map_eq_some_iff.1 h
      obtain ⟨rfl, rfl⟩ : m.before ++ m.header = before ∧ m.body = after := by simpa using heq
      exact (splitMain?_eq_some hm).symm
    · split at h
      · obtain ⟨n, -, heq⟩ := Option.map_eq_some_iff.1 h
        obtain ⟨rfl, rfl⟩ : source.take n = before ∧ source.drop n = after := by simpa using heq
        exact List.take_append_drop n source
      · exact hfirst _ h
  · exact hfirst _ h

/-- Inserting a fragment for a place in the body or for a pattern. -/
lemma insert?_eq {i : Injection} (hbody : Slots.isBody i) (fragment source : List Char) :
    insert? i fragment source =
      (cut? i source).map fun cut => cut.1 ++ insertion i fragment ++ cut.2 := by
  -- patterns and most places are texts, behind which the fragment goes
  have hafter : ∀ target, isInMain i = false →
      afterText? target fragment source =
        ((splitAtFirst target source).map fun cut => (cut.1 ++ target, cut.2)).map
          fun cut => cut.1 ++ insertion i fragment ++ cut.2 := by
    intro target hmain
    rw [afterText?, Option.map_map]
    congr 1
    funext cut
    simp [insertion, hmain]
  unfold insert? cut?
  match htarget : i.target with
  | .declarations s | .hook s name => simp [Slots.isBody, htarget] at hbody
  | .pattern text => exact hafter _ (by simp [isInMain, htarget])
  | .place s name =>
    by_cases hstart : name = "main-start"
    · have hmain : isInMain i := by simp [isInMain, htarget, hstart]
      simp [hstart, atMainStart?, insertion, hmain, Function.comp_def]
    · by_cases hend : name = "main-end"
      · have hmain : isInMain i := by simp [isInMain, htarget, hend]
        simp [hend, atMainEnd?, insertion, hmain, Function.comp_def]
      · simp only [if_neg hstart, if_neg hend]
        exact hafter _ (by simp [isInMain, htarget, hstart, hend])

/-! ### Splicing a body -/

/-- The fragments of buckets are inserted into code, one bucket after the other. A bucket whose
target is not found when its turn comes inserts nothing. -/
inductive Inserted : List Bucket → List Char → List Char → Prop
  | nil (code : List Char) : Inserted [] code code
  | found {b : Bucket} {bs : List Bucket} {before after fragment out : List Char}
      (hcut : cut? b.first (before ++ after) = some (before, after))
      (hfragment : b.IsFragment fragment)
      (hrest : Inserted bs (before ++ insertion b.first fragment ++ after) out) :
      Inserted (b :: bs) (before ++ after) out
  | missing {b : Bucket} {bs : List Bucket} {code out : List Char}
      (hcut : cut? b.first code = none) (hrest : Inserted bs code out) :
      Inserted (b :: bs) code out

/-- Insertions neither delete nor move anything. -/
theorem Inserted.sublist {bs : List Bucket} {code out : List Char} (h : Inserted bs code out) :
    code.Sublist out := by
  induction h with
  | nil code => exact List.Sublist.refl code
  | found _ _ _ ih =>
    refine List.Sublist.trans ?_ ih
    rw [List.append_assoc]
    exact (List.Sublist.refl _).append (List.sublist_append_right _ _)
  | missing _ _ ih => exact ih

/-- A bucket of a body of the stage, with orders that are numbers. -/
structure Fits (label : String) (b : Bucket) : Prop where
  body : Slots.isBody b.first
  own : isForeign label b = false
  number : ∀ i ∈ b.members, i.order.quantity ≠ .missing

lemma inserted_of_stepAll {label : String} {bs : List Bucket} {p p' : Progress}
    (hbs : ∀ b ∈ bs, Fits label b) (h : stepAll label bs p = (p', .ok ())) :
    Inserted bs p.code p'.code := by
  induction bs generalizing p with
  | nil =>
    obtain rfl : p = p' := by simpa [stepAll] using h
    exact .nil p.code
  | cons b bs ih =>
    have hb := hbs b (by simp)
    have hbs' : ∀ b ∈ bs, Fits label b := fun c hc => hbs c (by simp [hc])
    rw [stepAll] at h
    split at h
    · next q hq =>
      rw [step, if_neg (by simp [hb.own])] at hq
      obtain ⟨fragment, hfragment, hq⟩ := bind_eq_ok.1 hq
      rw [insert?_eq hb.body] at hq
      cases hcut : cut? b.first p.code with
      | none =>
        -- the target is not there: the code stays as it is
        obtain rfl : { p with missed := p.missed ++ [b.key] } = q := by simpa [hcut] using hq
        have hrest := ih hbs' h
        exact .missing hcut hrest
      | some cut =>
        obtain ⟨before, after⟩ := cut
        obtain rfl : { p with code := before ++ insertion b.first fragment ++ after } = q := by
          simpa [hcut] using hq
        have happ := append_of_cut? hcut
        rw [← happ] at hcut ⊢
        exact .found hcut (Bucket.isFragment_of_fragment hb.number hfragment) (ih hbs' h)
    · exact absurd h (by simp)

lemma stepAll_of_run {label : String} {bs : List Bucket} {code out : List Char}
    {missed : List String} (h : run label bs code = (missed, .ok out)) :
    ∃ p, stepAll label bs ⟨code, []⟩ = (p, .ok ()) ∧
      out = removeAll declarationMarker p.code := by
  unfold run at h
  match hsteps : stepAll label bs ⟨code, []⟩ with
  | (p, .ok ()) =>
    rw [hsteps] at h
    obtain ⟨-, hout⟩ := Prod.mk.inj h
    exact ⟨p, rfl, (Except.ok.inj hout).symm⟩
  | (p, .error f) =>
    rw [hsteps] at h
    obtain ⟨-, hout⟩ := Prod.mk.inj h
    exact absurd hout (by simp [Except.map])

/-- Splicing the buckets of a body inserts their fragments; at the end markers are deleted. -/
theorem inserted_of_run {label : String} {bs : List Bucket} {code out : List Char}
    {missed : List String} (hbs : ∀ b ∈ bs, Fits label b)
    (h : run label bs code = (missed, .ok out)) :
    ∃ spliced, Inserted bs code spliced ∧ out = removeAll declarationMarker spliced := by
  obtain ⟨p, hsteps, hout⟩ := stepAll_of_run h
  exact ⟨p.code, inserted_of_stepAll hbs hsteps, hout⟩

/-! ### Splicing declarations -/

/-- The marker of the declarations does not occur. -/
def MarkerFree (cs : List Char) : Prop := occurs declarationMarker cs = false

lemma markerFree_iff {cs : List Char} : MarkerFree cs ↔ ¬ declarationMarker <:+: cs :=
  occurs_eq_false_iff

lemma lineBreak_not_mem_marker : '\n' ∉ declarationMarker := by decide

lemma declarationMarker_ne_nil : declarationMarker ≠ [] := by decide

lemma markerFree_append_cons {a b : List Char} :
    MarkerFree (a ++ '\n' :: b) ↔ MarkerFree a ∧ MarkerFree b := by
  rw [markerFree_iff, markerFree_iff, markerFree_iff,
    infix_append_cons_iff lineBreak_not_mem_marker, not_or]

lemma markerFree_nil : MarkerFree [] := by
  rw [markerFree_iff, List.infix_nil]
  exact declarationMarker_ne_nil

lemma markerFree_lines {is : List Injection}
    (h : ∀ i ∈ is, MarkerFree i.content.toList) : MarkerFree (Injection.lines is) := by
  induction is with
  | nil => exact markerFree_nil
  | cons i is ih =>
    have hcons : Injection.lines (i :: is) = i.content.toList ++ '\n' :: Injection.lines is := by
      simp [Injection.lines]
    rw [hcons, markerFree_append_cons]
    exact ⟨h i (by simp), ih fun j hj => h j (by simp [hj])⟩

/-- Code around the place of the declarations, which stands on lines of its own. -/
def around (front middle : List Char) : List Char :=
  front ++ "\n\n".toList ++ middle ++ "\n\n".toList

lemma markerFree_around {front middle : List Char} (hfront : MarkerFree front)
    (hmiddle : MarkerFree middle) : MarkerFree (around front middle) := by
  have happ : around front middle =
      front ++ '\n' :: ([] ++ '\n' :: (middle ++ '\n' :: ([] ++ '\n' :: []))) := by
    simp [around]
  rw [happ]
  simp only [markerFree_append_cons]
  exact ⟨hfront, markerFree_nil, hmiddle, markerFree_nil, markerFree_nil⟩

lemma splitAtFirst_around {front : List Char} (hfront : MarkerFree front) :
    splitAtFirst declarationMarker (around front declarationMarker) =
      some (front ++ "\n\n".toList, "\n\n".toList) := by
  have happ : around front declarationMarker =
      (front ++ ['\n']) ++ '\n' :: (declarationMarker ++ "\n\n".toList) := by
    simp [around]
  have hfree : MarkerFree (front ++ ['\n']) := markerFree_append_cons.2 ⟨hfront, markerFree_nil⟩
  rw [happ, splitAtFirst_append_cons lineBreak_not_mem_marker declarationMarker_ne_nil
    (markerFree_iff.1 hfree)]
  simp

/-- Splicing declarations that share a key puts them in place of the marker. -/
theorem run_declarations {stage : Stage} {is : List Injection} {key : String}
    {front out : List Char} {missed : List String}
    (hkey : ∀ i ∈ is, i.key = key) (htarget : ∀ i ∈ is, i.target = .declarations stage)
    (hnumber : ∀ i ∈ is, i.order.quantity ≠ .missing)
    (h : run stage.label (Bucket.collect is) (around front declarationMarker) =
      (missed, .ok out)) :
    ∃ js, Injection.arrange is = .ok js ∧ Injection.InOrder is js ∧
      (MarkerFree front → (∀ i ∈ is, MarkerFree i.content.toList) →
        out = around front (Injection.lines js)) := by
  obtain ⟨p, hsteps, rfl⟩ := stepAll_of_run h
  by_cases hne : is = []
  · -- without declarations the marker is deleted at the end
    subst hne
    obtain rfl : ⟨around front declarationMarker, []⟩ = p := by
      simpa [Bucket.collect, stepAll] using hsteps
    refine ⟨[], rfl, Injection.inOrder_of_arrange (by simp) rfl, fun hfront _ => ?_⟩
    rw [removeAll_of_splitAtFirst declarationMarker_ne_nil (splitAtFirst_around hfront)
      (by decide)]
    simp [around, Injection.lines]
  · -- with one key there is one bucket, which is spliced in at the marker
    obtain ⟨b, hb, hmembers⟩ := Bucket.collect_eq_singleton hne hkey
    have hfirst : b.first.target = .declarations stage :=
      htarget b.first (by rw [← hmembers]; simp [Bucket.members])
    have hown : isForeign stage.label b = false := by
      simp [isForeign, hfirst, Target.stage?]
    rw [hb, stepAll] at hsteps
    split at hsteps
    · next q hq =>
      obtain rfl : q = p := by simpa [stepAll] using hsteps
      rw [step, if_neg (by simp [hown])] at hq
      obtain ⟨fragment, hfragment, hq⟩ := bind_eq_ok.1 hq
      obtain ⟨js, hjs, horder, rfl⟩ :=
        Bucket.isFragment_of_fragment (by rw [hmembers]; exact hnumber) hfragment
      rw [hmembers] at hjs horder
      refine ⟨js, hjs, horder, fun hfront hcontents => ?_⟩
      have hinsert : insert? b.first (Injection.lines js) (around front declarationMarker) =
          some (around front (Injection.lines js)) := by
        simp only [insert?, hfirst, atMarker?]
        rw [splitAtFirst_around hfront]
        rfl
      have hcode : q.code = around front (Injection.lines js) := by
        rw [hinsert] at hq
        obtain rfl := Except.ok.inj hq
        rfl
      have hlines : MarkerFree (Injection.lines js) :=
        markerFree_lines fun i hi => hcontents i (horder.perm.mem_iff.1 hi)
      rw [hcode, removeAll_of_not_occurs (markerFree_around hfront hlines)]
    · exact absurd hsteps (by simp)

end Splice

end ShaderLoom
