import ShaderLoom.Hook.Code
import ShaderLoom.Proofs.Glsl.Seam
import ShaderLoom.Proofs.Injection.Splice

/-!
# Injections and seams

What is spliced into code makes no directive with the code around it, if it does not end with a
beginning of one: the code in front of it never does (`Splice.putInto_of_insert?`). This holds
of whole runs (`Splice.tight_run`), which delete the markers that are left, and of the code of hooks
(`Hook.clean_codeAll`).
-/

namespace ShaderLoom

open Text Glsl

/-! ### Lines -/

namespace Glsl

lemma Tight.clean_line {a : List Char} (h : Tight a) : Clean (a ++ ['\n']) :=
  ⟨tight_append_lineBreak.2 ⟨h, tight_nil⟩, finished_lineBreak a⟩

lemma clean_flatMap {α : Type} {f : α → List Char} {xs : List α} (h : ∀ x ∈ xs, Clean (f x)) :
    Clean (xs.flatMap f) := by
  induction xs with
  | nil => exact ⟨tight_nil, finished_nil⟩
  | cons x xs ih =>
    rw [List.flatMap_cons]
    exact (h x List.mem_cons_self).append (ih fun y hy => h y (List.mem_cons_of_mem x hy))

end Glsl

namespace Injection

/-- Nothing that is put behind the code makes a directive with it. -/
def IsClean (i : Injection) : Prop := Clean (dropTrailing '\n' i.content.toList)

instance (i : Injection) : Decidable i.IsClean :=
  inferInstanceAs (Decidable (Clean (dropTrailing '\n' i.content.toList)))

lemma clean_lines {is : List Injection} (h : ∀ i ∈ is, i.IsClean) : Clean (lines is) :=
  clean_flatMap fun i hi => (h i hi).tight.of_dropTrailing.clean_line

/-- At the end of the lines stands the end of a content, or nothing. -/
lemma finished_dropTrailing_lines {is : List Injection} (h : ∀ i ∈ is, i.IsClean) :
    Finished (dropTrailing '\n' (lines is)) := by
  induction is with
  | nil => exact finished_nil
  | cons i is ih =>
    have hrest := ih fun j hj => h j (List.mem_cons_of_mem i hj)
    have hcons : lines (i :: is) = i.content.toList ++ '\n' :: lines is := by simp [lines]
    rw [hcons, dropTrailing_append_cons]
    split
    · exact (h i List.mem_cons_self).finished
    · rw [List.append_cons]
      exact (finished_lineBreak _).append hrest

lemma clean_dropTrailing_lines {is : List Injection} (h : ∀ i ∈ is, i.IsClean) :
    Clean (dropTrailing '\n' (lines is)) := by
  refine ⟨?_, finished_dropTrailing_lines h⟩
  obtain ⟨n, hn⟩ := exists_eq_dropTrailing_append '\n' (lines is)
  have hprefix : dropTrailing '\n' (lines is) <+: lines is := ⟨_, hn.symm⟩
  exact (clean_lines h).tight.mono hprefix.isInfix

end Injection

/-- The fragment of a bucket with clean contents. -/
lemma Bucket.clean_fragment {b : Bucket} {fragment : List Char} (h : b.fragment = .ok fragment)
    (hclean : ∀ i ∈ b.members, i.IsClean) :
    Clean fragment ∧ Clean (dropTrailing '\n' fragment) := by
  obtain ⟨is, his, rfl⟩ := exists_lines_of_fragment h
  have hmembers : ∀ i ∈ is, i.IsClean := fun i hi =>
    hclean i ((Injection.perm_of_arrange his).mem_iff.1 hi)
  exact ⟨Injection.clean_lines hmembers, Injection.clean_dropTrailing_lines hmembers⟩

/-! ### Splicing -/

namespace Splice

/-- Code into which a text is put, behind code that makes no directive with it. -/
inductive PutInto (text source : List Char) : List Char → Prop
  | mk {before after : List Char} (hbefore : Clean before) (hafter : Tight after)
      (hsuffix : after <:+ source) : PutInto text source (before ++ (text ++ after))

namespace PutInto

variable {text source out : List Char}

lemma tight (h : PutInto text source out) (htext : Clean text) : Tight out := by
  obtain ⟨hbefore, hafter, -⟩ := h
  exact hbefore.tight.append hbefore.finished (htext.tight.append htext.finished hafter)

lemma finished (h : PutInto text source out) (htext : Clean text) (hsource : Finished source) :
    Finished out := by
  obtain ⟨hbefore, -, hsuffix⟩ := h
  exact hbefore.finished.append (htext.finished.append (hsource.of_suffix hsuffix))

end PutInto

section Insert

variable {fragment source out : List Char} (hsource : Tight source)
include hsource

/-- The header of the main function ends with a brace. -/
lemma putInto_of_atMainStart? (h : atMainStart? fragment source = some out) :
    PutInto fragment source out := by
  obtain ⟨m, hm, rfl⟩ := Option.map_eq_some_iff.1 h
  have hfinished := finished_header hm
  obtain rfl := splitMain?_eq_some hm
  rw [List.append_assoc (m.before ++ m.header)]
  refine .mk ⟨?_, hfinished⟩ ?_ (List.suffix_append _ m.body)
  · exact hsource.mono (List.prefix_append _ m.body).isInfix
  · exact hsource.mono (List.suffix_append _ m.body).isInfix

/-- Behind the end of the main function stands a brace. -/
lemma putInto_of_atMainEnd? (h : atMainEnd? fragment source = some out) :
    PutInto fragment source out := by
  obtain ⟨n, hn, rfl⟩ := Option.map_eq_some_iff.1 h
  obtain ⟨rest, hrest⟩ := drop_endOfMain? hn
  have hcut : Tight (source.take n ++ '\x7d' :: rest) := by
    rw [← hrest, List.take_append_drop]
    exact hsource
  rw [List.append_assoc]
  refine .mk ⟨?_, .of_tight hcut (by decide)⟩ ?_ (List.drop_suffix n source)
  · exact hsource.mono (List.take_prefix n source).isInfix
  · exact hsource.mono (List.drop_suffix n source).isInfix

/-- A line break is put behind the text that the fragment follows. -/
lemma putInto_of_afterText? {target : List Char}
    (h : afterText? target fragment source = some out) :
    PutInto (dropTrailing '\n' fragment) source out := by
  obtain ⟨⟨before, after⟩, hcut, rfl⟩ := Option.map_eq_some_iff.1 h
  obtain rfl := splitAtFirst_eq_some hcut
  have hline := (hsource.mono (List.prefix_append (before ++ target) after).isInfix).clean_line
  have happ : before ++ target ++ '\n' :: dropTrailing '\n' fragment ++ after =
      before ++ target ++ ['\n'] ++ (dropTrailing '\n' fragment ++ after) := by simp
  rw [happ]
  refine .mk hline ?_ (List.suffix_append _ after)
  exact hsource.mono (List.suffix_append _ after).isInfix

/-- The marker starts with an underscore. -/
lemma clean_before_marker {before after : List Char}
    (hcut : source = before ++ declarationMarker ++ after) : Clean before := by
  have hmarker : source = before ++ '_' :: (declarationMarker.tail ++ after) := by
    rw [hcut, List.append_assoc]
    rfl
  rw [hmarker] at hsource
  exact ⟨hsource.mono (List.prefix_append before _).isInfix, .of_tight hsource (by decide)⟩

lemma putInto_of_atMarker? (h : atMarker? fragment source = some out) :
    PutInto fragment source out := by
  obtain ⟨⟨before, after⟩, hcut, rfl⟩ := Option.map_eq_some_iff.1 h
  have hwhole := splitAtFirst_eq_some hcut
  have hbefore := clean_before_marker hsource hwhole
  subst hwhole
  rw [List.append_assoc before fragment]
  refine .mk hbefore ?_ (List.suffix_append _ after)
  exact hsource.mono (List.suffix_append _ after).isInfix

/-- Wherever a fragment goes, it is put behind code that makes no directive with it. Its line breaks
at the end are kept or dropped. -/
theorem putInto_of_insert? {i : Injection} (h : insert? i fragment source = some out) :
    PutInto fragment source out ∨ PutInto (dropTrailing '\n' fragment) source out := by
  unfold insert? at h
  split at h
  · exact .inl (putInto_of_atMarker? hsource h)
  · split at h
    · exact .inl (putInto_of_atMainStart? hsource h)
    · split at h
      · exact .inl (putInto_of_atMainEnd? hsource h)
      · exact .inr (putInto_of_afterText? hsource h)
  · exact .inr (putInto_of_afterText? hsource h)

end Insert

/-! ### Whole runs -/

/-- Deleting markers makes no directive. -/
lemma tight_replaceFrom {limit : ℕ} {cs : List Char} (h : Tight cs) :
    Tight (replaceFrom declarationMarker [] limit 0 cs) ∧
      (Finished cs → Finished (replaceFrom declarationMarker [] limit 0 cs)) := by
  induction limit generalizing cs with
  | zero =>
    have hsame : replaceFrom declarationMarker [] 0 0 cs = cs := by cases cs <;> rfl
    rw [hsame]
    exact ⟨h, id⟩
  | succ limit ih =>
    cases hcut : splitAtFirst declarationMarker cs with
    | none =>
      rw [replaceFrom_of_not_occurs _ _ (by simp [occurs, hcut])]
      exact ⟨h, id⟩
    | some cut =>
      have hwhole := splitAtFirst_eq_some hcut
      have hbefore := clean_before_marker h hwhole
      have hsuffix : cut.2 <:+ cs := hwhole ▸ List.suffix_append _ cut.2
      obtain ⟨htight, hfinished⟩ := ih (h.mono hsuffix.isInfix)
      rw [replaceFrom_of_splitAtFirst [] limit declarationMarker_ne_nil hcut, List.append_nil]
      exact ⟨hbefore.tight.append hbefore.finished htight,
        fun hcs => hbefore.finished.append (hfinished (hcs.of_suffix hsuffix))⟩

lemma tight_removeAll {cs : List Char} (h : Tight cs) :
    Tight (removeAll declarationMarker cs) ∧
      (Finished cs → Finished (removeAll declarationMarker cs)) := by
  rw [removeAll, replaceAll, replaceUpTo, if_neg declarationMarker_ne_nil]
  exact tight_replaceFrom h

lemma tight_step {label : String} {p q : Progress} {b : Bucket} (hcode : Tight p.code)
    (hclean : ∀ i ∈ b.members, i.IsClean) (h : step label p b = .ok q) :
    Tight q.code ∧ (Finished p.code → Finished q.code) := by
  unfold step at h
  split at h
  · obtain rfl := Except.ok.inj h
    exact ⟨hcode, id⟩
  · obtain ⟨fragment, hfragment, h⟩ := bind_eq_ok.1 h
    obtain ⟨hkept, hdropped⟩ := Bucket.clean_fragment hfragment hclean
    split at h
    · next code hinsert =>
      obtain rfl := Except.ok.inj h
      rcases putInto_of_insert? hcode hinsert with hput | hput
      · exact ⟨hput.tight hkept, hput.finished hkept⟩
      · exact ⟨hput.tight hdropped, hput.finished hdropped⟩
    · obtain rfl := Except.ok.inj h
      exact ⟨hcode, id⟩

lemma tight_stepAll {label : String} {bs : List Bucket} {p q : Progress} (hcode : Tight p.code)
    (hclean : ∀ b ∈ bs, ∀ i ∈ b.members, i.IsClean) (h : stepAll label bs p = (q, .ok ())) :
    Tight q.code ∧ (Finished p.code → Finished q.code) := by
  induction bs generalizing p with
  | nil =>
    obtain rfl : p = q := by simpa [stepAll] using h
    exact ⟨hcode, id⟩
  | cons b bs ih =>
    rw [stepAll] at h
    split at h
    · next r hr =>
      obtain ⟨htight, hfinished⟩ := tight_step hcode (hclean b List.mem_cons_self) hr
      obtain ⟨hlast, hlastFinished⟩ :=
        ih htight (fun c hc => hclean c (List.mem_cons_of_mem b hc)) h
      exact ⟨hlast, fun hp => hlastFinished (hfinished hp)⟩
    · exact absurd h (by simp)

/-- Splicing clean contents into code makes no directive. -/
theorem tight_run {label : String} {bs : List Bucket} {code out : List Char} (hcode : Tight code)
    (hclean : ∀ b ∈ bs, ∀ i ∈ b.members, i.IsClean) (h : (run label bs code).2 = .ok out) :
    Tight out ∧ (Finished code → Finished out) := by
  obtain ⟨p, hsteps, rfl⟩ := stepAll_of_run (Prod.ext rfl h)
  obtain ⟨htight, hfinished⟩ := tight_stepAll hcode hclean hsteps
  obtain ⟨hout, houtFinished⟩ := tight_removeAll htight
  exact ⟨hout, fun hc => houtFinished (hfinished hc)⟩

end Splice

/-! ### Hooks -/

namespace Hook

/-- The signature, the header and the footer of a hook make no directive. -/
structure IsTight (h : Hook) : Prop where
  signature : Tight h.signature.toList
  header : ∀ s, h.header = .text s → Tight s.toList
  footer : ∀ s, h.footer = .text s → Tight s.toList

lemma infix_joinWith {sep piece : List Char} {pieces : List (List Char)} (h : piece ∈ pieces) :
    piece <:+: joinWith sep pieces := by
  induction pieces with
  | nil => cases h
  | cons p ps ih =>
    cases ps with
    | nil =>
      obtain rfl := List.mem_singleton.1 h
      exact List.infix_refl _
    | cons q qs =>
      rcases List.mem_cons.1 h with rfl | h
      · exact ((List.prefix_append piece sep).trans (List.prefix_append _ _)).isInfix
      · exact (ih h).trans (List.suffix_append (p ++ sep) _).isInfix

/-- The lines of an indented text make no directive if the text has none. -/
lemma clean_indent {cs : List Char} (h : Tight (dropTrailing '\n' cs)) : Clean (indent cs) := by
  refine clean_flatMap fun line hline => Tight.clean_line ?_
  have hin := @infix_joinWith ['\n'] _ _ hline
  rw [joinWith_splitOn] at hin
  split
  · exact tight_nil
  · exact tight_append_cons (a := [' ']) (by decide) |>.2 ⟨by decide, h.mono hin⟩

lemma clean_indentedPart {v : Value} {part : List Char} (h : indentedPart v = .ok part)
    (hv : ∀ s, v = .text s → Tight s.toList) : Clean part := by
  obtain ⟨b, -, h⟩ := bind_eq_ok.1 h
  cases b with
  | false =>
    obtain rfl := Except.ok.inj h
    exact ⟨tight_nil, finished_nil⟩
  | true =>
    cases v with
    | text s =>
      obtain rfl := Except.ok.inj h
      obtain ⟨n, hn⟩ := exists_eq_dropTrailing_append '\n' s.toList
      have hprefix : dropTrailing '\n' s.toList <+: s.toList := ⟨_, hn.symm⟩
      exact clean_indent ((hv s rfl).mono hprefix.isInfix)
    | _ => cases h

lemma clean_code {h : Hook} {is : List Injection} {code : List Char} (hcode : h.code is = .ok code)
    (htight : h.IsTight) (hclean : ∀ i ∈ is, i.IsClean) : Clean code := by
  obtain ⟨header, hheader, hcode⟩ := bind_eq_ok.1 hcode
  obtain ⟨js, hjs, hcode⟩ := bind_eq_ok.1 hcode
  obtain ⟨footer, hfooter, hcode⟩ := bind_eq_ok.1 hcode
  obtain rfl := Except.ok.inj hcode
  have hsignature : Clean ("void ".toList ++ h.signature.toList ++ " \x7b\n".toList) := by
    have happ : "void ".toList ++ h.signature.toList ++ " \x7b\n".toList =
        "void".toList ++ ' ' :: (h.signature.toList ++ ' ' :: "\x7b".toList) ++ ['\n'] := by simp
    have hspace : ∀ t ∈ seams, ' ' ∉ t := by decide
    rw [happ]
    refine Tight.clean_line ((tight_append_cons hspace).2 ⟨by decide, ?_⟩)
    exact (tight_append_cons hspace).2 ⟨htight.signature, by decide⟩
  have hbody : Clean (js.flatMap fun i => indent i.content.toList) := by
    refine clean_flatMap fun i hi => clean_indent ?_
    exact (hclean i ((Injection.perm_of_arrange hjs).mem_iff.1 hi)).tight
  have hbrace : Clean "\x7d\n".toList := by decide
  exact (((hsignature.append (clean_indentedPart hheader htight.header)).append hbody).append
    (clean_indentedPart hfooter htight.footer)).append hbrace

/-- The code of hooks makes no directive. -/
theorem clean_codeAll {hooks : List Hook} {buckets : List Bucket} {code : List Char}
    (h : codeAll hooks buckets = .ok code) (htight : ∀ k ∈ hooks, k.IsTight)
    (hclean : ∀ k ∈ hooks, ∀ i ∈ Bucket.lookup buckets k.key, i.IsClean) : Clean code := by
  obtain ⟨parts, hparts, h⟩ := bind_eq_ok.1 h
  obtain rfl := Except.ok.inj h
  rw [← List.flatMap_id']
  refine clean_flatMap fun part hpart => ?_
  obtain ⟨k, hk, hcode⟩ := exists_of_mem_mapM hparts hpart
  exact clean_code hcode (htight k hk) (hclean k hk)

end Hook

end ShaderLoom
