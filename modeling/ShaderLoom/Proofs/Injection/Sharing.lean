import ShaderLoom.Injection.Splice
import ShaderLoom.Proofs.Injection.Slots

/-!
# Contributions that share a bucket

Contributions are put into buckets by their keys. As a key is read as one target only, a bucket
holds contributions to one target, but two keys may be read as the same target: one with a line
break behind it, and one without. So each target has one bucket, which holds everything that is
contributed to it, exactly when the keys of no target differ in a line break
(`Slots.groupsTargets_iff`).
-/

namespace ShaderLoom

open Text

/-- All buckets of a stage. -/
def Slots.buckets (s : Slots) : List Bucket := s.declarations ++ s.body ++ s.hooks

/-- The buckets group contributions by their targets. -/
structure Bucket.GroupsTargets (is : List Injection) (bs : List Bucket) : Prop where
  /-- No target has two buckets. -/
  nodup : (bs.map (·.first.target)).Nodup
  /-- A bucket holds all contributions to its target, in the sequence in which they were made. -/
  members : ∀ b ∈ bs, b.members = is.filter (·.target = b.first.target)
  /-- No contribution is lost or stands in two buckets. -/
  perm : (bs.flatMap (·.members)).Perm is

/-- The contributions to one target were all made with a line break behind the key, or all without
one. -/
def Injection.SameSpelling (is : List Injection) : Prop :=
  ∀ i ∈ is, ∀ j ∈ is, i.target = j.target → endsWith '\n' i.key.toList = endsWith '\n' j.key.toList

variable {is : List Injection}

lemma Injection.IsRead.target_eq {i j : Injection} (hi : i.IsRead) (hj : j.IsRead)
    (hkey : i.key = j.key) : i.target = j.target := by
  unfold Injection.IsRead at hi hj
  rw [hkey, hj] at hi
  exact (Except.ok.inj hi).symm

lemma Injection.SameSpelling.key_eq (h : SameSpelling is) (hread : ∀ i ∈ is, i.IsRead)
    {i j : Injection} (hi : i ∈ is) (hj : j ∈ is) (htarget : i.target = j.target) :
    i.key = j.key := by
  have hparse : Target.parse i.key = .ok j.target := by rw [← htarget]; exact hread i hi
  exact (Target.eq_iff_of_parse hparse (hread j hj)).2 (h i hi j hj htarget)

namespace Bucket

/-! ### The buckets of one slot -/

section Slot

variable {p : Injection → Bool} {b : Bucket}

lemma first_mem_members (b : Bucket) : b.first ∈ b.members := List.mem_cons_self

lemma mem_of_mem_collect (hb : b ∈ collect (is.filter p)) :
    b.first ∈ is ∧ p b.first = true ∧ b.first.key = b.key := by
  have hfirst := first_mem_members b
  rw [(groups_collect _).members b hb] at hfirst
  obtain ⟨hmem, hkey⟩ := List.mem_filter.1 hfirst
  obtain ⟨his, hp⟩ := List.mem_filter.1 hmem
  exact ⟨his, hp, by simpa using hkey⟩

/-- A bucket holds all contributions under its key, also those that are kept for other slots. -/
lemma members_of_mem_collect (hp : ∀ i j : Injection, i.target = j.target → p i = p j)
    (hread : ∀ i ∈ is, i.IsRead) (hb : b ∈ collect (is.filter p)) :
    b.members = is.filter (·.key = b.key) := by
  obtain ⟨hmem, hfirst, hkey⟩ := mem_of_mem_collect hb
  rw [(groups_collect _).members b hb, List.filter_filter]
  refine List.filter_congr fun i hi => ?_
  by_cases hi' : i.key = b.key
  · have htarget := (hread i hi).target_eq (hread _ hmem) (hi'.trans hkey.symm)
    simp [hi', hp i b.first htarget, hfirst]
  · simp [hi']

lemma nodup_targets_collect (hsame : Injection.SameSpelling is) (hread : ∀ i ∈ is, i.IsRead) :
    ((collect (is.filter p)).map (·.first.target)).Nodup := by
  have hnodup := nodup_keys_collect (is.filter p)
  rw [List.Nodup, List.pairwise_map] at hnodup ⊢
  refine hnodup.imp_of_mem fun {a b} ha hb hne htarget => hne ?_
  obtain ⟨hamem, -, hakey⟩ := mem_of_mem_collect ha
  obtain ⟨hbmem, -, hbkey⟩ := mem_of_mem_collect hb
  rw [← hakey, ← hbkey]
  exact hsame.key_eq hread hamem hbmem htarget

/-- Slots for different targets have no target in common. -/
lemma targets_ne {q : Injection → Bool}
    (hpq : ∀ i j : Injection, i.target = j.target → p i = true → q j = false) :
    ∀ t ∈ (collect (is.filter p)).map (·.first.target),
      ∀ u ∈ (collect (is.filter q)).map (·.first.target), t ≠ u := by
  rintro t ht u hu rfl
  obtain ⟨a, ha, rfl⟩ := List.mem_map.1 ht
  obtain ⟨b, hb, htarget⟩ := List.mem_map.1 hu
  have hq := (mem_of_mem_collect hb).2.1
  rw [hpq a.first b.first htarget.symm (mem_of_mem_collect ha).2.1] at hq
  exact absurd hq (by simp)

end Slot

end Bucket

namespace Slots

/-! ### All buckets -/

lemma isDeclaration_congr {i j : Injection} (h : i.target = j.target) :
    isDeclaration i = isDeclaration j := by rw [isDeclaration, isDeclaration, h]

lemma isBody_congr {i j : Injection} (h : i.target = j.target) : isBody i = isBody j := by
  rw [isBody, isBody, h]

lemma isHook_congr {i j : Injection} (h : i.target = j.target) : isHook i = isHook j := by
  rw [isHook, isHook, h]

/-- Every contribution is for one slot. -/
lemma slot_cases (i : Injection) :
    isDeclaration i = true ∧ isBody i = false ∧ isHook i = false ∨
    isDeclaration i = false ∧ isBody i = true ∧ isHook i = false ∨
    isDeclaration i = false ∧ isBody i = false ∧ isHook i = true := by
  cases h : i.target <;> simp [isDeclaration, isBody, isHook, h]

lemma perm_filter (is : List Injection) :
    (is.filter isDeclaration ++ is.filter isBody ++ is.filter isHook).Perm is := by
  induction is with
  | nil => exact .refl _
  | cons i is ih =>
    rcases slot_cases i with ⟨hdecl, hbody, hhook⟩ | ⟨hdecl, hbody, hhook⟩ | ⟨hdecl, hbody, hhook⟩
    · simpa [hdecl, hbody, hhook] using ih
    · simp only [List.filter_cons, hdecl, hbody, hhook, if_true, Bool.false_eq_true, if_false]
      rw [List.append_assoc, List.cons_append]
      refine List.perm_middle.trans (.cons i ?_)
      rw [← List.append_assoc]
      exact ih
    · simp only [List.filter_cons, hdecl, hbody, hhook, if_true, Bool.false_eq_true, if_false]
      exact List.perm_middle.trans (.cons i ih)

lemma perm_buckets (is : List Injection) :
    ((ofContributions is).buckets.flatMap (·.members)).Perm is := by
  unfold buckets ofContributions
  rw [List.flatMap_append, List.flatMap_append]
  refine List.Perm.trans ?_ (perm_filter is)
  exact ((Bucket.flatMap_members_collect _).append (Bucket.flatMap_members_collect _)).append
    (Bucket.flatMap_members_collect _)

/-- A bucket holds the contributions under the key of its first one. -/
lemma members_of_mem_buckets (hread : ∀ i ∈ is, i.IsRead) {b : Bucket}
    (hb : b ∈ (ofContributions is).buckets) :
    b.first ∈ is ∧ b.members = is.filter (·.key = b.first.key) := by
  unfold buckets ofContributions at hb
  rcases List.mem_append.1 hb with hb | hb
  · rcases List.mem_append.1 hb with hb | hb
    · obtain ⟨hmem, -, hkey⟩ := Bucket.mem_of_mem_collect hb
      rw [hkey]
      exact ⟨hmem, Bucket.members_of_mem_collect (fun _ _ => isDeclaration_congr) hread hb⟩
    · obtain ⟨hmem, -, hkey⟩ := Bucket.mem_of_mem_collect hb
      rw [hkey]
      exact ⟨hmem, Bucket.members_of_mem_collect (fun _ _ => isBody_congr) hread hb⟩
  · obtain ⟨hmem, -, hkey⟩ := Bucket.mem_of_mem_collect hb
    rw [hkey]
    exact ⟨hmem, Bucket.members_of_mem_collect (fun _ _ => isHook_congr) hread hb⟩

lemma nodup_targets (hsame : Injection.SameSpelling is) (hread : ∀ i ∈ is, i.IsRead) :
    ((ofContributions is).buckets.map (·.first.target)).Nodup := by
  unfold buckets ofContributions
  rw [List.map_append, List.map_append, List.nodup_append, List.nodup_append]
  refine ⟨⟨Bucket.nodup_targets_collect hsame hread, Bucket.nodup_targets_collect hsame hread,
    Bucket.targets_ne fun i j htarget hi => ?_⟩, Bucket.nodup_targets_collect hsame hread, ?_⟩
  · rw [isDeclaration_congr htarget] at hi
    have hslot := slot_cases j
    simp_all
  · intro t ht
    rcases List.mem_append.1 ht with ht | ht
    · refine Bucket.targets_ne (fun i j htarget hi => ?_) t ht
      rw [isDeclaration_congr htarget] at hi
      have hslot := slot_cases j
      simp_all
    · refine Bucket.targets_ne (fun i j htarget hi => ?_) t ht
      rw [isBody_congr htarget] at hi
      have hslot := slot_cases j
      simp_all

/-- The buckets group contributions by their targets exactly when the keys of no target differ in a
line break. -/
theorem groupsTargets_iff (hread : ∀ i ∈ is, i.IsRead) :
    Bucket.GroupsTargets is (ofContributions is).buckets ↔ Injection.SameSpelling is := by
  constructor
  · intro h i hi j hj htarget
    -- the bucket of `i` holds `j` as well, under the same key
    have himem := h.perm.symm.subset hi
    obtain ⟨b, hb, hib⟩ := List.mem_flatMap.1 himem
    have hfirst : i.target = b.first.target := by
      rw [h.members b hb] at hib
      simpa using (List.mem_filter.1 hib).2
    have hjb : j ∈ b.members := by
      rw [h.members b hb]
      exact List.mem_filter.2 ⟨hj, by simp [← htarget, hfirst]⟩
    have hkeys := (members_of_mem_buckets hread hb).2
    rw [hkeys] at hib hjb
    have hikey : i.key = b.first.key := by simpa using (List.mem_filter.1 hib).2
    have hjkey : j.key = b.first.key := by simpa using (List.mem_filter.1 hjb).2
    rw [hikey, hjkey]
  · intro hsame
    refine ⟨nodup_targets hsame hread, fun b hb => ?_, perm_buckets is⟩
    obtain ⟨hmem, hkeys⟩ := members_of_mem_buckets hread hb
    rw [hkeys]
    refine List.filter_congr fun i hi => ?_
    -- within one slot, keys and targets say the same
    have hiff : i.key = b.first.key ↔ i.target = b.first.target :=
      ⟨(hread i hi).target_eq (hread _ hmem), hsame.key_eq hread hi hmem⟩
    simp only [hiff]

/-- **Keys and their targets.**  A key that is read as a target of a stage gives it a name, and is
the key of the target unless a line break stands behind it; any other key is a pattern and its own
name, and does not start like the key of a stage. Two keys with one kind, stage and name are the
same unless a line break stands behind one of them. And the contributions to a stage that have one
target share one bucket exactly when this is so for none of their keys, or for all keys of the
target. -/
theorem keys_canonical_and_targets_grouped {stage : Stage} {inject : Value}
    {application : List Injection} {modules : List ShaderModule}
    (happlication : Injection.ofApplication inject = .ok application)
    (hmodules : ∀ m ∈ modules, m.IsMade) :
    (∀ key t, Target.parse key = .ok t →
      (t.stage? ≠ none → IsName t.name) ∧
      (t.stage? = none → t.name = key ∧ ¬ StartsWithStage key) ∧
      (key = t.key ↔ ¬ (t.stage? ≠ none ∧ endsWith '\n' key.toList = true))) ∧
    (∀ key key' t t', Target.parse key = .ok t → Target.parse key' = .ok t' →
      t.kindName = t'.kindName → t.stage? = t'.stage? → t.name = t'.name →
      (key = key' ↔ endsWith '\n' key.toList = endsWith '\n' key'.toList)) ∧
    (Bucket.GroupsTargets (contributions stage application modules)
        (classify stage application modules).buckets ↔
      Injection.SameSpelling (contributions stage application modules)) := by
  refine ⟨fun key t h => ⟨fun hne => ?_, fun hnone => ?_, Target.eq_key_iff h⟩, ?_, ?_⟩
  · obtain ⟨stage, hstage⟩ := Option.ne_none_iff_exists'.1 hne
    exact (Target.parse_eq_ok_iff.1 h).1.isName_name hstage
  · obtain ⟨hnamed, hkey⟩ := Target.parse_eq_ok_iff.1 h
    cases t with
    | pattern text =>
      obtain rfl : key = text := hkey.resolve_right fun hbroken => hbroken.1 hnone
      exact ⟨rfl, hnamed.2⟩
    | _ => cases hnone
  · intro key key' t t' h h' hkind hstage hname
    obtain rfl := Target.eq_of_parts hkind hstage hname
    exact Target.eq_iff_of_parse h h'
  · refine groupsTargets_iff fun i hi => ?_
    exact (isRead_of_mem_contributions
      (fun i hi => Injection.isRead_of_ofApplication happlication hi) hmodules hi).1

end Slots

/-- A module that declares something in the vertex stage. -/
def haze : ShaderModule where
  ref := ⟨0, "haze"⟩
  vertex := .absent
  fragment := .absent
  dependencies := []
  defines := ⟨[], .number 0⟩
  vertexInjections := [⟨"vs:#decl", .declarations .vertex, "float haze;", .whole (-1)⟩]
  fragmentInjections := []
  uniforms := []
  driver := none
  deprecations := []

lemma isMade_haze : haze.IsMade := by
  refine ⟨fun _ => ⟨fun _ => .error .unsupported, fun _ _ => .error .unsupported⟩, 0,
    { name := .text "haze", inject := .map .plain
        [(.text "vs:#decl", .map .plain [(.text "content", .text "float haze;"),
          (.text "order", .int (-1))])] }, ?_⟩
  rfl

/-- Declarations under the given key, and a hook. -/
def hazyRequest (key : String) : Value :=
  .map .plain [(.text key, .text "float app;"), (.text "vs:glow", .text "app();")]

/-- The injections of the request. -/
def hazyInjections (key : String) : List Injection :=
  [⟨key, .declarations .vertex, "float app;", .whole 0⟩,
    ⟨"vs:glow", .hook .vertex "glow", "app();", .whole 0⟩]

/-- The declarations of the application and of the module share one bucket. -/
theorem hazyRequest_shares_bucket :
    Injection.ofApplication (hazyRequest "vs:#decl") = .ok (hazyInjections "vs:#decl") ∧
    Target.parse "vs:#decl" = .ok (.declarations .vertex) ∧
    "vs:#decl" = (Target.declarations .vertex).key ∧
    Bucket.GroupsTargets (Slots.contributions .vertex (hazyInjections "vs:#decl") [haze])
      (Slots.classify .vertex (hazyInjections "vs:#decl") [haze]).buckets := by
  have hinject : Injection.ofApplication (hazyRequest "vs:#decl") =
      .ok (hazyInjections "vs:#decl") := toOption_eq_some.1 (by decide +kernel)
  have hmodules : ∀ m ∈ [haze], m.IsMade := by
    intro m hm
    obtain rfl : m = haze := by simpa using hm
    exact isMade_haze
  have hparse : Target.parse "vs:#decl" = .ok (.declarations .vertex) :=
    toOption_eq_some.1 (by decide +kernel)
  obtain ⟨hkeys, -, hgroups⟩ :=
    @Slots.keys_canonical_and_targets_grouped .vertex _ _ _ hinject hmodules
  refine ⟨hinject, hparse, (hkeys _ _ hparse).2.2.2 (by decide +kernel), hgroups.2 ?_⟩
  unfold Injection.SameSpelling
  decide +kernel

/-- A key with a line break behind it is read as if the line break were not there. Declarations
under it have a bucket of their own, for which no marker is left once the other declarations are
there. -/
theorem lineBreak_key_splits_bucket :
    Target.parse "vs:#decl\n" = .ok (.declarations .vertex) ∧
    "vs:#decl\n" ≠ (Target.declarations .vertex).key ∧
    Injection.ofApplication (hazyRequest "vs:#decl\n") = .ok (hazyInjections "vs:#decl\n") ∧
    (Slots.classify .vertex (hazyInjections "vs:#decl\n") [haze]).declarations.map
        (fun b => b.members.map (·.content)) = [["float app;"], ["float haze;"]] ∧
    Splice.run "vs" (Slots.classify .vertex (hazyInjections "vs:#decl\n") [haze]).declarations
        declarationMarker = (["vs:#decl"], .ok "float app;\n".toList) := by
  refine ⟨toOption_eq_some.1 (by decide +kernel), by decide +kernel,
    toOption_eq_some.1 (by decide +kernel), by decide +kernel, ?_⟩
  exact Prod.ext (by decide +kernel) (toOption_eq_some.1 (by decide +kernel))

end ShaderLoom
