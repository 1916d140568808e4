import Mathlib.Data.List.Induction
import Mathlib.Data.List.Nodup
import ShaderLoom.Injection.Slots
import ShaderLoom.Proofs.Injection.Key

/-!
# Contributions and their slots

Injections are made from keys, so that the target of an injection is the one that its key is read
as, and modules hold injections of their own stages only. The buckets of a slot group its
contributions by their keys (`Bucket.groups_collect`). All declarations of a stage share one bucket,
unless a key ends with a line break.
-/

namespace ShaderLoom

open Text

/-! ### How injections are made -/

/-- The target of the injection is the one that its key is read as. -/
def Injection.IsRead (i : Injection) : Prop := Target.parse i.key = .ok i.target

lemma Target.eq_of_ofValue {v : Value} {key : String} {t : Target}
    (h : Target.ofValue v = .ok (key, t)) : v = .text key ∧ Target.parse key = .ok t := by
  unfold Target.ofValue at h
  split at h
  · next s =>
    split at h
    · next t' ht =>
      obtain ⟨rfl, rfl⟩ : s = key ∧ t' = t := by simpa using h
      exact ⟨rfl, ht⟩
    · exact absurd h (by simp)
  · exact absurd h (by simp)

/-- The key and the target of an injection are what its key is read as. -/
lemma Injection.ofValue_of_create {key value : Value} {i : Injection}
    (h : Injection.create key value = .ok i) : Target.ofValue key = .ok (i.key, i.target) := by
  obtain ⟨⟨k, t⟩, hkey, hrest⟩ := bind_eq_ok.1 h
  have hlast : ∀ (content : String) (order : Order),
      (.ok ⟨k, t, content, order⟩ : Result Injection) = .ok i →
        Target.ofValue key = .ok (i.key, i.target) := by
    intro content order hmade
    obtain rfl := Except.ok.inj hmade
    exact hkey
  simp only at hrest
  split at hrest
  · obtain ⟨made, -, hmade⟩ := bind_eq_ok.1 hrest
    split at hmade
    · exact hlast _ _ hmade
    · cases hmade
  · split at hrest
    · obtain ⟨made, -, hmade⟩ := bind_eq_ok.1 hrest
      split at hmade
      · exact hlast _ _ hmade
      · cases hmade
    · exact absurd hrest (by simp [bind, Except.bind])
  · exact absurd hrest (by simp [bind, Except.bind])

lemma Injection.isRead_of_create {key value : Value} {i : Injection}
    (h : Injection.create key value = .ok i) : i.IsRead :=
  (Target.eq_of_ofValue (ofValue_of_create h)).2

lemma Injection.isRead_of_ofApplication {inject : Value} {is : List Injection}
    (h : Injection.ofApplication inject = .ok is) {i : Injection} (hi : i ∈ is) : i.IsRead := by
  obtain ⟨b, -, hrest⟩ := bind_eq_ok.1 h
  cases b with
  | false =>
    obtain rfl : [] = is := by simpa using hrest
    simp at hi
  | true =>
    rw [if_pos rfl] at hrest
    split at hrest
    · obtain ⟨e, -, he⟩ := exists_of_mem_mapM hrest hi
      exact isRead_of_create he
    · exact absurd hrest (by simp)

namespace ShaderModule

/-- The module was made from a declaration. -/
def IsMade (m : ShaderModule) : Prop :=
  ∃ functions id d, ShaderModule.create functions id d = .ok m

lemma isRead_of_createInjection {name : String} {key value : Value} {i : Injection}
    (h : createInjection name key value = .ok i) : i.IsRead := by
  unfold createInjection at h
  split at h
  · split at h
    · exact Injection.isRead_of_create h
    · exact absurd h (by simp)
  · exact absurd h (by simp)

/-- What a module is made of. -/
lemma parts_of_create {functions : Functions} {id : ℕ} {d : ModuleDeclaration}
    {m : ShaderModule} (h : create functions id d = .ok m) :
    m.ref.id = id ∧
    (∃ defines, SealedMap.ofEntries defines = .ok m.defines) ∧
    (∀ u ∈ m.uniforms, ∃ name declaration, Uniform.declare name declaration = .ok u) ∧
    ∃ (entries : Entries) (is : List Injection),
      entries.mapM (fun e => createInjection m.name e.1 e.2) = .ok is ∧
        m.vertexInjections = is.filter (·.target.stage? = some .vertex) ∧
        m.fragmentInjections = is.filter (·.target.stage? = some .fragment) := by
  simp only [create] at h
  split at h
  · split at h
    · exact absurd h (by simp [bind, Except.bind])
    · obtain ⟨name, -, h⟩ := bind_eq_ok.1 h
      obtain ⟨vertex, -, h⟩ := bind_eq_ok.1 h
      obtain ⟨fragment, -, h⟩ := bind_eq_ok.1 h
      -- with or without a driver, the rest is the same
      split at h
      all_goals
        obtain ⟨driver, -, h⟩ := bind_eq_ok.1 h
        obtain ⟨dependencies, -, h⟩ := bind_eq_ok.1 h
        obtain ⟨defines, hdefines, h⟩ := bind_eq_ok.1 h
        obtain ⟨entries, -, h⟩ := bind_eq_ok.1 h
        obtain ⟨is, his, h⟩ := bind_eq_ok.1 h
        obtain ⟨uniformEntries, -, h⟩ := bind_eq_ok.1 h
        obtain ⟨uniforms, huniforms, h⟩ := bind_eq_ok.1 h
        obtain ⟨deprecations, -, h⟩ := bind_eq_ok.1 h
        obtain rfl := Except.ok.inj h
        refine ⟨rfl, ?_, ?_, entries, is, his, rfl, rfl⟩
        · obtain ⟨given, -, hdefines⟩ := bind_eq_ok.1 (liftM_answer_eq_ok.1 hdefines)
          split at hdefines
          · obtain ⟨es, -, hes⟩ := bind_eq_ok.1 hdefines
            exact ⟨es, hes⟩
          · exact ⟨[], hdefines⟩
        · intro u hu
          obtain ⟨e, -, he⟩ := exists_of_mem_mapM huniforms hu
          exact ⟨e.1, e.2, liftM_answer_eq_ok.1 he⟩
  · exact absurd h (by simp [bind, Except.bind])

/-- The injections of a module into a stage target that stage, and their keys say so. -/
lemma IsMade.injections {m : ShaderModule} (hm : m.IsMade) {stage : Stage} {i : Injection}
    (hi : i ∈ m.injections stage) : i.IsRead ∧ i.target.stage? = some stage := by
  obtain ⟨functions, id, d, h⟩ := hm
  obtain ⟨-, -, -, entries, is, his, hvertex, hfragment⟩ := parts_of_create h
  have hread : ∀ i ∈ is, i.IsRead := by
    intro i hi
    obtain ⟨e, -, he⟩ := exists_of_mem_mapM his hi
    exact isRead_of_createInjection he
  cases stage with
  | vertex =>
    rw [ShaderModule.injections, hvertex] at hi
    obtain ⟨hmem, hstage⟩ := List.mem_filter.1 hi
    exact ⟨hread i hmem, by simpa using hstage⟩
  | fragment =>
    rw [ShaderModule.injections, hfragment] at hi
    obtain ⟨hmem, hstage⟩ := List.mem_filter.1 hi
    exact ⟨hread i hmem, by simpa using hstage⟩

end ShaderModule

/-- The contributions to a stage apply to it, and their keys say so. -/
lemma Slots.isRead_of_mem_contributions {stage : Stage} {application : List Injection}
    {modules : List ShaderModule} (happlication : ∀ i ∈ application, i.IsRead)
    (hmodules : ∀ m ∈ modules, m.IsMade) {i : Injection}
    (hi : i ∈ contributions stage application modules) : i.IsRead ∧ i.appliesTo stage := by
  rcases List.mem_append.1 hi with hi | hi
  · obtain ⟨hmem, happlies⟩ := List.mem_filter.1 hi
    exact ⟨happlication i hmem, happlies⟩
  · obtain ⟨m, hm, hi⟩ := List.mem_flatMap.1 hi
    obtain ⟨hread, hstage⟩ := (hmodules m hm).injections hi
    refine ⟨hread, ?_⟩
    simp [Injection.appliesTo, Target.appliesTo, hstage]

/-! ### Keys of declarations -/

/-- The key of the declarations of a stage, without a line break at its end. -/
def declarationKey (stage : Stage) : String := stage.label ++ ":#decl"

lemma key_of_declarations {i : Injection} {stage : Stage} (hread : i.IsRead)
    (htarget : i.target = .declarations stage) (hkey : endsWith '\n' i.key.toList = false) :
    i.key = declarationKey stage := by
  have hparse : Target.parse i.key = .ok (.declarations stage) := by rw [← htarget]; exact hread
  refine (Target.eq_key_iff hparse).2 ?_
  rintro ⟨-, hends⟩
  rw [hkey] at hends
  exact absurd hends (by simp)

/-! ### First occurrences -/

section FirstOccurrences

variable {α : Type} [DecidableEq α]

lemma eraseDups_concat (xs : List α) (x : α) :
    (xs ++ [x]).eraseDups = if x ∈ xs then xs.eraseDups else xs.eraseDups ++ [x] := by
  rw [List.eraseDups_append]
  by_cases hx : x ∈ xs
  · simp [hx, List.removeAll]
  · simp [hx, List.removeAll, List.eraseDups_cons]

lemma nodup_eraseDups (xs : List α) : xs.eraseDups.Nodup := by
  induction xs using List.reverseRecOn with
  | nil => simp
  | append_singleton xs x ih =>
    rw [eraseDups_concat]
    split
    · exact ih
    · next hnew =>
      rw [List.nodup_append]
      refine ⟨ih, by simp, ?_⟩
      intro y hy z hz hyz
      obtain rfl : z = x := by simpa using hz
      exact hnew (List.mem_eraseDups.1 (hyz ▸ hy))

end FirstOccurrences

/-! ### Buckets -/

namespace Bucket

/-- The buckets group contributions by their keys. -/
structure Groups (is : List Injection) (bs : List Bucket) : Prop where
  /-- The keys of the buckets stand in the order in which they first appear. -/
  keys : bs.map (·.key) = (is.map (·.key)).eraseDups
  nodup : (bs.map (·.key)).Nodup
  members : ∀ b ∈ bs, b.members = is.filter (·.key = b.key)
  /-- No contribution is lost or stands in two buckets. -/
  perm : (bs.flatMap (·.members)).Perm is

lemma keys_insert (bs : List Bucket) (i : Injection) :
    (insert bs i).map (·.key) =
      if i.key ∈ bs.map (·.key) then bs.map (·.key) else bs.map (·.key) ++ [i.key] := by
  induction bs with
  | nil => simp [insert]
  | cons b bs ih =>
    rw [insert]
    split
    · next hkey => simp [push, hkey]
    · next hkey =>
      rw [List.map_cons, ih]
      have hne : i.key ≠ b.key := fun h => hkey h.symm
      by_cases hmem : i.key ∈ bs.map (·.key)
      · simp [hmem]
      · simp [hmem, hne]

lemma keys_collect (is : List Injection) :
    (collect is).map (·.key) = (is.map (·.key)).eraseDups := by
  induction is using List.reverseRecOn with
  | nil => rfl
  | append_singleton is i ih =>
    have hstep : collect (is ++ [i]) = insert (collect is) i := by simp [collect]
    rw [hstep, keys_insert, ih, List.map_append, List.map_singleton, eraseDups_concat]
    simp only [List.mem_eraseDups]

lemma nodup_keys_collect (is : List Injection) : ((collect is).map (·.key)).Nodup := by
  rw [keys_collect]
  exact nodup_eraseDups _

lemma lookup_of_mem {bs : List Bucket} (hnodup : (bs.map (·.key)).Nodup) {b : Bucket}
    (hb : b ∈ bs) : lookup bs b.key = b.members := by
  have hfind : bs.find? (·.key = b.key) = some b := by
    induction bs with
    | nil => simp at hb
    | cons c bs ih =>
      rw [List.map_cons, List.nodup_cons] at hnodup
      rcases List.mem_cons.1 hb with rfl | hb
      · simp
      · have hne : c.key ≠ b.key := fun h => hnodup.1 (h ▸ List.mem_map_of_mem hb)
        simp [hne, ih hnodup.2 hb]
  simp [lookup, hfind]

lemma flatMap_members_insert (bs : List Bucket) (i : Injection) :
    ((insert bs i).flatMap (·.members)).Perm (bs.flatMap (·.members) ++ [i]) := by
  induction bs with
  | nil => simp [insert, members]
  | cons b bs ih =>
    rw [insert]
    split
    · rw [List.flatMap_cons, List.flatMap_cons, members_push, List.append_assoc, List.append_assoc]
      exact List.perm_append_comm.append_left b.members
    · rw [List.flatMap_cons, List.flatMap_cons, List.append_assoc]
      exact ih.append_left b.members

lemma flatMap_members_collect (is : List Injection) :
    ((collect is).flatMap (·.members)).Perm is := by
  induction is using List.reverseRecOn with
  | nil => exact .refl []
  | append_singleton is i ih =>
    have hstep : collect (is ++ [i]) = insert (collect is) i := by simp [collect]
    rw [hstep]
    exact (flatMap_members_insert _ i).trans (ih.append_right [i])

/-- Collecting groups contributions by their keys. -/
theorem groups_collect (is : List Injection) : Groups is (collect is) where
  keys := keys_collect is
  nodup := nodup_keys_collect is
  members := fun b hb => by rw [← lookup_of_mem (nodup_keys_collect is) hb, lookup_collect]
  perm := flatMap_members_collect is

/-- Contributions of one key share one bucket. -/
lemma collect_eq_singleton {is : List Injection} {key : String} (hne : is ≠ [])
    (hkey : ∀ i ∈ is, i.key = key) : ∃ b, collect is = [b] ∧ b.members = is := by
  have hgroups := groups_collect is
  match is, hne with
  | i :: is, _ =>
    have hkeys : (collect (i :: is)).map (·.key) = [key] := by
      rw [hgroups.keys, List.map_cons, List.eraseDups_cons, hkey i (by simp)]
      have hrest : (is.map (·.key)).filter (fun k => !(k == key)) = [] := by
        rw [List.filter_eq_nil_iff]
        intro k hk
        obtain ⟨j, hj, rfl⟩ := List.mem_map.1 hk
        simp [hkey j (by simp [hj])]
      rw [hrest]
      rfl
    obtain ⟨b, hb, hbkey⟩ := List.map_eq_singleton_iff.1 hkeys
    refine ⟨b, hb, ?_⟩
    rw [hgroups.members b (by simp [hb]), List.filter_eq_self]
    intro j hj
    simp [hbkey, hkey j hj]

end Bucket

end ShaderLoom
