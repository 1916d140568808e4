import ShaderLoom.Proofs.Injection.Sharing

/-!
# The classification of contributions as a partition

Everything that is contributed to a stage, by the application and then by its modules, is sorted
into three slots by the kind of its target. As a key is read as one target only, contributions of
one key are of one kind and apply to the same stages. So sorting by kind and leaving out what does
not apply never divides the contributions of a key (`filter_key_contributions`), and each bucket has
all of them, in the sequence in which they were contributed.
-/

namespace ShaderLoom

/-! ### Slots by the kind of a target -/

/-- One of the three slots. -/
inductive Slot where
  | declarations
  | body
  | hooks
deriving DecidableEq

/-- The slot for the kind of a target. Places in the body and patterns share one. -/
def Target.slot : Target → Slot
  | .declarations _ => .declarations
  | .place _ _ => .body
  | .pattern _ => .body
  | .hook _ _ => .hooks

namespace Slots

/-- The buckets of a slot. -/
def get (s : Slots) : Slot → List Bucket
  | .declarations => s.declarations
  | .body => s.body
  | .hooks => s.hooks

lemma mem_buckets_iff {s : Slots} {b : Bucket} : b ∈ s.buckets ↔ ∃ k, b ∈ s.get k := by
  constructor
  · intro hb
    rcases List.mem_append.1 hb with hb | hb
    · rcases List.mem_append.1 hb with hb | hb
      · exact ⟨.declarations, hb⟩
      · exact ⟨.body, hb⟩
    · exact ⟨.hooks, hb⟩
  · rintro ⟨k, hb⟩
    rw [buckets, List.append_assoc]
    cases k with
    | declarations => exact List.mem_append_left _ hb
    | body => exact List.mem_append_right _ (List.mem_append_left _ hb)
    | hooks => exact List.mem_append_right _ (List.mem_append_right _ hb)

/-- A slot collects the contributions whose kind it is for. -/
lemma get_ofContributions (is : List Injection) (k : Slot) :
    (ofContributions is).get k = Bucket.collect (is.filter (·.target.slot = k)) := by
  cases k with
  | declarations =>
    refine congrArg Bucket.collect (List.filter_congr fun i _ => ?_)
    cases h : i.target <;> simp [isDeclaration, Target.slot, h]
  | body =>
    refine congrArg Bucket.collect (List.filter_congr fun i _ => ?_)
    cases h : i.target <;> simp [isBody, Target.slot, h]
  | hooks =>
    refine congrArg Bucket.collect (List.filter_congr fun i _ => ?_)
    cases h : i.target <;> simp [isHook, Target.slot, h]

/-! ### Everything that is contributed -/

/-- All injections of the application, followed by those of each module into a stage. -/
def contributed (stage : Stage) (application : List Injection) (modules : List ShaderModule) :
    List Injection :=
  application ++ modules.flatMap (·.injections stage)

section Contributed

variable {stage : Stage} {application : List Injection} {modules : List ShaderModule}

lemma isRead_of_mem_contributed (happlication : ∀ i ∈ application, i.IsRead)
    (hmodules : ∀ m ∈ modules, m.IsMade) {i : Injection}
    (hi : i ∈ contributed stage application modules) : i.IsRead := by
  rcases List.mem_append.1 hi with hi | hi
  · exact happlication i hi
  · obtain ⟨m, hm, hi⟩ := List.mem_flatMap.1 hi
    exact ((hmodules m hm).injections hi).1

/-- What counts for the stage is what applies to it; the injections of modules all do. -/
lemma contributions_eq_filter (hmodules : ∀ m ∈ modules, m.IsMade) :
    contributions stage application modules =
      (contributed stage application modules).filter (·.appliesTo stage) := by
  rw [contributions, contributed, List.filter_append]
  congr 1
  refine (List.filter_eq_self.2 fun i hi => ?_).symm
  obtain ⟨m, hm, hi⟩ := List.mem_flatMap.1 hi
  have hstage := ((hmodules m hm).injections hi).2
  simp [Injection.appliesTo, Target.appliesTo, hstage]

/-- Under the key of a contribution that applies there is none that does not apply. -/
lemma filter_key_contributions (happlication : ∀ i ∈ application, i.IsRead)
    (hmodules : ∀ m ∈ modules, m.IsMade) {i : Injection}
    (hi : i ∈ contributions stage application modules) :
    (contributions stage application modules).filter (·.key = i.key) =
      (contributed stage application modules).filter (·.key = i.key) := by
  rw [contributions_eq_filter hmodules] at hi ⊢
  obtain ⟨hmem, happlies⟩ := List.mem_filter.1 hi
  rw [List.filter_filter]
  refine List.filter_congr fun j hj => ?_
  by_cases hkey : j.key = i.key
  · have hj' := isRead_of_mem_contributed happlication hmodules hj
    have hi' := isRead_of_mem_contributed happlication hmodules hmem
    have htarget : j.target = i.target := hj'.target_eq hi' hkey
    have hsame : j.appliesTo stage = true := by
      rw [Injection.appliesTo, htarget]
      exact happlies
    simp [hkey, hsame]
  · simp [hkey]

/-- A bucket of a slot has the contributions under its key, all of which have one target. -/
lemma members_of_mem_classify (happlication : ∀ i ∈ application, i.IsRead)
    (hmodules : ∀ m ∈ modules, m.IsMade) {b : Bucket}
    (hb : b ∈ (classify stage application modules).buckets) :
    b.members = (contributed stage application modules).filter (·.key = b.key) ∧
      ∀ i ∈ b.members, i.key = b.first.key ∧ i.target = b.first.target := by
  have hread : ∀ i ∈ contributions stage application modules, i.IsRead := fun i hi =>
    (isRead_of_mem_contributions happlication hmodules hi).1
  obtain ⟨k, hk⟩ := mem_buckets_iff.1 hb
  rw [classify, get_ofContributions] at hk
  obtain ⟨hfirst, -, hkey⟩ := Bucket.mem_of_mem_collect hk
  have hmembers := (members_of_mem_buckets hread hb).2
  constructor
  · rw [hmembers, filter_key_contributions happlication hmodules hfirst, hkey]
  · intro i hi
    rw [hmembers] at hi
    obtain ⟨hmem, hi⟩ := List.mem_filter.1 hi
    have hsame : i.key = b.first.key := by simpa using hi
    exact ⟨hsame, (hread i hmem).target_eq (hread _ hfirst) hsame⟩

/-- The slot of a contribution has everything under its key in the bucket of the key. -/
lemma lookup_get_classify (happlication : ∀ i ∈ application, i.IsRead)
    (hmodules : ∀ m ∈ modules, m.IsMade) {i : Injection}
    (hi : i ∈ contributions stage application modules) :
    Bucket.lookup ((classify stage application modules).get i.target.slot) i.key =
      (contributed stage application modules).filter (·.key = i.key) := by
  rw [← filter_key_contributions happlication hmodules hi, classify, get_ofContributions,
    Bucket.lookup_collect, List.filter_filter]
  refine List.filter_congr fun j hj => ?_
  by_cases hkey : j.key = i.key
  · have hj' := (isRead_of_mem_contributions happlication hmodules hj).1
    have hi' := (isRead_of_mem_contributions happlication hmodules hi).1
    have htarget : j.target = i.target := hj'.target_eq hi' hkey
    simp [hkey, htarget]
  · simp [hkey]

end Contributed

end Slots

/-! ### Splicing by the first member -/

/-- Where code goes depends on the key and the target only. -/
lemma Splice.insert?_congr {i j : Injection} (hkey : i.key = j.key) (htarget : i.target = j.target) :
    Splice.insert? i = Splice.insert? j := by
  funext fragment source
  rw [Splice.insert?, Splice.insert?, hkey, htarget]

lemma Injection.keys_of_mapM_create {es : Entries} {is : List Injection}
    (h : es.mapM (fun e => Injection.create e.1 e.2) = .ok is) :
    is.map (fun i => Value.text i.key) = es.map (·.1) := by
  rw [mapM_eq_ok_iff] at h
  induction h with
  | nil => rfl
  | cons hcreate _ ih =>
    rw [List.map_cons, List.map_cons, ih, (Target.eq_of_ofValue (ofValue_of_create hcreate)).1]

/-- The injections of an application stand in the sequence of the entries that they are made of. -/
lemma Injection.keys_ofApplication {kind : MapKind} {es : Entries} {application : List Injection}
    (h : Injection.ofApplication (.map kind es) = .ok application) :
    application.map (fun i => Value.text i.key) = es.map (·.1) := by
  obtain ⟨given, hgiven, hrest⟩ := bind_eq_ok.1 h
  have htruth : (!es.isEmpty) = given := by simpa [Value.truth] using hgiven
  cases given with
  | false =>
    obtain rfl : [] = application := by simpa using hrest
    have hempty : es = [] := by simpa using htruth
    simp [hempty]
  | true =>
    rw [if_pos rfl] at hrest
    exact keys_of_mapM_create hrest

namespace Slots

/-- **Classification is a partition.**  Of everything that is contributed, what applies to the stage
is in the buckets of the three slots once, and nothing else is: each contribution in the slot for
its kind and in the bucket of its key. A bucket has exactly the contributions under its key, in
their sequence, the keys of a slot stand in the order in which they first appear, and the members of
a bucket are of one kind, stage and name, so that each of them would be spliced where the first one
is. -/
theorem classify_partitions {stage : Stage} {inject : Value} {application : List Injection}
    {modules : List ShaderModule}
    (happlication : Injection.ofApplication inject = .ok application)
    (hmodules : ∀ m ∈ modules, m.IsMade) :
    (∀ kind es, inject = .map kind es →
      application.map (fun i => Value.text i.key) = es.map (·.1)) ∧
    ((classify stage application modules).buckets.flatMap (·.members)).Perm
      ((contributed stage application modules).filter (·.appliesTo stage)) ∧
    (∀ i ∈ contributed stage application modules, i.appliesTo stage = true →
      Bucket.lookup ((classify stage application modules).get i.target.slot) i.key =
        (contributed stage application modules).filter (·.key = i.key)) ∧
    (∀ k, ((classify stage application modules).get k).map (·.key) =
      (((contributed stage application modules).filter fun i =>
        i.appliesTo stage && i.target.slot = k).map (·.key)).eraseDups) ∧
    (∀ b ∈ (classify stage application modules).buckets,
      b.members = (contributed stage application modules).filter (·.key = b.key) ∧
      ∀ i ∈ b.members,
        i.target.kindName = b.first.target.kindName ∧
        i.target.stage? = b.first.target.stage? ∧
        i.target.name = b.first.target.name ∧
        Splice.insert? i = Splice.insert? b.first) := by
  have hread : ∀ i ∈ application, i.IsRead := fun i hi =>
    Injection.isRead_of_ofApplication happlication hi
  have heq : contributions stage application modules =
      (contributed stage application modules).filter (·.appliesTo stage) :=
    contributions_eq_filter hmodules
  refine ⟨?_, ?_, ?_, ?_, ?_⟩
  · rintro kind es rfl
    exact Injection.keys_ofApplication happlication
  · rw [← heq]
    exact perm_buckets _
  · intro i hi happlies
    refine lookup_get_classify hread hmodules ?_
    rw [heq]
    exact List.mem_filter.2 ⟨hi, happlies⟩
  · intro k
    rw [classify, get_ofContributions, Bucket.keys_collect, heq, List.filter_filter]
    simp only [Bool.and_comm]
  · intro b hb
    obtain ⟨hmembers, htargets⟩ := members_of_mem_classify hread hmodules hb
    refine ⟨hmembers, fun i hi => ?_⟩
    obtain ⟨hkey, htarget⟩ := htargets i hi
    exact ⟨by rw [htarget], by rw [htarget], by rw [htarget], Splice.insert?_congr hkey htarget⟩

end Slots

/-- A pattern, a place and declarations for the vertex stage, and a hook of the other stage. -/
def sparkRequest : Value :=
  .map .plain [(.text "glow();", .text "more();"), (.text "fs:glow", .text "other();"),
    (.text "vs:#main-start", .map .plain [(.text "content", .text "start();"),
      (.text "order", .int 2)]),
    (.text "vs:#decl", .text "float app;")]

/-- The injections of the request. -/
def sparkInjections : List Injection :=
  [⟨"glow();", .pattern "glow();", "more();", .whole 0⟩,
    ⟨"fs:glow", .hook .fragment "glow", "other();", .whole 0⟩,
    ⟨"vs:#main-start", .place .vertex "main-start", "start();", .whole 2⟩,
    ⟨"vs:#decl", .declarations .vertex, "float app;", .whole 0⟩]

/-- The pattern and the place share a slot, the declarations of the application and of the module a
bucket, and the hook of the other stage is nowhere. -/
theorem sparkRequest_partitioned :
    Injection.ofApplication sparkRequest = .ok sparkInjections ∧
    haze.IsMade ∧
    ((Slots.classify .vertex sparkInjections [haze]).get .body).map (·.key) =
      ["glow();", "vs:#main-start"] ∧
    ((Slots.classify .vertex sparkInjections [haze]).get .hooks).map (·.key) = [] ∧
    Bucket.lookup ((Slots.classify .vertex sparkInjections [haze]).get .declarations) "vs:#decl" =
      [⟨"vs:#decl", .declarations .vertex, "float app;", .whole 0⟩,
        ⟨"vs:#decl", .declarations .vertex, "float haze;", .whole (-1)⟩] := by
  have hinject : Injection.ofApplication sparkRequest = .ok sparkInjections :=
    toOption_eq_some.1 (by decide +kernel)
  have hmodules : ∀ m ∈ [haze], m.IsMade := by
    intro m hm
    obtain rfl : m = haze := by simpa using hm
    exact isMade_haze
  obtain ⟨-, -, hplaced, hkeys, -⟩ :=
    @Slots.classify_partitions .vertex _ _ _ hinject hmodules
  refine ⟨hinject, isMade_haze, ?_, ?_, ?_⟩
  · rw [hkeys]
    decide +kernel
  · rw [hkeys]
    decide +kernel
  · have hdecl := hplaced ⟨"vs:#decl", .declarations .vertex, "float app;", .whole 0⟩
      (by simp [Slots.contributed, sparkInjections]) (by decide)
    exact hdecl.trans (by decide +kernel)

end ShaderLoom
