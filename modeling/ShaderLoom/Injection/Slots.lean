import ShaderLoom.Module.Basic

/-!
# Sorting injections into slots

The contributions to a stage are those of the application followed by those of each module. They
are sorted into three slots: declarations, places in the body (patterns among them) and hooks. In
a slot, contributions of one key share a bucket; buckets stand in the order in which their keys
first appear.
-/

namespace ShaderLoom

/-- The contributions under one key: the first one and the later ones. -/
structure Bucket where
  /-- The key that all of them have. -/
  key : String
  /-- The contribution that opened the bucket. -/
  first : Injection
  /-- The other contributions, in the sequence in which they were made. -/
  later : List Injection

namespace Bucket

/-- All contributions, in the sequence in which they were made. -/
def members (b : Bucket) : List Injection := b.first :: b.later

/-- Put a contribution at the end. -/
def push (b : Bucket) (i : Injection) : Bucket := { b with later := b.later ++ [i] }

@[simp] theorem members_push (b : Bucket) (i : Injection) :
    (b.push i).members = b.members ++ [i] := rfl

/-- Put a contribution into the bucket of its key, or into a new one at the end. -/
def insert : List Bucket → Injection → List Bucket
  | [], i => [⟨i.key, i, []⟩]
  | b :: bs, i => if b.key = i.key then b.push i :: bs else b :: insert bs i

/-- Distribute contributions over buckets. -/
def collect (is : List Injection) : List Bucket := is.foldl insert []

/-- The contributions in the bucket of a key. -/
def lookup (bs : List Bucket) (key : String) : List Injection :=
  match bs.find? (·.key = key) with
  | some b => b.members
  | none => []

theorem lookup_nil (key : String) : lookup [] key = [] := rfl

theorem lookup_insert (bs : List Bucket) (i : Injection) (key : String) :
    lookup (insert bs i) key = lookup bs key ++ if i.key = key then [i] else [] := by
  induction bs with
  | nil => by_cases h : i.key = key <;> simp [insert, lookup, members, h]
  | cons b bs ih =>
    by_cases hb : b.key = i.key
    · by_cases h : i.key = key
      · simp [insert, lookup, hb, h, push, members]
      · have hne : b.key ≠ key := fun e => h (hb ▸ e)
        simp [insert, lookup, hb, h, push]
    · by_cases h : b.key = key
      · have hne : ¬ i.key = key := fun e => hb (h.trans e.symm)
        rw [insert, if_neg hb]
        simp [lookup, h, hne]
      · have := ih
        simp only [lookup] at this
        simp [insert, lookup, hb, h, this]

theorem lookup_foldl_insert (is : List Injection) (bs : List Bucket) (key : String) :
    lookup (is.foldl insert bs) key = lookup bs key ++ is.filter (·.key = key) := by
  induction is generalizing bs with
  | nil => simp
  | cons i is ih =>
    rw [List.foldl_cons, ih, lookup_insert, List.append_assoc]
    by_cases h : i.key = key <;> simp [h]

/-- The bucket of a key holds exactly the contributions with the key, in their sequence. -/
theorem lookup_collect (is : List Injection) (key : String) :
    lookup (collect is) key = is.filter (·.key = key) := by
  rw [collect, lookup_foldl_insert, lookup_nil, List.nil_append]

end Bucket

/-- The three slots of a stage. -/
structure Slots where
  /-- Global declarations. -/
  declarations : List Bucket
  /-- Places in the body, and patterns. -/
  body : List Bucket
  /-- Bodies of hook functions. -/
  hooks : List Bucket

namespace Slots

/-- Whether the code goes among the declarations. -/
def isDeclaration (i : Injection) : Bool :=
  match i.target with
  | .declarations _ => true
  | _ => false

/-- Whether the code goes into the body of a hook function. -/
def isHook (i : Injection) : Bool :=
  match i.target with
  | .hook _ _ => true
  | _ => false

/-- Whether the code goes to a place in the body, or after a pattern. -/
def isBody (i : Injection) : Bool :=
  match i.target with
  | .place _ _ => true
  | .pattern _ => true
  | _ => false

/-- The slots that hold the given contributions. -/
def ofContributions (is : List Injection) : Slots where
  declarations := Bucket.collect (is.filter isDeclaration)
  body := Bucket.collect (is.filter isBody)
  hooks := Bucket.collect (is.filter isHook)

/-- The contributions to a stage, in the sequence in which they count. -/
def contributions (stage : Stage) (application : List Injection) (modules : List ShaderModule) :
    List Injection :=
  application.filter (·.appliesTo stage) ++ modules.flatMap (·.injections stage)

/-- The slots of a stage. -/
def classify (stage : Stage) (application : List Injection) (modules : List ShaderModule) : Slots :=
  ofContributions (contributions stage application modules)

/-- The slots of the stage with a label. No module has injections for an unknown label, and of the
application only patterns apply to it. -/
def classifyLabel (label : String) (application : List Injection) (modules : List ShaderModule) :
    Answer Slots :=
  match Stage.ofLabel? label with
  | some stage => .ok (classify stage application modules)
  | none =>
    if modules.isEmpty then
      .ok (ofContributions (application.filter (·.target.stage?.isNone)))
    else .error .missingKey

end Slots

end ShaderLoom
