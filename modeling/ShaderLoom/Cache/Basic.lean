import ShaderLoom.Value.Entries

/-!
# Caches that keep nothing alive

A cache finds shared objects by keys, but does not keep them alive: an entry is gone as soon as
its object is. Look-ups are counted. While a cache is disabled it finds nothing, takes nothing and
counts nothing.
-/

namespace ShaderLoom

/-- An object with an identity, so that two equal objects can be told apart. -/
structure Shared (α : Type) where
  /-- A number that no other object has. -/
  id : Nat
  /-- What the object is. -/
  content : α

/-- Objects by their keys. -/
structure Cache (α : Type) where
  /-- The objects by their keys, no two keys being the same. -/
  entries : List (Value × Shared α) := []
  /-- Whether the cache is in use. -/
  isEnabled : Bool := true
  /-- How many look-ups found an object. -/
  hits : Nat := 0
  /-- How many look-ups found none. -/
  misses : Nat := 0

namespace Cache

variable {α : Type}

/-- The object under a key, whether or not the cache is in use. -/
def find? (c : Cache α) (key : Value) : Option (Shared α) :=
  (c.entries.find? fun e => e.1.sameKey key).map (·.2)

/-- Keys have to be values that can serve as keys, as long as the cache is in use. -/
def accepts (c : Cache α) (key : Value) : Bool := !c.isEnabled || key.isHashable

/-- Look a key up and count the look-up. -/
def get (c : Cache α) (key : Value) : Option (Shared α) × Cache α :=
  if c.isEnabled then
    match c.find? key with
    | some o => (some o, { c with hits := c.hits + 1 })
    | none => (none, { c with misses := c.misses + 1 })
  else (none, c)

/-- Put an object under a key of a list of entries. -/
def putEntry : List (Value × Shared α) → Value → Shared α → List (Value × Shared α)
  | [], key, o => [(key, o)]
  | e :: es, key, o => if e.1.sameKey key then (e.1, o) :: es else e :: putEntry es key o

/-- Put an object under a key. -/
def set (c : Cache α) (key : Value) (o : Shared α) : Cache α :=
  if c.isEnabled then { c with entries := putEntry c.entries key o } else c

/-- Use the cache. -/
def enable (c : Cache α) : Cache α := { c with isEnabled := true }

/-- Do not use the cache. -/
def disable (c : Cache α) : Cache α := { c with isEnabled := false }

/-- Forget the entries whose objects are gone. -/
def sweep (c : Cache α) (isAlive : Nat → Bool) : Cache α :=
  { c with entries := c.entries.filter fun e => isAlive e.2.id }

/-- The number of entries, of hits and of misses. -/
def stats (c : Cache α) : Nat × Nat × Nat := (c.entries.length, c.hits, c.misses)

@[simp] theorem get_disabled (c : Cache α) (key : Value) :
    c.disable.get key = (none, c.disable) := rfl

@[simp] theorem set_disabled (c : Cache α) (key : Value) (o : Shared α) :
    c.disable.set key o = c.disable := rfl

theorem entries_get (c : Cache α) (key : Value) : (c.get key).2.entries = c.entries := by
  unfold get
  split
  · split <;> rfl
  · rfl

theorem mem_putEntry {es : List (Value × Shared α)} {key : Value} {o : Shared α}
    {e : Value × Shared α} (h : e ∈ putEntry es key o) :
    e ∈ es ∨ e.2 = o := by
  induction es with
  | nil => simp [putEntry] at h; simp [h]
  | cons d ds ih =>
    unfold putEntry at h
    split at h
    · rcases List.mem_cons.1 h with rfl | h
      · exact .inr rfl
      · exact .inl (List.mem_cons_of_mem _ h)
    · rcases List.mem_cons.1 h with rfl | h
      · exact .inl (List.mem_cons_self ..)
      · rcases ih h with h | h
        · exact .inl (List.mem_cons_of_mem _ h)
        · exact .inr h

@[simp] theorem find?_set_self {c : Cache α} (h : c.isEnabled = true) (s : String)
    (o : Shared α) : (c.set (.text s) o).find? (.text s) = some o := by
  simp only [set, h, if_true, find?]
  induction c.entries with
  | nil => simp [putEntry]
  | cons e es ih =>
    by_cases he : e.1.sameKey (.text s) = true
    · simp [putEntry, he]
    · simp only [putEntry, he] at ih ⊢
      simpa [List.find?_cons, he] using ih

@[simp] theorem stats_disable (c : Cache α) : c.disable.stats = c.stats := rfl

theorem get_of_find?_eq_some {c : Cache α} (h : c.isEnabled = true) {key : Value} {o : Shared α}
    (ho : c.find? key = some o) : c.get key = (some o, { c with hits := c.hits + 1 }) := by
  simp [get, h, ho]

end Cache

end ShaderLoom
