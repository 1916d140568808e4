import ShaderLoom.Cache.Basic

/-!
# Shelves

A shelf keeps objects alive in named places, next to a cache that finds them by keys. An object that
stands in no place any more is gone, and so are the entries of the cache for it.
-/

namespace ShaderLoom

/-- Objects in named places, and a cache for them. -/
structure Shelf (α : Type) where
  /-- The objects by the names of their places, each name once. -/
  places : List (String × Shared α) := []
  /-- The cache of the objects. -/
  cache : Cache α := {}
  /-- The identity of the next object. -/
  nextId : Nat := 0

namespace Shelf

variable {α : Type}

/-- The object in a place. -/
def at? (s : Shelf α) (place : String) : Option (Shared α) := s.places.lookup place

/-- Whether an object stands in some place. -/
def isAlive (s : Shelf α) (id : Nat) : Bool := s.places.any fun p => p.2.id == id

/-- The names of the places an object stands in, sorted. -/
def placesOf (s : Shelf α) (id : Nat) : List String :=
  ((s.places.filter fun p => p.2.id == id).map (·.1)).mergeSort

/-- Forget the entries of the cache for objects that are gone. -/
def sweep (s : Shelf α) : Shelf α := { s with cache := s.cache.sweep s.isAlive }

/-- Clear a place. -/
def drop (s : Shelf α) (place : String) : Shelf α :=
  sweep { s with places := s.places.filter fun p => p.1 ≠ place }

/-- Put an object in a place, in place of what was there. -/
def store (s : Shelf α) (place : String) (o : Shared α) : Shelf α :=
  sweep { s with places := (s.places.filter fun p => p.1 ≠ place) ++ [(place, o)] }

/-- A new object. -/
def make (s : Shelf α) (content : α) : Shared α × Shelf α :=
  (⟨s.nextId, content⟩, { s with nextId := s.nextId + 1 })

/-- Change the cache. -/
def withCache (s : Shelf α) (f : Cache α → Cache α) : Shelf α := { s with cache := f s.cache }

/-- The numbers of living objects in the cache, of hits and of misses. -/
def stats (s : Shelf α) : Nat × Nat × Nat := s.cache.stats

@[simp] theorem at?_drop (s : Shelf α) (place : String) : (s.drop place).at? place = none := by
  simp only [drop, sweep, at?, List.lookup_eq_none_iff]
  intro p hp
  have := (List.mem_filter.1 hp).2
  simp only [ne_eq, decide_eq_true_eq] at this
  simpa using fun h => this h.symm

theorem isAlive_store (s : Shelf α) (place : String) (o : Shared α) :
    (s.store place o).isAlive o.id = true := by
  simp [store, sweep, isAlive]

/-- An entry stays as long as its object is alive. -/
theorem mem_sweep {s : Shelf α} {e : Value × Shared α} (h : e ∈ s.cache.entries)
    (ha : s.isAlive e.2.id = true) : e ∈ s.sweep.cache.entries :=
  List.mem_filter.2 ⟨h, ha⟩

theorem isAlive_of_mem_sweep {s : Shelf α} {e : Value × Shared α}
    (h : e ∈ s.sweep.cache.entries) : s.isAlive e.2.id = true :=
  (List.mem_filter.1 h).2

end Shelf

end ShaderLoom
