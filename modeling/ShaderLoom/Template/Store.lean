import ShaderLoom.Value.Access

/-!
# Maps that can be changed

While a template is rendered, every plain map lives in a cell of a store, and values hold its
address, so that whoever holds the map sees a change to it. A value is settled when its maps have
moved to the store, and resolved when they are back in it; operations on values work on resolved
ones. Values that are not equal to themselves are marked when they are settled, so that they can be
recognised later.
-/

namespace ShaderLoom.Template

/-- The maps of a run, and the marks that were given. -/
structure Store where
  /-- The entries of the maps by their addresses; the values in them are settled. -/
  cells : Array Entries := #[]
  /-- The next mark to be given. -/
  nextMark : Nat := 0

/-- A step that may put maps into the store. -/
abbrev Settle := StateM Store

/-- Mark a value. -/
def marked (v : Value) : Settle Value := do
  let s ← get
  set { s with nextMark := s.nextMark + 1 }
  return .singular s.nextMark v

/-- Put a map into the store. -/
def allocate (es : Entries) : Settle Value := do
  let s ← get
  set { s with cells := s.cells.push es }
  return .map (.shared s.cells.size) []

/-- Whether the value is a number that is not equal to itself. -/
def isMissingNumber (v : Value) : Bool :=
  match v.complexQuantity? with
  | some (re, im) => !(re.equal re && im.equal im)
  | none => false

mutual

/-- Move the maps of a value to the store. -/
def settle : Value → Settle Value
  | .list xs => do return .list (← settleAll xs)
  | .tuple xs => do return .tuple (← settleAll xs)
  | .contribution xs => do return .contribution (← settleAll xs)
  | .map .plain es => do allocate (← settleEntries es)
  | .map .sealed es => do return .map .sealed (← settleEntries es)
  | .map (.shared a) _ => return .map (.shared a) []
  | .view kind owner => do return .view kind (← settle owner)
  | .method owner name => do return .method (← settle owner) name
  | .array a => marked (.array a)
  | .singular m v => return .singular m v
  | v => if isMissingNumber v then marked v else return v

/-- Move the maps of values to the store. -/
def settleAll : List Value → Settle (List Value)
  | [] => return []
  | x :: xs => do
    let y ← settle x
    return y :: (← settleAll xs)

/-- Move the maps of entries to the store. -/
def settleEntries : List (Value × Value) → Settle (List (Value × Value))
  | [] => return []
  | (k, v) :: es => do
    let k ← settle k
    let v ← settle v
    return (k, v) :: (← settleEntries es)

end

mutual

/-- Put the entries of maps back into a value, given the entries at each address. -/
def resolveWith (load : Nat → Entries) : Value → Value
  | .list xs => .list (resolveAll load xs)
  | .tuple xs => .tuple (resolveAll load xs)
  | .contribution xs => .contribution (resolveAll load xs)
  | .map (.shared a) _ => .map (.shared a) (load a)
  | .map kind es => .map kind (resolveEntries load es)
  | .view kind owner => .view kind (resolveWith load owner)
  | .method owner name => .method (resolveWith load owner) name
  | v => v

/-- Put the entries of maps back into values. -/
def resolveAll (load : Nat → Entries) : List Value → List Value
  | [] => []
  | x :: xs => resolveWith load x :: resolveAll load xs

/-- Put the entries of maps back into entries. -/
def resolveEntries (load : Nat → Entries) : List (Value × Value) → List (Value × Value)
  | [] => []
  | (k, v) :: es => (resolveWith load k, resolveWith load v) :: resolveEntries load es

end

namespace Store

/-- The entries of the map at an address, as they are kept. -/
def entriesAt (s : Store) (a : Nat) : Entries := s.cells[a]?.getD []

/-- The resolved entries of the map at an address, where maps are looked into up to a depth. -/
def resolvedAt (s : Store) : Nat → Nat → Entries
  | 0, _ => []
  | depth + 1, a => resolveEntries (s.resolvedAt depth) (s.entriesAt a)

/-- The value with the entries of its maps. Without cycles no map is deeper than there are maps. -/
def resolve (s : Store) (v : Value) : Value := resolveWith (s.resolvedAt (s.cells.size + 1)) v

/-- Replace the entries of the map at an address. -/
def write (s : Store) (a : Nat) (es : Entries) : Store :=
  { s with cells := s.cells.setIfInBounds a es }

theorem entriesAt_write {s : Store} {a : Nat} (h : a < s.cells.size) (es : Entries) :
    (s.write a es).entriesAt a = es := by
  simp [entriesAt, write, h]

theorem entriesAt_write_of_ne {s : Store} {a b : Nat} (h : a ≠ b) (es : Entries) :
    (s.write a es).entriesAt b = s.entriesAt b := by
  simp [entriesAt, write, h]

theorem cells_allocate (s : Store) (es : Entries) :
    ((allocate es).run s).2.cells = s.cells.push es := rfl

theorem entriesAt_allocate (s : Store) (es : Entries) :
    ((allocate es).run s).2.entriesAt s.cells.size = es := by
  rw [entriesAt, cells_allocate, Array.getElem?_push_size, Option.getD_some]

end Store

end ShaderLoom.Template
