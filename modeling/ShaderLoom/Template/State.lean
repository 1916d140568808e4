import ShaderLoom.Template.Attribute
import ShaderLoom.Template.Fault
import ShaderLoom.Template.Scope
import ShaderLoom.Template.Store

/-!
# The state of a run

While a template is rendered, names are assigned, maps are changed and loops go on. All of this is
the state of the run, and a step of rendering is a function of it. The values that steps hand to
each other are settled; an operation on values gets resolved ones, and what it gives is settled
again.
-/

namespace ShaderLoom.Template

/-- What is left of the members of a value that is gone through. -/
inductive Cursor where
  /-- The members themselves. -/
  | members (rest : List Value)
  /-- The entries of a map that must keep its size meanwhile. -/
  | entries (address size : Nat) (kind : ViewKind) (rest : Entries)
  /-- So many integers, from one on. -/
  | integers (next step : Int) (count : Nat)

/-- A number that bounds how many members are left. -/
def Cursor.remaining : Cursor → Nat
  | .members rest => rest.length
  | .entries _ _ _ rest => rest.length
  | .integers _ _ count => count

/-- What decides whether the body of a loop is rendered for a member: the target and the test, and
the scope around the loop. -/
structure Sieve where
  target : Target
  test : Expr
  scope : Scope

/-- The state of a loop. -/
structure LoopState where
  cursor : Cursor
  /-- What is gone through, unless members are left out by a test. -/
  source : Option Value
  sieve : Option Sieve
  /-- The number of members taken so far. -/
  taken : Nat := 0
  /-- The number of all members, once it is known. -/
  length? : Option Nat := none
  /-- The next member, if it was looked at already. -/
  upcoming : Option Value := none
  current : Value := .null
  previous : Value := .null

/-- The state of a run. -/
structure State where
  scope : Scope
  store : Store := {}
  /-- The loops by their numbers. -/
  loops : Array LoopState := #[]

/-- A step of rendering. -/
abbrev Render := StateT State (Except RenderFault)

instance : MonadLift Answer Render where
  monadLift a := fun s =>
    match a with
    | .ok v => .ok (v, s)
    | .error f => .error (.fault f)

/-- Stop rendering. -/
def interrupt {α : Type} (f : RenderFault) : Render α := fun _ => .error f

/-- Settle a value. -/
def keep (v : Value) : Render Value := fun s =>
  let (v, store) := (settle v).run s.store
  .ok (v, { s with store })

/-- Replace the entries of the map at an address, after they are settled. -/
def refill (address : Nat) (es : Entries) : Render Unit := fun s =>
  let (es, store) := (settleEntries es).run s.store
  .ok ((), { s with store := store.write address es })

/-- Settle the result of an operation. -/
def give (a : Answer Value) : Render Value := do keep (← a)

/-- The scope at this point. -/
def currentScope : Render Scope := do return (← get).scope

/-- Go on in another scope. -/
def setScope (scope : Scope) : Render Unit := modify fun s => { s with scope }

/-- Do something in a scope of its own and come back. -/
def within {α : Type} (scope : Scope) (action : Render α) : Render α := do
  let outer ← currentScope
  setScope scope
  let a ← action
  setScope outer
  return a

/-- Do something in a new innermost frame and leave it. -/
def inFrame {α : Type} (frame : Frame) (action : Render α) : Render α := do
  within ((← currentScope).enter frame) action

/-- The cursor at the beginning of a value. -/
def cursorOf (v : Value) : Render Cursor := do
  let entriesOf (a : Nat) (kind : ViewKind) : Render Cursor := do
    let es := (← get).store.entriesAt a
    return .entries a es.length kind es
  match v with
  | .map (.shared a) _ => entriesOf a .keys
  | .view kind (.map (.shared a) _) => entriesOf a kind
  | .range start stop step => return .integers start step (rangeLength start stop step)
  | v => do
    let xs ← (v.members : Answer (List Value))
    return .members (← xs.mapM keep)

/-- The member of an entry that a view shows. -/
def memberOfEntry (kind : ViewKind) (e : Value × Value) : Value :=
  match kind with
  | .keys => e.1
  | .values => e.2
  | .items => .tuple [e.1, e.2]

/-- The next member and the cursor after it. At the end the cursor stays empty for ever. -/
def Cursor.next (c : Cursor) (store : Store) : Answer (Option Value × Cursor) :=
  match c with
  | .members [] => .ok (none, .members [])
  | .members (x :: xs) => .ok (some x, .members xs)
  | .entries a size kind rest =>
    if (store.entriesAt a).length ≠ size then .error .changedMap
    else
      match rest with
      | [] => .ok (none, .members [])
      | e :: es => .ok (some (memberOfEntry kind e), .entries a size kind es)
  | .integers next step count =>
    match count with
    | 0 => .ok (none, .members [])
    | count + 1 => .ok (some (.int next), .integers (next + step) step count)

/-- Fewer members are left after one was taken. -/
theorem Cursor.remaining_next_lt {c d : Cursor} {store : Store} {v : Value}
    (h : c.next store = .ok (some v, d)) : d.remaining < c.remaining := by
  unfold Cursor.next at h
  split at h
  · simp at h
  · simp only [Except.ok.injEq, Prod.mk.injEq] at h
    simp [← h.2, remaining]
  · split at h
    · simp at h
    · split at h
      · simp at h
      · simp only [Except.ok.injEq, Prod.mk.injEq] at h
        simp [← h.2, remaining]
  · split at h
    · simp at h
    · simp only [Except.ok.injEq, Prod.mk.injEq] at h
      simp [← h.2, remaining]

end ShaderLoom.Template
