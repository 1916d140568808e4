import ShaderLoom.Template.State
import ShaderLoom.Template.Method

/-!
# Loops

A loop takes its members one by one, so that a failure in the middle comes after what was rendered
before it. Whoever asks whether a member is the last one makes the loop look at the next one, and
whoever asks for the number of members makes it go through all that are left, unless what is gone
through knows its length.
-/

namespace ShaderLoom.Template

/-! ## Assignments -/

/-- At most so many members from a cursor on. -/
def takeMembers (store : Store) : Nat → Cursor → Answer (List Value)
  | 0, _ => .ok []
  | n + 1, c => do
    match ← c.next store with
    | (some v, c) => .ok (v :: (← takeMembers store n c))
    | (none, _) => .ok []

mutual

/-- Assign a value to a target; a tuple of targets takes a sequence of as many members. -/
def Target.assign : Target → Value → Render Unit
  | .name n _, v => modify fun s => { s with scope := s.scope.assign n v }
  | .attribute _ _, _ => interrupt (.fault .unknownOperation)
  | .tuple ts, v => do
    let cursor ← cursorOf v
    let vs ← (takeMembers (← get).store (ts.length + 1) cursor : Answer (List Value))
    if vs.length = ts.length then assignAll ts vs else interrupt (.fault .invalid)

/-- Assign values to targets. -/
def assignAll : List Target → List Value → Render Unit
  | [], _ => return ()
  | t :: ts, vs => do
    match vs with
    | [] => return ()
    | v :: vs => do
      t.assign v
      assignAll ts vs

end

mutual

/-- The value of a target that was assigned. -/
def Target.value (scope : Scope) : Target → Value
  | .name n _ => (scope.find? n).getD .null
  | .tuple ts => .tuple (valuesOfTargets scope ts)
  | .attribute _ _ => .null

/-- The values of targets that were assigned. -/
def valuesOfTargets (scope : Scope) : List Target → List Value
  | [] => []
  | t :: ts => t.value scope :: valuesOfTargets scope ts

end

/-! ## Members -/

/-- How the tests of loops are evaluated. -/
abbrev Tester := Expr → Render Value

/-- The state of a loop by its number. -/
def loopState? (id : Nat) : Render (Option LoopState) := do return (← get).loops[id]?

/-- Change the state of a loop. -/
def updateLoop (id : Nat) (f : LoopState → LoopState) : Render Unit :=
  modify fun s => { s with loops := s.loops.modify id f }

/-- Start a loop over the members of a value. The result is its number. -/
def startLoop (v : Value) (target : Target) (test : Option Expr) : Render Nat := do
  let cursor ← cursorOf v
  let scope ← currentScope
  let s ← get
  let loop : LoopState :=
    { cursor
      source := if test.isSome then none else some v
      sieve := test.map fun test => ⟨target, test, scope⟩ }
  set { s with loops := s.loops.push loop }
  return s.loops.size

/-- The member that a sieve lets pass, if it does; a tuple of targets gives a tuple. -/
def Sieve.pass (tester : Tester) (sieve : Sieve) (v : Value) : Render (Option Value) := do
  let uses := Uses.load (Uses.store [] sieve.target) sieve.test.loads
  within (sieve.scope.enter (sieve.scope.frameFor uses)) do
    sieve.target.assign v
    let answer ← tester sieve.test
    let passed ← ((← get).store.resolve answer).truth
    let scope ← currentScope
    return if passed then some (sieve.target.value scope) else none

/-- The next member of a loop that passes its test, within so many members. -/
def pull (tester : Tester) (id : Nat) : Nat → Render (Option Value)
  | 0 => return none
  | fuel + 1 => do
    match ← loopState? id with
    | none => return none
    | some loop => do
      let (v?, cursor) ← (loop.cursor.next (← get).store : Answer (Option Value × Cursor))
      updateLoop id fun loop => { loop with cursor }
      match v?, loop.sieve with
      | none, _ => return none
      | some v, none => return some v
      | some v, some sieve => do
        match ← sieve.pass tester v with
        | some w => return some w
        | none => pull tester id fuel

/-- The next member of a loop. -/
def pullNext (tester : Tester) (id : Nat) : Render (Option Value) := do
  match ← loopState? id with
  | some loop => pull tester id (loop.cursor.remaining + 1)
  | none => return none

/-- Look at the next member of a loop without taking it. -/
def peek (tester : Tester) (id : Nat) : Render (Option Value) := do
  match (← loopState? id).bind (·.upcoming) with
  | some v => return some v
  | none => do
    let v? ← pullNext tester id
    updateLoop id fun loop => { loop with upcoming := v? }
    return v?

/-- Take the next member of a loop. -/
def advance (tester : Tester) (id : Nat) : Render (Option Value) := do
  match ← peek tester id with
  | some v => do
    updateLoop id fun loop =>
      { loop with
        upcoming := none
        taken := loop.taken + 1
        previous := loop.current
        current := v }
    return some v
  | none => return none

/-- All members that are left, of which there are at most so many. -/
def drain (tester : Tester) (id : Nat) : Nat → Render (List Value)
  | 0 => return []
  | fuel + 1 => do
    match ← pullNext tester id with
    | some v => return v :: (← drain tester id fuel)
    | none => return []

/-- The number of all members of a loop. -/
def loopLength (tester : Tester) (id : Nat) : Render Nat := do
  match ← loopState? id with
  | none => return 0
  | some loop =>
    match loop.length?, loop.source with
    | some n, _ => return n
    | none, some v => do
      let n ← (((← get).store.resolve v).length : Answer Nat)
      updateLoop id fun loop => { loop with length? := some n }
      return n
    | none, none => do
      let rest ← drain tester id (loop.cursor.remaining + 1)
      let n := rest.length + loop.taken + (if loop.upcoming.isSome then 1 else 0)
      updateLoop id fun loop =>
        { loop with cursor := .members rest, sieve := none, length? := some n }
      return n

/-! ## What a loop says about itself -/

/-- A value that is ready for an operation: maps have their entries, and loops their position and
their length. -/
def use (tester : Tester) (v : Value) : Render Value := do
  match v with
  | .loop id _ _ => do
    let n ← loopLength tester id
    let taken := ((← loopState? id).map (·.taken)).getD 0
    return .loop id taken n
  | v => return (← get).store.resolve v

/-- What the state of a loop says under a name. -/
def loopAttribute (tester : Tester) (id : Nat) (name : String) : Render (Option Value) := do
  match ← loopState? id with
  | none => return none
  | some loop =>
    let taken : Int := loop.taken
    let neighbour (v? : Option Value) (what : String) : Value :=
      v?.getD (.undefined ⟨s!"there is no {what} item", false⟩)
    match name with
    | "index" => return some (.int taken)
    | "index0" => return some (.int (taken - 1))
    | "revindex" => return some (.int ((← loopLength tester id) - taken + 1))
    | "revindex0" => return some (.int ((← loopLength tester id) - taken))
    | "first" => return some (.bool (taken == 1))
    | "last" => return some (.bool (← peek tester id).isNone)
    | "length" => return some (.int (← loopLength tester id))
    | "depth" => return some (.int 1)
    | "depth0" => return some (.int 0)
    | "previtem" =>
      return some (neighbour (if taken = 1 then none else some loop.previous) "previous")
    | "nextitem" => return some (neighbour (← peek tester id) "next")
    | "cycle" => return some (.method (.loop id 0 0) "cycle")
    | _ => return none

/-- The value among some that belongs to the current member of a loop. -/
def cycled (id : Nat) (vs : List Value) : Render Value := do
  let taken := ((← loopState? id).map (·.taken)).getD 0
  match vs[(taken - 1) % vs.length]? with
  | some v => return v
  | none => interrupt (.fault .unsupported)

end ShaderLoom.Template
