import ShaderLoom.Template.Evaluation

/-!
# Rendering nodes

The output of a template is that of its nodes, one after the other. The body of a loop has a frame
of its own for each member; the bodies of conditional statements share the frame around them. A
filtered body may give something other than text, which is only found out when the output is needed
as a text.
-/

namespace ShaderLoom.Template

/-! ## Output -/

/-- What nodes give: a text, unless there is something other than text in it. -/
structure Output where
  text : String := ""
  isText : Bool := true

namespace Output

/-- One output after another. -/
def append (a b : Output) : Output := ⟨a.text ++ b.text, a.isText && b.isText⟩

/-- The output that a value is. -/
def ofValue : Value → Output
  | .text s => ⟨s, true⟩
  | _ => ⟨"", false⟩

/-- The text of an output. -/
def toText (o : Output) : Answer String := if o.isText then .ok o.text else .error .unsupported

@[simp] theorem append_empty (a : Output) : a.append {} = a := by
  simp [append]

@[simp] theorem empty_append (a : Output) : ({} : Output).append a = a := by
  simp [append]

theorem append_assoc (a b c : Output) : (a.append b).append c = a.append (b.append c) := by
  simp [append, String.append_assoc, Bool.and_assoc]

end Output

/-! ## Frames -/

/-- The uses of names in the body of a loop. -/
def usesOfBody (target : Target) (hasState : Bool) (body : List Node) : Uses :=
  let us := Uses.store [] target
  usesOfNodes body (if hasState then us.add "loop" true else us)

/-- The uses of names in a filtered body. -/
def usesOfFiltered (fs : List FilterCall) (body : List Node) : Uses :=
  (usesOfNodes body []).load (loadsOfFilters fs)

/-- The uses of names in a body with local names. -/
def usesOfScoped (bs : List (Target × Expr)) (body : List Node) : Uses :=
  usesOfNodes body (bs.foldl (fun us b => us.store b.1) [])

/-! ## Parts of nodes -/

/-- Whether a target has an attribute in it. -/
def Target.hasAttribute (t : Target) : Bool := !t.loads.isEmpty

/-- Apply filters to a rendered text. -/
def applyFilters (setting : Setting) (fs : List FilterCall) (s : String) : Render Value :=
  fs.foldlM (fun v f => do
    let args ← evalArgs setting f.args
    let named ← evalNamed setting f.named
    let a ← setting.arguments args named
    give (filterValue setting.facts f.name (← setting.use v) a)) (.text s)

/-- Assign local names in the frame that holds them; their values are those of the scope around. -/
def bindLocals (setting : Setting) (outer : Scope) (bs : List (Target × Expr)) : Render Unit :=
  bs.forM fun b => do
    let v ← within outer (eval setting b.2)
    b.1.assign v

/-- Do something for each member of a loop, of which there are at most so many. The result says
whether there was a member. -/
def forMembers (tester : Tester) (id : Nat) (action : Value → Render Output) :
    Nat → Output → Bool → Render (Output × Bool)
  | 0, done, wasAny => return (done, wasAny)
  | fuel + 1, done, wasAny => do
    match ← advance tester id with
    | none => return (done, wasAny)
    | some v => do
      let o ← action v
      forMembers tester id action fuel (done.append o) true

/-- How many members a loop can still have. -/
def membersLeft (id : Nat) : Render Nat := do
  return ((← loopState? id).map fun loop => loop.cursor.remaining + 1).getD 0

/-- How other templates are rendered, given the value that names them, whether it matters if there
is none, and whether they see the names around. -/
abbrev SnippetReader := Value → Bool → Bool → Render Output

/-! ## Nodes -/

mutual

/-- The output of a node. -/
def Node.render (setting : Setting) (snippets : SnippetReader) : Node → Render Output
  | .text s => return ⟨s, true⟩
  | .print e => do
    let v ← eval setting e
    return ⟨← setting.display v, true⟩
  | .branch bs otherwise => do
    match ← renderBranches setting snippets bs with
    | some o => return o
    | none => renderAll setting snippets otherwise {}
  | .each target members test hasState body otherwise => do
    let v ← eval setting members
    let id ← startLoop v target test
    let scope ← currentScope
    let frame := scope.frameFor (usesOfBody target hasState body)
    let action (v : Value) : Render Output :=
      inFrame frame do
        if hasState then modify fun s => { s with scope := s.scope.assign "loop" (.loop id 0 0) }
        target.assign v
        renderAll setting snippets body {}
    let (o, wasAny) ← forMembers setting.tester id action (← membersLeft id) {} false
    if wasAny then return o
    else
      let frame := scope.frameFor (usesOfNodes otherwise [])
      inFrame frame (renderAll setting snippets otherwise {})
  | .assign target e => do
    if target.hasAttribute then interrupt (.fault .unknownOperation)
    let v ← eval setting e
    target.assign v
    return {}
  | .capture target fs body => do
    let frame := (← currentScope).frameFor (usesOfNodes body [])
    let v ← inFrame frame do
      let o ← renderAll setting snippets body {}
      if target.hasAttribute then interrupt (.fault .unknownOperation)
      applyFilters setting fs (← o.toText)
    target.assign v
    return {}
  | .filtered fs body => do
    let frame := (← currentScope).frameFor (usesOfFiltered fs body)
    inFrame frame do
      let o ← renderAll setting snippets body {}
      let v ← applyFilters setting fs (← o.toText)
      return .ofValue v
  | .scoped bs body => do
    let outer ← currentScope
    inFrame (outer.frameFor (usesOfScoped bs body)) do
      bindLocals setting outer bs
      renderAll setting snippets body {}
  | .snippet e ignoreMissing withContext => do
    let v ← eval setting e
    snippets v ignoreMissing withContext

/-- The output of nodes after what was given before. -/
def renderAll (setting : Setting) (snippets : SnippetReader) :
    List Node → Output → Render Output
  | [], done => return done
  | n :: ns, done => do
    let o ← n.render setting snippets
    renderAll setting snippets ns (done.append o)

/-- The output of the first branch whose test holds, if there is one. -/
def renderBranches (setting : Setting) (snippets : SnippetReader) :
    List (Expr × List Node) → Render (Option Output)
  | [] => return none
  | (test, body) :: bs => do
    let v ← eval setting test
    if ← setting.truth v then return some (← renderAll setting snippets body {})
    else renderBranches setting snippets bs

end

end ShaderLoom.Template
