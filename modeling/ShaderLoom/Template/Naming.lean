import ShaderLoom.Template.Tree

/-!
# Which names are used where

The parts of a template that have names of their own are its frames: the template itself, and the
bodies of loops, of captures, of filtered parts and of local names. In each frame, every name has a
first use, where it is looked up or assigned. A name that is assigned first is unknown until then,
even if the template was given a value for it.
-/

namespace ShaderLoom.Template

/-! ## Names in expressions -/

mutual

/-- The names that an expression looks up. -/
def Expr.loads : Expr → List String
  | .constant _ => []
  | .failing _ => []
  | .name n _ => [n]
  | .list es => loadsOfAll es
  | .tuple es => loadsOfAll es
  | .dict es => loadsOfPairs es
  | .unary _ e => e.loads
  | .arith _ a b => a.loads ++ b.loads
  | .concat es => loadsOfAll es
  | .not e => e.loads
  | .and a b => a.loads ++ b.loads
  | .or a b => a.loads ++ b.loads
  | .compare e es => e.loads ++ loadsOfChain es
  | .choice test yes no _ => test.loads ++ yes.loads ++ loadsOfOption no
  | .attribute e _ => e.loads
  | .item e k => e.loads ++ k.loads
  | .slice a b c => a.loads ++ b.loads ++ c.loads
  | .call f args named => f.loads ++ loadsOfArgs args ++ loadsOfNamed named
  | .filter e _ args named _ => e.loads ++ loadsOfArgs args ++ loadsOfNamed named
  | .test e _ args named _ => e.loads ++ loadsOfArgs args ++ loadsOfNamed named

/-- The names that expressions look up. -/
def loadsOfAll : List Expr → List String
  | [] => []
  | e :: es => e.loads ++ loadsOfAll es

/-- The names that keys and values look up. -/
def loadsOfPairs : List (Expr × Expr) → List String
  | [] => []
  | (k, e) :: es => k.loads ++ e.loads ++ loadsOfPairs es

/-- The names that a chain of comparisons looks up. -/
def loadsOfChain : List (Comparison × Expr) → List String
  | [] => []
  | (_, e) :: es => e.loads ++ loadsOfChain es

/-- The names that an expression looks up that may be left out. -/
def loadsOfOption : Option Expr → List String
  | none => []
  | some e => e.loads

/-- The names that positional arguments look up. -/
def loadsOfArgs : List (Bool × Expr) → List String
  | [] => []
  | (_, e) :: es => e.loads ++ loadsOfArgs es

/-- The names that named arguments look up. -/
def loadsOfNamed : List (Option String × Expr) → List String
  | [] => []
  | (_, e) :: es => e.loads ++ loadsOfNamed es

end

/-- The names that filters look up. -/
def loadsOfFilters (fs : List FilterCall) : List String :=
  fs.flatMap fun f => loadsOfArgs f.args ++ loadsOfNamed f.named

mutual

/-- The names that a target assigns, with their lines. -/
def Target.stores : Target → List (String × Nat)
  | .name n line => [(n, line)]
  | .tuple ts => storesOfTargets ts
  | .attribute _ _ => []

/-- The names that targets assign, with their lines. -/
def storesOfTargets : List Target → List (String × Nat)
  | [] => []
  | t :: ts => t.stores ++ storesOfTargets ts

end

mutual

/-- The names that a target looks up: those whose attributes are assigned. -/
def Target.loads : Target → List String
  | .name _ _ => []
  | .tuple ts => loadsOfTargets ts
  | .attribute owner _ => [owner]

/-- The names that targets look up. -/
def loadsOfTargets : List Target → List String
  | [] => []
  | t :: ts => t.loads ++ loadsOfTargets ts

end

/-! ## Names anywhere in nodes -/

mutual

/-- The names that a node looks up anywhere. -/
def Node.loads : Node → List String
  | .text _ => []
  | .print e => e.loads
  | .branch bs otherwise => loadsOfBranches bs ++ loadsOfNodes otherwise
  | .each target members test _ body otherwise =>
    target.loads ++ members.loads ++ loadsOfOption test ++ loadsOfNodes body ++
      loadsOfNodes otherwise
  | .assign target e => target.loads ++ e.loads
  | .capture target fs body => target.loads ++ loadsOfFilters fs ++ loadsOfNodes body
  | .filtered fs body => loadsOfFilters fs ++ loadsOfNodes body
  | .scoped bs body => bs.flatMap (fun b => b.1.loads ++ b.2.loads) ++ loadsOfNodes body
  | .snippet e _ _ => e.loads

/-- The names that nodes look up anywhere. -/
def loadsOfNodes : List Node → List String
  | [] => []
  | n :: ns => n.loads ++ loadsOfNodes ns

/-- The names that the branches of a conditional statement look up anywhere. -/
def loadsOfBranches : List (Expr × List Node) → List String
  | [] => []
  | (test, body) :: bs => test.loads ++ loadsOfNodes body ++ loadsOfBranches bs

end

mutual

/-- The names that a node assigns anywhere, with their lines. -/
def Node.stores : Node → List (String × Nat)
  | .text _ => []
  | .print _ => []
  | .branch bs otherwise => storesOfBranches bs ++ storesOfNodes otherwise
  | .each target _ _ _ body otherwise =>
    target.stores ++ storesOfNodes body ++ storesOfNodes otherwise
  | .assign target _ => target.stores
  | .capture target _ body => target.stores ++ storesOfNodes body
  | .filtered _ body => storesOfNodes body
  | .scoped bs body => bs.flatMap (fun b => b.1.stores) ++ storesOfNodes body
  | .snippet _ _ _ => []

/-- The names that nodes assign anywhere, with their lines. -/
def storesOfNodes : List Node → List (String × Nat)
  | [] => []
  | n :: ns => n.stores ++ storesOfNodes ns

/-- The names that the branches of a conditional statement assign anywhere, with their lines. -/
def storesOfBranches : List (Expr × List Node) → List (String × Nat)
  | [] => []
  | (_, body) :: bs => storesOfNodes body ++ storesOfBranches bs

end

/-! ## First uses -/

/-- The names that are used in a frame, in the sequence of their first uses; the flag says whether a
name is assigned first. -/
abbrev Uses := List (String × Bool)

namespace Uses

/-- Another use of a name, which is its first one unless there was one before. -/
def add (us : Uses) (n : String) (isStore : Bool) : Uses :=
  if us.any (·.1 = n) then us else us ++ [(n, isStore)]

/-- Names are looked up. -/
def load (us : Uses) (ns : List String) : Uses := ns.foldl (fun us n => us.add n false) us

/-- A target is assigned. -/
def store (us : Uses) (t : Target) : Uses :=
  t.stores.foldl (fun us n => us.add n.1 true) (us.load t.loads)

/-- Whether a name is assigned first. -/
def isStored (us : Uses) (n : String) : Bool := us.any fun u => u.1 = n && u.2

/-- The uses after a statement of which one of three parts is taken. A name counts as assigned first
if it is so in every part. -/
def merge (yes others otherwise : Uses) : Uses :=
  (others ++ otherwise).foldl (fun us u => us.add u.1 false)
    (yes.map fun u => (u.1, u.2 && others.isStored u.1 && otherwise.isStored u.1))

theorem any_add (us : Uses) (n : String) (isStore : Bool) : (us.add n isStore).any (·.1 = n) := by
  unfold add
  split <;> simp_all

end Uses

mutual

/-- The uses of a frame after a node. Nodes with frames of their own count only for what belongs to
the frame around them. -/
def Node.uses : Node → Uses → Uses
  | .text _, us => us
  | .print e, us => us.load e.loads
  | .branch bs otherwise, us =>
    match bs with
    | [] => us
    | (test, body) :: others =>
      let us := us.load test.loads
      Uses.merge (usesOfNodes body us) (usesOfBranches others us) (usesOfNodes otherwise us)
  | .each _ members _ _ _ _, us => us.load members.loads
  | .assign target e, us => (us.load e.loads).store target
  | .capture target _ _, us => us.store target
  | .filtered fs _, us => us.load (loadsOfFilters fs)
  | .scoped bs _, us => us.load (bs.flatMap fun b => b.2.loads)
  | .snippet e _ _, us => us.load e.loads

/-- The uses of a frame after nodes. -/
def usesOfNodes : List Node → Uses → Uses
  | [], us => us
  | n :: ns, us => usesOfNodes ns (n.uses us)

/-- The uses of a frame after the further branches of a conditional statement. Any of them may be
passed over, so that no name counts as assigned first. -/
def usesOfBranches : List (Expr × List Node) → Uses → Uses
  | [], us => us
  | (test, body) :: bs, us =>
    let us := us.load test.loads
    usesOfBranches bs (Uses.merge (usesOfNodes body us) us us)

end

end ShaderLoom.Template
