import ShaderLoom.Template.Tree

/-!
# How deep templates are

The levels of expressions and the loops around nodes are counted, because code can only be made of
what is not too deep. A deep expression is one whose operands are deep: the members of a sequence do
not add up.
-/

namespace ShaderLoom.Template

/-! ## Levels of expressions -/

mutual

/-- How many levels an expression has. -/
def Expr.levels : Expr → Nat
  | .constant _ => 1
  | .failing _ => 1
  | .name _ _ => 1
  | .list es => levelsOfAll es + 1
  | .tuple es => levelsOfAll es + 1
  | .dict es => levelsOfPairs es + 1
  | .unary _ e => e.levels + 1
  | .arith _ a b => max a.levels b.levels + 1
  | .concat es => levelsOfAll es + 1
  | .not e => e.levels + 1
  | .and a b => max a.levels b.levels + 1
  | .or a b => max a.levels b.levels + 1
  | .compare e es => max e.levels (levelsOfChain es) + 1
  | .choice test yes no _ => max (max test.levels yes.levels) (levelsOfOption no) + 1
  | .attribute e _ => e.levels + 1
  | .item e k => max e.levels k.levels + 1
  | .slice a b c => max (max a.levels b.levels) c.levels + 1
  | .call f args named => max (max f.levels (levelsOfArgs args)) (levelsOfNamed named) + 1
  | .filter e _ args named _ => max (max e.levels (levelsOfArgs args)) (levelsOfNamed named) + 1
  | .test e _ args named _ => max (max e.levels (levelsOfArgs args)) (levelsOfNamed named) + 1

/-- The levels of the deepest of some expressions. -/
def levelsOfAll : List Expr → Nat
  | [] => 0
  | e :: es => max e.levels (levelsOfAll es)

/-- The levels of the deepest of some keys and values. -/
def levelsOfPairs : List (Expr × Expr) → Nat
  | [] => 0
  | (k, e) :: es => max (max k.levels e.levels) (levelsOfPairs es)

/-- The levels of the deepest operand of a chain of comparisons. -/
def levelsOfChain : List (Comparison × Expr) → Nat
  | [] => 0
  | (_, e) :: es => max e.levels (levelsOfChain es)

/-- The levels of an expression that may be left out. -/
def levelsOfOption : Option Expr → Nat
  | none => 0
  | some e => e.levels

/-- The levels of the deepest positional argument. -/
def levelsOfArgs : List (Bool × Expr) → Nat
  | [] => 0
  | (_, e) :: es => max e.levels (levelsOfArgs es)

/-- The levels of the deepest named argument. -/
def levelsOfNamed : List (Option String × Expr) → Nat
  | [] => 0
  | (_, e) :: es => max e.levels (levelsOfNamed es)

end

/-- How many levels an expression may have. -/
def maxLevels : Nat := 326

/-- How many levels an expression may have that is printed and has a constant value. -/
def maxConstantLevels : Nat := 489

/-- How many levels of an expression may be left after constants are replaced, if it is printed. -/
def maxWrittenLevels : Nat := 198

/-! ## Loops -/

mutual

/-- How many loops lie within one another in a node. Another template that knows the names of this
one takes the place of two loops. -/
def Node.loops : Node → Nat
  | .text _ => 0
  | .print _ => 0
  | .branch bs otherwise => max (loopsOfBranches bs) (loopsOfNodes otherwise)
  | .each _ _ _ _ body otherwise => max (loopsOfNodes body + 1) (loopsOfNodes otherwise)
  | .assign _ _ => 0
  | .capture _ _ body => loopsOfNodes body
  | .filtered _ body => loopsOfNodes body
  | .scoped _ body => loopsOfNodes body
  | .snippet _ _ withContext => if withContext then 2 else 0

/-- How many loops lie within one another in nodes. -/
def loopsOfNodes : List Node → Nat
  | [] => 0
  | n :: ns => max n.loops (loopsOfNodes ns)

/-- How many loops lie within one another in the branches of a conditional statement. -/
def loopsOfBranches : List (Expr × List Node) → Nat
  | [] => 0
  | (_, body) :: bs => max (loopsOfNodes body) (loopsOfBranches bs)

end

/-- How many loops may lie within one another. -/
def maxLoops : Nat := 20

end ShaderLoom.Template
