/-!
# Character classes by their switch points

A class of characters is given by the ascending list of code points at which membership changes.
A code point lies in the class exactly when an odd number of switch points is at most that code
point. The tables of the neighbouring modules start above the basic Latin block, so that classes
of basic Latin characters are decided without looking at a table.
-/

namespace ShaderLoom.Text

/-- The code points at which membership of a class changes, in ascending order. -/
abbrev SwitchPoints := List Nat

/-- The class holds a code point when an odd number of switch points is at most the code point. -/
def SwitchPoints.holds : SwitchPoints → Nat → Bool
  | [], _ => false
  | p :: rest, n => if n < p then false else !SwitchPoints.holds rest n

@[simp] theorem SwitchPoints.holds_nil (n : Nat) : SwitchPoints.holds [] n = false := rfl

theorem SwitchPoints.holds_cons (p : Nat) (rest : SwitchPoints) (n : Nat) :
    SwitchPoints.holds (p :: rest) n = if n < p then false else !SwitchPoints.holds rest n := rfl

end ShaderLoom.Text
