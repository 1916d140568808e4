/-!
# Shader stages

A program has a vertex stage and a fragment stage. Keys and messages name them by two letters.
-/

namespace ShaderLoom

/-- A stage of a shader program. -/
inductive Stage where
  | vertex
  | fragment
deriving DecidableEq

namespace Stage

/-- The two letters by which keys name the stage. -/
def label : Stage → String
  | .vertex => "vs"
  | .fragment => "fs"

/-- The stage with the given two letters. -/
def ofLabel? (s : String) : Option Stage :=
  if s = "vs" then some .vertex else if s = "fs" then some .fragment else none

/-- The word for the stage in the generated code. -/
def word : Stage → String
  | .vertex => "vertex"
  | .fragment => "fragment"

@[simp] theorem ofLabel?_label (s : Stage) : ofLabel? s.label = some s := by
  cases s <;> simp [ofLabel?, label]

theorem label_injective {s t : Stage} (h : s.label = t.label) : s = t := by
  simpa using congrArg ofLabel? h

end Stage

end ShaderLoom
