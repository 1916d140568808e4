import ShaderLoom.Failure

/-!
# Why templates fail

A template fails because something is wrong with it, because an operation on values has no result,
or because none of several snippets is there. Only the first kind has a wording of its own.
-/

namespace ShaderLoom.Template

/-- Why a template could not be read or rendered. -/
inductive RenderFault where
  /-- An operation on values has no result. -/
  | fault (f : Fault)
  /-- Something is wrong with a template. -/
  | template (t : TemplateFault)
  /-- None of several snippets was found, and the last one has an undefined name, so that the
  complaint cannot name it. -/
  | nameless (message : String)

/-- The complaint about a line of a template. -/
def RenderFault.malformed (message : String) (line : Nat) : RenderFault :=
  .template (.malformed message line)

/-- A failure to compose a subject. -/
def RenderFault.toFailure (subject : String) : RenderFault → Failure
  | .fault (.undefinedUse m) => .template subject (.undefined m)
  | .fault f => .fault f
  | .template t => .template subject t
  | .nameless m => .fault (.undefinedUse m)

end ShaderLoom.Template
