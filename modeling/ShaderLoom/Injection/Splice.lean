import ShaderLoom.Injection.Slots
import ShaderLoom.Glsl.Main

/-!
# Splicing injections into code

Each bucket becomes one fragment, its contents arranged by order. Declarations replace a marker;
the start and the end of the main function are found in the code; every other place and every
pattern is a text after whose first occurrence the fragment goes on a line of its own. A bucket
whose target is not found leaves the code as it is and is reported.
-/

namespace ShaderLoom

open Text Glsl

/-- The text that holds the place of the declarations. -/
def declarationMarker : List Char := "__PYSHADERTOOLS_INJECT_DECLARATIONS__".toList

namespace Bucket

/-- The contents of a bucket, arranged by order, each on lines of its own. -/
def fragment (b : Bucket) : Answer (List Char) := do
  .ok (joinWith ['\n'] ((← Injection.arrange b.members).map (·.content.toList)) ++ ['\n'])

end Bucket

namespace Splice

/-- Insert a fragment after the header of the main function. -/
def atMainStart? (fragment source : List Char) : Option (List Char) :=
  (splitMain? source).map fun m => m.before ++ m.header ++ fragment ++ m.body

/-- Insert a fragment before the brace that ends the main function. -/
def atMainEnd? (fragment source : List Char) : Option (List Char) :=
  (endOfMain? source).map fun i => source.take i ++ fragment ++ source.drop i

/-- Insert a fragment on a new line after the first occurrence of a text. -/
def afterText? (target fragment source : List Char) : Option (List Char) :=
  (splitAtFirst target source).map fun cut =>
    cut.1 ++ target ++ '\n' :: dropTrailing '\n' fragment ++ cut.2

/-- Replace the marker of the declarations by a fragment. -/
def atMarker? (fragment source : List Char) : Option (List Char) :=
  (splitAtFirst declarationMarker source).map fun cut => cut.1 ++ fragment ++ cut.2

/-- Insert a fragment at the target of an injection, if it is found. -/
def insert? (i : Injection) (fragment source : List Char) : Option (List Char) :=
  match i.target with
  | .declarations _ => atMarker? fragment source
  | .place _ name =>
    if name = "main-start" then atMainStart? fragment source
    else if name = "main-end" then atMainEnd? fragment source
    else afterText? name.toList fragment source
  | _ => afterText? i.key.toList fragment source

/-- Whether a bucket has a stage, and another one than the given one. -/
def isForeign (label : String) (b : Bucket) : Bool :=
  match b.first.target.stage? with
  | some s => s.label ≠ label
  | none => false

/-- What has been spliced so far. -/
structure Progress where
  /-- The code. -/
  code : List Char
  /-- The keys of buckets whose target was not found. -/
  missed : List String := []

/-- Splice one bucket. -/
def step (label : String) (p : Progress) (b : Bucket) : Answer Progress :=
  if isForeign label b then .ok p
  else do
    match insert? b.first (← b.fragment) p.code with
    | some code => .ok { p with code }
    | none => .ok { p with missed := p.missed ++ [b.key] }

/-- Splice buckets one after the other. A failure leaves the keys of buckets whose target was not
found before it. -/
def stepAll (label : String) : List Bucket → Progress → Progress × Answer Unit
  | [], p => (p, .ok ())
  | b :: bs, p =>
    match step label p b with
    | .ok p => stepAll label bs p
    | .error f => (p, .error f)

/-- Splice buckets one after the other, and remove the markers that are left: the keys of buckets
whose target was not found, and the code. -/
def run (label : String) (buckets : List Bucket) (source : List Char) :
    List String × Answer (List Char) :=
  let (p, outcome) := stepAll label buckets ⟨source, []⟩
  (p.missed, outcome.map fun _ => removeAll declarationMarker p.code)

/-- The report about a key whose target was not found. -/
def missedMessage (label key : String) : String :=
  s!"Injection target {Text.quoted key} not found in {label} source."

end Splice

end ShaderLoom
