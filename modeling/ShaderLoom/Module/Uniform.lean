import ShaderLoom.Value.Arrays
import ShaderLoom.Value.Comparison
import ShaderLoom.Failure

/-!
# Declared uniforms

A module declares uniforms with a default value and possibly a type, bounds and privacy. A value
that is given for a uniform is checked against the declaration: numbers are finite and within the
bounds, truth values are truth values, and arrays are converted to arrays of singles.
-/

namespace ShaderLoom

/-- The declaration of a uniform. -/
structure Uniform where
  /-- The name; any key of a map. -/
  name : Value
  /-- The type: one of the texts `number`, `boolean`, `array` and `object`, or anything else, which
  is not checked. -/
  type : Value
  /-- The default value. -/
  value : Value
  /-- The least value of a number, unless absent. -/
  min : Value
  /-- The greatest value of a number, unless absent. -/
  max : Value
  /-- Whether options cannot set the uniform. -/
  isPrivate : Bool

namespace Uniform

/-- The type that a default value suggests. -/
def inferredType : Value → String
  | .bool _ => "boolean"
  | .scalar (.truth _) => "boolean"
  | .list _ => "array"
  | .tuple _ => "array"
  | .array _ => "array"
  | v => if v.isNumber then "number" else "object"

/-- Whether the uniform has the type with the given name. -/
def hasType (u : Uniform) (name : String) : Answer Bool := u.type.equal (.text name)

/-- A value other than the absent one as an array of singles. -/
def arrayDefault (v : Value) : Answer Value :=
  match v with
  | .null => .ok .null
  | v => (NumericArray.ofValue .single v).map .array

/-- Read a declaration: a map with a `value`, or the default value itself. -/
def declare (name declaration : Value) : Answer Uniform := do
  let details : Entries :=
    match declaration with
    | .map _ es => if Entries.has es (.text "value") then es else [(.text "value", declaration)]
    | v => [(.text "value", v)]
  let value := (Entries.getText? details "value").getD .null
  let type ← ((Entries.getText? details "type").getD .null).orElse (.text (inferredType value))
  let min := (Entries.getText? details "min").getD .null
  let max := (Entries.getText? details "max").getD .null
  let isPrivate ← ((Entries.getText? details "private").getD (.bool false)).truth
  let u : Uniform := ⟨name, type, value, min, max, isPrivate⟩
  if ← u.hasType "array" then
    .ok { u with value := ← arrayDefault value }
  else .ok u

/-- Refuse a value for a uniform. -/
def refuse (u : Uniform) (moduleName : String) (why : UniformFault) : Failure :=
  .uniform moduleName u.name why

/-- Check a number against a bound; an absent bound allows everything. -/
def checkBound (bound : Value) (exceeds : Answer Bool) (refusal : Answer Failure) : Result Unit :=
  match bound with
  | .null => .ok ()
  | _ => do
    if ← exceeds then .error (← refusal) else .ok ()

/-- Check a value for a uniform and bring it into the form that shaders get. -/
def validate (u : Uniform) (moduleName : String) (v : Value) : Result Value := do
  if ← u.hasType "number" then
    if v.isFiniteNumber then
      checkBound u.min (v.less? u.min) do
        .ok (u.refuse moduleName (.below (← v.embedded) (← u.min.embedded)))
      checkBound u.max (do (← v.relate .gt u.max).truth) do
        .ok (u.refuse moduleName (.above (← v.embedded) (← u.max.embedded)))
      .ok v
    else .error (u.refuse moduleName (.notFinite v))
  else if ← u.hasType "boolean" then
    if v.isTruth then .ok v else .error (u.refuse moduleName (.notTruth v))
  else if ← u.hasType "array" then
    match NumericArray.ofValue .single v with
    | .ok a => .ok (.array a)
    | .error .unsupported => .error (u.refuse moduleName (.notArray v))
    | .error .invalid => .error (u.refuse moduleName (.notArray v))
    | .error f => .error (.fault f)
  else .ok v

end Uniform

end ShaderLoom
