import ShaderLoom.Stage
import ShaderLoom.Failure
import ShaderLoom.Value.Entries
import ShaderLoom.Value.Truth
import ShaderLoom.Text.Search

/-!
# Hook functions

A hook is a function whose body is made of injections. It is declared by its signature, with a
header and a footer for its body if need be, for one stage or for several at once. The text before
the parameters is the name of the hook; a later declaration of a name replaces an earlier one.
-/

namespace ShaderLoom

open Text

/-- The declaration of a hook function for one stage. -/
structure Hook where
  stage : Stage
  /-- The name with the parameters. -/
  signature : String
  /-- Code before the injections; values other than texts are refused when code is made. -/
  header : Value
  /-- Code after the injections. -/
  footer : Value

/-- The name in a signature: everything before the first parenthesis. -/
def signatureName (signature : List Char) : List Char := trim (signature.takeWhile (· ≠ '('))

namespace Hook

/-- The name of a hook. -/
def name (h : Hook) : String := String.ofList (signatureName h.signature.toList)

/-- The key of injections into the body of a hook. -/
def key (h : Hook) : String := s!"{h.stage.label}:{h.name}"

/-- The text that messages show for a hook. -/
def inspect (h : Hook) : String := s!"<HookFunction {h.stage.label}:{h.signature}>"

/-- Make a hook of its stage and its signature. The stage and the text of the declaration serve to
say what is wrong. -/
def ofSignature (declaration : List Char) (stage? : Option Stage) (signature : List Char)
    (header footer : Value) : Result Hook :=
  match stage? with
  | none => .error (.hookWithoutStage (String.ofList declaration))
  | some stage =>
    let signature := trim signature
    if signatureName signature = [] then .error (.hookWithoutName (String.ofList declaration))
    else do
      let header ← header.orElse (.text "")
      let footer ← footer.orElse (.text "")
      .ok ⟨stage, String.ofList signature, header, footer⟩

/-- Read a declaration that starts with its stage. -/
def ofText (declaration header footer : Value) : Result Hook :=
  match declaration with
  | .text s =>
    let cs := trim s.toList
    let (label, signature) := cutAt ':' cs
    ofSignature cs (Stage.ofLabel? (String.ofList label)) signature header footer
  | v => .error (.hookNotText v)

/-- Read a declaration for a given stage, which it may repeat. -/
def ofTextFor (stage : Stage) (declaration header footer : Value) : Result Hook :=
  match declaration with
  | .text s =>
    let cs := trim s.toList
    let signature := (afterFront? (stage.label.toList ++ [':']) cs).getD cs
    ofSignature cs (some stage) signature header footer
  | v => .error (.hookNotText v)

/-- The value under a key, or the absent one. -/
def part (es : Entries) (key : String) : Value := (Entries.getText? es key).getD .null

/-- Read the declaration for one stage: a text, or a map with details. -/
def ofDetails (stage : Stage) : Value → Result Hook
  | .map _ es => ofTextFor stage (part es "hook") (part es "header") (part es "footer")
  | v => ofTextFor stage v (.text "") (.text "")

/-- The stages that the keys of a map name, if all of them do and there is one. -/
def stagesOf (es : Entries) : Option (List (Stage × Value)) :=
  if es.isEmpty then none
  else
    es.mapM fun e =>
      match e.1 with
      | .text s => (Stage.ofLabel? s).map fun stage => (stage, e.2)
      | _ => none

/-- Read a declaration: a text, a map with a `hook`, or a map from stages to declarations. -/
def declare : Value → Result (List Hook)
  | .text s => do .ok [← ofText (.text s) (.text "") (.text "")]
  | .map kind es =>
    if Entries.has es (.text "hook") then do
      .ok [← ofText (part es "hook") (part es "header") (part es "footer")]
    else
      match stagesOf es with
      | some stages => stages.mapM fun s => ofDetails s.1 s.2
      | none => .error (.hookDeclaration (.map kind es))
  | v => .error (.hookDeclaration v)

/-- Put a hook in place of the one with its key, or at the end. -/
def put : List Hook → Hook → List Hook
  | [], h => [h]
  | g :: gs, h => if g.key = h.key then h :: gs else g :: put gs h

theorem mem_put {hs : List Hook} {g h : Hook} (hg : g ∈ put hs h) : g ∈ hs ∨ g = h := by
  induction hs with
  | nil => exact .inr (by simpa [put] using hg)
  | cons k ks ih =>
    simp only [put] at hg
    split at hg
    · rcases List.mem_cons.1 hg with rfl | hg
      · exact .inr rfl
      · exact .inl (List.mem_cons_of_mem _ hg)
    · rcases List.mem_cons.1 hg with rfl | hg
      · exact .inl List.mem_cons_self
      · rcases ih hg with hg | hg
        · exact .inl (List.mem_cons_of_mem _ hg)
        · exact .inr hg

theorem mem_put_self (hs : List Hook) (h : Hook) : h ∈ put hs h := by
  induction hs with
  | nil => simp [put]
  | cons k ks ih =>
    simp only [put]
    split
    · exact List.mem_cons_self
    · exact List.mem_cons_of_mem _ ih

theorem keys_put (hs : List Hook) (h : Hook) :
    (put hs h).map key = if h.key ∈ hs.map key then hs.map key else hs.map key ++ [h.key] := by
  induction hs with
  | nil => simp [put]
  | cons k ks ih =>
    by_cases hk : k.key = h.key
    · simp [put, hk]
    · have hk' : ¬ h.key = k.key := fun e => hk e.symm
      simp only [put, hk, if_false, List.map_cons, ih, List.mem_cons, hk', false_or]
      split <;> simp

/-- The hooks of a list of declarations, the last one of each key counting. -/
def ofDeclarations (declarations : Value) : Result (List Hook) := do
  let declarations ← declarations.orElse (.list [])
  let hooks ← (← declarations.members).mapM declare
  .ok (hooks.flatten.foldl put [])

/-- The hooks of a stage. -/
def forStage (hooks : List Hook) (stage : Stage) : List Hook := hooks.filter (·.stage = stage)

end Hook

end ShaderLoom
