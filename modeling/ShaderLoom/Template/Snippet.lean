import ShaderLoom.Template.Rendering
import ShaderLoom.Template.Preparation
import ShaderLoom.Template.Parser
import ShaderLoom.Template.Loader

/-!
# Templates and snippets

A snippet is a template of its own, which sees the names around it unless it is included without
them; maps that it changes are changed for the template around it as well. Composing renders a
template that is given by its code, or a packaged snippet.
-/

namespace ShaderLoom.Template

/-- What a template can make use of besides its variables. -/
structure Surroundings where
  loaders : Loaders := packagedLoaders
  facts : ModuleFacts := .nameOnly
  functions : CallableFunctions := fun _ _ => .error .unsupported

/-- A template that was read, with its name if it has one. -/
structure Snippet where
  name : Option String
  nodes : List Node

/-- Read and prepare a template. -/
def Snippet.read (name : Option String) (source : String) : Except RenderFault Snippet := do
  .ok ⟨name, ← prepareTemplate (← parse source)⟩

/-! ## Finding snippets -/

/-- Find and read the snippet with a name. -/
def loadSnippet (loaders : Loaders) (name : String) : Except RenderFault Snippet :=
  match loaders.locate? name with
  | none => .error (.template (.missing name))
  | some (loader, localName) =>
    match loader.find? localName with
    | .error f => .error (.fault f)
    | .ok none => .error (.template (.missing name))
    | .ok (some source) => Snippet.read (some localName) source

/-- The complaint that none of several snippets was found; it names the last one of a sequence. -/
def noneFound {α : Type} (choices : Value) (names : List Value) : Except RenderFault α :=
  match choices, names.getLast? with
  | .map _ _, _ => .error (.fault .missingKey)
  | .view _ _, _ => .error (.fault .unsupported)
  | _, some (.undefined u) => .error (.nameless u.message)
  | _, some (.text s) => .error (.template (.missing s))
  | _, some v => .error (.template (.missing v.inspect))
  | _, none => .error (.template (.missing "None"))

/-- The first of several snippets that is found. -/
def selectSnippet (loaders : Loaders) (choices : Value) (names : List Value) :
    List Value → Except RenderFault Snippet
  | [] => noneFound choices names
  | v :: vs =>
    match v with
    | .text name =>
      match loadSnippet loaders name with
      | .error (.template (.missing _)) => selectSnippet loaders choices names vs
      | .error (.fault (.undefinedUse _)) => selectSnippet loaders choices names vs
      | r => r
    | .undefined _ => selectSnippet loaders choices names vs
    | v => .error (.fault (if v.isHashable then .missingAttribute else .unsupported))

/-- Find and read the snippet that a value names, or the first of several. -/
def findSnippet (loaders : Loaders) (v : Value) : Except RenderFault Snippet :=
  match v with
  | .text name => loadSnippet loaders name
  | .undefined u => .error (.fault (.undefinedUse u.message))
  | v =>
    match v.truth with
    | .error f => .error (.fault f)
    | .ok false => .error (.template (.missing "None"))
    | .ok true =>
      match v.members with
      | .ok names => selectSnippet loaders v names names
      | .error f => .error (.fault f)

/-! ## Rendering -/

/-- How deep snippets may be nested. -/
def maxDepth : Nat := 950

/-- How deep loops with tests may be nested. -/
def maxTestDepth : Nat := 64

/-- Put variables over others. -/
def Variables.over (vs others : Variables) : Variables :=
  vs.foldl (fun all e => all.put e.1 e.2) others

/-- Render a snippet with variables, where snippets may be nested up to a depth. -/
def Snippet.render (surroundings : Surroundings) : Nat → Snippet → Variables → Render Output
  | 0, _, _ => interrupt (.fault .tooDeep)
  | depth + 1, snippet, bindings => do
    let base : Setting :=
      { name := snippet.name
        facts := surroundings.facts
        functions := surroundings.functions
        tester := fun _ => interrupt (.fault .tooDeep) }
    let setting := base.withTests maxTestDepth
    let snippets : SnippetReader := fun v ignoreMissing withContext => do
      let choice ← setting.use v
      match findSnippet surroundings.loaders choice with
      | .ok u => do
        let bindings ← if withContext then do pure (← currentScope).flatten else pure globals
        Snippet.render surroundings depth u bindings
      | .error (.template (.missing n)) =>
        if ignoreMissing then return {} else interrupt (.template (.missing n))
      | .error (.nameless m) => if ignoreMissing then return {} else interrupt (.nameless m)
      | .error f => interrupt f
    let scope : Scope := { bindings }
    within (scope.enter (scope.frameFor (usesOfNodes snippet.nodes [])))
      (renderAll setting snippets snippet.nodes {})

/-- Settle variables. -/
def keepVariables (vs : Variables) : Render Variables :=
  vs.mapM fun e => do return (e.1, ← keep e.2)

/-- The text of a template with variables. -/
def Snippet.compose (surroundings : Surroundings) (snippet : Snippet) (bindings : Variables) :
    Except RenderFault String := do
  let action : Render String := do
    let bindings := (← keepVariables bindings).over globals
    (← snippet.render surroundings maxDepth bindings).toText
  let (s, _) ← action.run { scope := {} }
  .ok s

/-! ## Composing -/

/-- The names that variables of a template are given by. -/
def variableNames (reserved : List String) (bindings : Entries) : Answer Variables :=
  bindings.mapM fun e => do
    let n ← needText e.1
    if reserved.contains n then .error .unsupported else .ok (n, e.2)

/-- A name that no variable of a template can have. -/
def reservedName : String := "self"

/-- Render a template that was read, or report why it was not. -/
def composeRead (surroundings : Surroundings) (read : Except RenderFault Snippet) (subject : String)
    (bindings : Variables) : Result String :=
  let composed : Except RenderFault String := do
    let snippet ← read
    if bindings.any (·.1 = reservedName) then .error (.fault .unsupported)
    else snippet.compose surroundings bindings
  match composed with
  | .ok s => .ok s
  | .error f => .error (f.toFailure subject)

/-- Render a template that is given by its code. The subject says what is composed, for messages. -/
def compose (surroundings : Surroundings) (code subject : String) (bindings : Variables) :
    Result String :=
  composeRead surroundings (Snippet.read none code) subject bindings

/-- Render a packaged snippet. -/
def composePackaged (surroundings : Surroundings) (name : String) (bindings : Variables) :
    Result String :=
  composeRead surroundings
    (loadSnippet surroundings.loaders (joinTexts "." ["pyshadertools", name])) name bindings

end ShaderLoom.Template
