import ShaderLoom.Value.Inspect

/-!
# Failures

Everything that can go wrong while shaders are composed, given by its cause. `Failure.message` holds
the wording; a failure that an operation on a value meets has no wording of its own.
-/

namespace ShaderLoom

/-- Why an injection key is refused. -/
inductive KeyFault where
  /-- The key is no text, or blank. -/
  | blank
  /-- The key starts like a key of a stage, but does not go on like one. -/
  | malformed
  /-- A module may only target a stage. -/
  | noStage (moduleName : String)

/-- Why the value of a uniform is refused. -/
inductive UniformFault where
  | notFinite (value : Value)
  | below (value bound : String)
  | above (value bound : String)
  | notTruth (value : Value)
  | notArray (value : Value)

/-- Why a template cannot be rendered. -/
inductive TemplateFault where
  /-- An undefined value was used. -/
  | undefined (message : String)
  /-- A snippet was not found. -/
  | missing (name : String)
  /-- The template is malformed at a line. -/
  | malformed (message : String) (line : Nat)

/-- The cause of a failure. -/
inductive Failure where
  /-- An operation on values has no result. -/
  | fault (f : Fault)
  | injectionKey (key : Value) (why : KeyFault)
  | injectionValue (key : String) (value : Value)
  | injectionOrder (key : String)
  | injectionsNotMap (value : Value)
  | moduleName
  | moduleSource (name : String)
  | moduleUniforms (name : String)
  | uniform (moduleName : String) (name : Value) (why : UniformFault)
  | unknownStage (stage : Value)
  | notAModule (value : Value)
  | notAModuleOrName (value : Value)
  | registryLocked
  | alreadyRegistered (name : String)
  | cyclicDependency (cycle : List String)
  | unresolvedModule (name : Value) (dependent : Option String)
  | sourceNotText (value : Value)
  | transpileNotText (value : Value)
  | transpileVersion (version : Value)
  /-- A transpiler other than the built-in one gave up. -/
  | transpileRefused (message : String)
  | hookNotText (value : Value)
  | hookWithoutStage (hook : String)
  | hookWithoutName (hook : String)
  | hookDeclaration (value : Value)
  | loaderContext (context : Value)
  | loaderTaken (context : String)
  | loaderKind (context : String) (loader : Value)
  /-- A template failed; `subject` says what was composed. -/
  | template (subject : String) (why : TemplateFault)

/-- What kind of failure a caller has to expect. -/
inductive FailureKind where
  | type
  | cellType
  | value
  | key
  | attribute
  | index
  | overflow
  | zeroDivision
  | runtime
  | recursion
  | templateRuntime
  | filterArgument
  | undefinedUse
  | unknownName
  | codeForm
  | cyclicDependency
  | unresolvedModule
  | injectionKey
  | transpile
deriving DecidableEq

/-- The result of an operation that can fail. -/
abbrev Result := Except Failure

instance : MonadLift Answer Result where
  monadLift
    | .ok a => .ok a
    | .error f => .error (.fault f)

@[simp] theorem monadLift_answer_ok {α : Type} (a : α) :
    (MonadLift.monadLift (Except.ok a : Answer α) : Result α) = .ok a := rfl

@[simp] theorem monadLift_answer_error {α : Type} (f : Fault) :
    (MonadLift.monadLift (Except.error f : Answer α) : Result α) = .error (.fault f) := rfl

/-- The kind of failure of a fault. -/
def Fault.kind : Fault → FailureKind
  | .unsupported => .type
  | .unsupportedCells => .cellType
  | .invalid => .value
  | .missingKey => .key
  | .missingAttribute => .attribute
  | .missingIndex => .index
  | .overflow => .overflow
  | .zeroDivision => .zeroDivision
  | .tooDeep => .recursion
  | .unknownOperation => .templateRuntime
  | .refusedWord => .filterArgument
  | .undefinedUse _ => .undefinedUse
  | .sealedMap => .type
  | .changedMap => .runtime
  | .unspellable => .unknownName
  | .illFormed => .codeForm

/-- The wording of a fault, if it has one. -/
def Fault.message? : Fault → Option String
  | .sealedMap => some "Cannot modify ReadOnlyDict"
  | _ => none

/-- The reason that is given for refusing an injection key. -/
def KeyFault.reason : KeyFault → String
  | .blank => "must be a non-empty string"
  | .malformed => "stage-prefixed keys must look like 'vs:name' or 'fs:#name'"
  | .noStage name => s!"injections of module {Text.quoted name} must target a stage"

/-- What is wrong with the value of a uniform. -/
def UniformFault.message : UniformFault → String
  | .notFinite v => s!"expected a finite number, got {v.inspect}"
  | .below v bound => s!"{v} is smaller than {bound}"
  | .above v bound => s!"{v} is larger than {bound}"
  | .notTruth v => s!"expected a bool, got {v.inspect}"
  | .notArray v => s!"expected an array, got {v.inspect}"

/-- The value that is shown in the complaint about a uniform, if there is one. -/
def UniformFault.shown : UniformFault → List Value
  | .notFinite v => [v]
  | .notTruth v => [v]
  | .notArray v => [v]
  | _ => []

/-- What is wrong with a template. -/
def TemplateFault.message : TemplateFault → String
  | .undefined m => m
  | .missing name => s!"glsl snippet '{name}' not found."
  | .malformed m line => s!"{m} (line {line})"

namespace Failure

/-- The values that are shown in the wording of a failure. -/
def shown : Failure → List Value
  | .injectionKey key _ => [key]
  | .injectionValue _ v => [v]
  | .injectionsNotMap v => [v]
  | .uniform _ u why => u :: why.shown
  | .unknownStage v => [v]
  | .notAModule v => [v]
  | .notAModuleOrName v => [v]
  | .unresolvedModule name _ => [name]
  | .transpileVersion v => [v]
  | .hookNotText v => [v]
  | .hookDeclaration v => [v]
  | .loaderContext v => [v]
  | .loaderKind _ v => [v]
  | _ => []

/-- The failure that is met when a failure is put into words: a value with too long an integer
cannot be shown. -/
def settled (f : Failure) : Failure :=
  if f.shown.all Value.isPrintable then f else .fault .invalid

/-- The kind of a failure. -/
def kind : Failure → FailureKind
  | .fault f => f.kind
  | .injectionKey _ _ => .injectionKey
  | .injectionValue _ _ => .type
  | .injectionOrder _ => .type
  | .injectionsNotMap _ => .type
  | .moduleName => .type
  | .moduleSource _ => .type
  | .moduleUniforms _ => .type
  | .uniform _ _ _ => .value
  | .unknownStage _ => .value
  | .notAModule _ => .type
  | .notAModuleOrName _ => .type
  | .registryLocked => .runtime
  | .alreadyRegistered _ => .value
  | .cyclicDependency _ => .cyclicDependency
  | .unresolvedModule _ _ => .unresolvedModule
  | .sourceNotText _ => .type
  | .transpileNotText _ => .transpile
  | .transpileVersion _ => .transpile
  | .transpileRefused _ => .transpile
  | .hookNotText _ => .value
  | .hookWithoutStage _ => .value
  | .hookWithoutName _ => .value
  | .hookDeclaration _ => .value
  | .loaderContext _ => .type
  | .loaderTaken _ => .runtime
  | .loaderKind _ _ => .type
  | .template _ _ => .value

/-- The complaint about a source that is no text. -/
def sourceMessage (v : Value) : String :=
  s!"Shader source must be a str, not <class {Text.quoted v.typeName}>"

/-- The wording of a failure, if it has one of its own. -/
def message? : Failure → Option String
  | .fault f => f.message?
  | .injectionKey key why =>
    some s!"Invalid shader injection key {key.inspect}: {why.reason}"
  | .injectionValue key v =>
    some (joinTexts "" ["Injection for ", Text.quoted key,
      " must be a str or a dict with 'content', not ", v.inspect])
  | .injectionOrder key => some s!"Injection order for {Text.quoted key} must be a number."
  | .injectionsNotMap v => some s!"Injections must be given as a dict, not {v.inspect}"
  | .moduleName => some "ShaderModule name must be a non-empty string."
  | .moduleSource name =>
    some s!"Shader module {Text.quoted name} source must be str or callable."
  | .moduleUniforms name =>
    some s!"Shader module {Text.quoted name} get_uniforms must be callable."
  | .uniform m u why =>
    some s!"Shader module {Text.quoted m}: invalid uniform {u.inspect}, {why.message}"
  | .unknownStage v => some s!"Invalid shader stage {v.inspect}."
  | .notAModule v => some s!"Expected ShaderModule instance, got {v.inspect}."
  | .notAModuleOrName v => some s!"Expected ShaderModule or module name, got {v.inspect}."
  | .registryLocked => some "Cannot register shader modules in a locked registry."
  | .alreadyRegistered name =>
    some s!"A shader module named {Text.quoted name} is already registered."
  | .cyclicDependency cycle =>
    some (joinTexts "" ["Cyclic shader module dependency: ", joinTexts " -> " cycle])
  | .unresolvedModule name dependent =>
    match dependent with
    | some d => some s!"Shader module {Text.quoted d} depends on unknown module {name.inspect}."
    | none => some s!"Unknown shader module {name.inspect}."
  | .sourceNotText v => some (sourceMessage v)
  | .transpileNotText v => some (sourceMessage v)
  | .transpileVersion v => some s!"Unknown GLSL version {v.inspect}"
  | .transpileRefused m => some m
  | .hookNotText v => some s!"Hook function must be given as a string, not {v.inspect}"
  | .hookWithoutStage h =>
    some s!"Hook function {Text.quoted h} must start with 'vs:' or 'fs:'."
  | .hookWithoutName h => some s!"Hook function {Text.quoted h} has no name."
  | .hookDeclaration v => some s!"Invalid hook function declaration: {v.inspect}"
  | .loaderContext v =>
    some s!"Glsl loader context must be a str without dots, not {v.inspect}"
  | .loaderTaken c => some s!"A glsl loader is already registered for '{c}'."
  | .loaderKind c v => some s!"Invalid glsl loader for '{c}': {v.inspect}"
  | .template subject why =>
    let place := if subject = "" then "" else " " ++ subject
    some s!"Cannot compose shader{place}: {why.message}"

end Failure

end ShaderLoom
