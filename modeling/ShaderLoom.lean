import ShaderLoom.Assembly.Basic
import ShaderLoom.Assembly.Program
import ShaderLoom.Assembly.Stage
import ShaderLoom.Cache.Basic
import ShaderLoom.Cache.Shelf
import ShaderLoom.Defines
import ShaderLoom.Failure
import ShaderLoom.Glsl.Dialect
import ShaderLoom.Glsl.Main
import ShaderLoom.Glsl.Substitution
import ShaderLoom.Glsl.VersionLine
import ShaderLoom.Header
import ShaderLoom.Hook.Basic
import ShaderLoom.Hook.Code
import ShaderLoom.Injection.Basic
import ShaderLoom.Injection.Key
import ShaderLoom.Injection.Slots
import ShaderLoom.Injection.Splice
import ShaderLoom.LogLevel
import ShaderLoom.Module.Basic
import ShaderLoom.Module.Deprecation
import ShaderLoom.Module.Facts
import ShaderLoom.Module.Maps
import ShaderLoom.Module.SealedMap
import ShaderLoom.Module.Source
import ShaderLoom.Module.Uniform
import ShaderLoom.Module.UniformUnion
import ShaderLoom.Number.DoubleArithmetic
import ShaderLoom.Number.Places
import ShaderLoom.Number.Quantity
import ShaderLoom.Number.Reading
import ShaderLoom.Number.Rounding
import ShaderLoom.Number.Shortest
import ShaderLoom.Platform
import ShaderLoom.Proofs.Injection.Order
import ShaderLoom.Proofs.Injection.Slots
import ShaderLoom.Proofs.Outcome
import ShaderLoom.Proofs.Resolution.Cycle
import ShaderLoom.Proofs.Resolution.Depth
import ShaderLoom.Proofs.Resolution.Order
import ShaderLoom.Proofs.Resolution.Reach
import ShaderLoom.Proofs.Sorting
import ShaderLoom.Proofs.Text.Occurrence
import ShaderLoom.Registry
import ShaderLoom.Release
import ShaderLoom.Resolution
import ShaderLoom.Stage
import ShaderLoom.Template.Attribute
import ShaderLoom.Template.Constant
import ShaderLoom.Template.Depth
import ShaderLoom.Template.Evaluation
import ShaderLoom.Template.ExprParser
import ShaderLoom.Template.Fault
import ShaderLoom.Template.Filter
import ShaderLoom.Template.Lexer
import ShaderLoom.Template.Loader
import ShaderLoom.Template.Loop
import ShaderLoom.Template.Method
import ShaderLoom.Template.Naming
import ShaderLoom.Template.Parser
import ShaderLoom.Template.Parsing
import ShaderLoom.Template.Preparation
import ShaderLoom.Template.Rendering
import ShaderLoom.Template.Rounding
import ShaderLoom.Template.Scope
import ShaderLoom.Template.Snippet
import ShaderLoom.Template.State
import ShaderLoom.Template.Store
import ShaderLoom.Template.Test
import ShaderLoom.Template.Token
import ShaderLoom.Template.Tree
import ShaderLoom.Template.Word
import ShaderLoom.Text.Blank
import ShaderLoom.Text.Case
import ShaderLoom.Text.CharacterName
import ShaderLoom.Text.Digits
import ShaderLoom.Text.Identifier
import ShaderLoom.Text.NormalForm
import ShaderLoom.Text.Printable
import ShaderLoom.Text.Quoted
import ShaderLoom.Text.Search
import ShaderLoom.Text.SwitchPoints
import ShaderLoom.Text.WordChar
import ShaderLoom.Value.Access
import ShaderLoom.Value.Agreement
import ShaderLoom.Value.Arithmetic
import ShaderLoom.Value.ArrayText
import ShaderLoom.Value.Arrays
import ShaderLoom.Value.Basic
import ShaderLoom.Value.Broadcast
import ShaderLoom.Value.Cells
import ShaderLoom.Value.Comparison
import ShaderLoom.Value.Digest
import ShaderLoom.Value.Entries
import ShaderLoom.Value.Formatting
import ShaderLoom.Value.Inspect
import ShaderLoom.Value.KeyText
import ShaderLoom.Value.Plain
import ShaderLoom.Value.Range
import ShaderLoom.Value.Sorting
import ShaderLoom.Value.Truth
import ShaderLoom.Proofs.Agreement
import ShaderLoom.Proofs.Entries
import ShaderLoom.Proofs.Uniform.Propagation
import ShaderLoom.Proofs.Uniform.Comparison
import ShaderLoom.Proofs.Uniform.Validation
import ShaderLoom.Proofs.Injection.Key
import ShaderLoom.Proofs.Injection.Sharing
import ShaderLoom.Proofs.Injection.Splice
import ShaderLoom.Proofs.Assembly.Work
import ShaderLoom.Proofs.Assembly.Layout
import ShaderLoom.Proofs.Assembly.Program
import ShaderLoom.Proofs.Cache.Session
import ShaderLoom.Proofs.Key.Form
import ShaderLoom.Proofs.Key.Reading
import ShaderLoom.Proofs.Number.Shortest
import ShaderLoom.Proofs.Number.Layout
import ShaderLoom.Proofs.Key.Plain
import ShaderLoom.Proofs.Key.Encodable
import ShaderLoom.Proofs.Defines
import ShaderLoom.Proofs.Defines.Override
import ShaderLoom.Proofs.Cache.Collision
import ShaderLoom.Proofs.Cache.Transparency
import ShaderLoom.Proofs.Glsl.Words
import ShaderLoom.Proofs.Glsl.Renaming
import ShaderLoom.Proofs.Glsl.Conversion
import ShaderLoom.Proofs.Glsl.Joint
import ShaderLoom.Proofs.Glsl.Output
import ShaderLoom.Proofs.Glsl.RoundTrip
import ShaderLoom.Proofs.Assembly.Separation
import ShaderLoom.Proofs.Assembly.Composition
import ShaderLoom.Proofs.Hook.Declarations
import ShaderLoom.Proofs.Hook.Code
import ShaderLoom.Proofs.Hook.Reception
import ShaderLoom.Proofs.Cache.Reuse
import ShaderLoom.Proofs.Resolution.Growth
import ShaderLoom.Proofs.Glsl.Rewording
import ShaderLoom.Proofs.Glsl.VersionLine
import ShaderLoom.Proofs.Glsl.Directive
import ShaderLoom.Proofs.Glsl.Seam
import ShaderLoom.Proofs.Injection.Seam
import ShaderLoom.Proofs.Assembly.Versioning
import ShaderLoom.Proofs.Resolution.Idempotence
import ShaderLoom.Proofs.Injection.Partition
import ShaderLoom.Proofs.Defines.Precedence
import ShaderLoom.Proofs.Glsl.Place
import ShaderLoom.Proofs.Glsl.Respelling
import ShaderLoom.Proofs.Glsl.Declaration
import ShaderLoom.Proofs.Glsl.Braces
import ShaderLoom.Proofs.Glsl.MainHeader
import ShaderLoom.Proofs.Glsl.MainEnd
import ShaderLoom.Proofs.Injection.MainPlaces
import ShaderLoom.Proofs.Glsl.Wording
import ShaderLoom.Proofs.Glsl.Idempotence
import ShaderLoom.Proofs.Glsl.Removal
import ShaderLoom.Proofs.Glsl.Completeness
import ShaderLoom.Proofs.Key.Canonical
import ShaderLoom.Proofs.Key.Mapping
import ShaderLoom.Proofs.Key.Identity
import ShaderLoom.Proofs.Glsl.WordCount
import ShaderLoom.Proofs.Glsl.Redeclaration
import ShaderLoom.Proofs.Module.Macro
import ShaderLoom.Proofs.Digest.Equality
import ShaderLoom.Proofs.Digest.Number
import ShaderLoom.Proofs.Digest.Mapping
import ShaderLoom.Proofs.Digest.Contract
import ShaderLoom.Proofs.Module.Immutability
