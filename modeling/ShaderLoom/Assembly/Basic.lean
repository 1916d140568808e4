import ShaderLoom.Glsl.Dialect
import ShaderLoom.Module.Source
import ShaderLoom.Platform
import ShaderLoom.Registry

/-!
# Assemblers

An assembler puts programs together for one platform. What it looks up, writes in front and does to
the finished code can be replaced. While it works it keeps a journal, which survives a failure.
-/

namespace ShaderLoom

/-- What an assembler puts programs together with. -/
structure Assembler where
  /-- The platform that programs are made for, if it is known. -/
  platform : Option Platform := none
  /-- The registry that names of modules are looked up in, if there is one. -/
  registry : Option Registry := none
  /-- What templates can make use of besides their variables. -/
  surroundings : Template.Surroundings := {}
  /-- The defines that describe a platform. -/
  platformDefines : Option Platform → Value := fun p => .text (gpuDefines p)
  /-- The defines that make the dialects compatible. -/
  versionDefines : Option Platform → Value := fun p => .text (ShaderLoom.versionDefines p)
  /-- Convert finished code to a version. -/
  convert : String → Nat → Stage → Result String := fun code version stage =>
    Glsl.transpile (.text code) (.int version) stage

/-- What happened while programs were put together. -/
structure Journal where
  /-- The reports about injections whose target was not found. -/
  missed : List String := []
  /-- The notices about uses of old names. -/
  notices : List Notice := []
  /-- The versions and stages that code was converted for. -/
  conversions : List (Nat × Stage) := []

/-- Work that keeps a journal and can fail. -/
abbrev Work := ExceptT Failure (StateM Journal)

namespace Work

/-- Note down injections whose target was not found. -/
def noteMissed (reports : List String) : Work Unit :=
  modify fun j => { j with missed := j.missed ++ reports }

/-- Note down notices. -/
def noteNotices (notices : List Notice) : Work Unit :=
  modify fun j => { j with notices := j.notices ++ notices }

/-- Note down that code is converted. -/
def noteConversion (version : Nat) (stage : Stage) : Work Unit :=
  modify fun j => { j with conversions := j.conversions ++ [(version, stage)] }

end Work

end ShaderLoom
