import ShaderLoom.Template.Tree
import ShaderLoom.Text.Search
import ShaderLoom.Failure

/-!
# Loaders of snippets

A snippet is found by a dotted name. The part before the first dot names a loader, the rest is the
name for the loader: an entry of a table, a path in a directory, or the argument of a function. A
path may not lead upward, and empty parts of it do not count. A function may give its text together
with the name of a file and a note on its age.
-/

namespace ShaderLoom.Template

open Text

/-- Where snippets come from. -/
inductive Loader where
  /-- A table of names and texts. -/
  | table (rows : Entries)
  /-- The files of a directory by their paths. -/
  | directory (files : List (List (List Char) × String))
  /-- A function that gives a text or the absent value. -/
  | function (f : String → Answer Value)

/-- The parts of a path, or nothing if the path leads upward. -/
def pathParts? (path : List Char) : Option (List (List Char)) :=
  let parts := splitOn '/' path
  if parts.any (· = ['.', '.']) then none
  else some (parts.filter fun p => p ≠ [] && p ≠ ['.'])

/-- A directory with files at the given paths; of several at one path, the last one is there. -/
def Loader.ofFiles (files : List (String × String)) : Loader :=
  .directory
    (files.reverse.filterMap fun f => (pathParts? f.1.toList).map fun parts => (parts, f.2))

/-- The text that was loaded, which can only be a text. -/
def loadedText : Value → Answer String
  | .text s => .ok s
  | _ => .error .unsupported

/-- The text that a function gives, alone or with the name of a file and a note on its age. -/
def functionText (v : Value) : Answer (Option String) :=
  match v with
  | .null => .ok none
  | .text s => .ok (some s)
  | v => do
    match ← v.members with
    | [source, .null, _] => do .ok (some (← loadedText source))
    | [source, file, _] => do
      let s ← loadedText source
      let _ ← loadedText file
      .ok (some s)
    | _ => .error .invalid

/-- The text of a snippet, or nothing if there is none. -/
def Loader.find? (l : Loader) (name : String) : Answer (Option String) :=
  match l with
  | .table rows =>
    match Entries.get? rows (.text name) with
    | some v => do .ok (some (← loadedText v))
    | none => .ok none
  | .directory files =>
    .ok ((pathParts? name.toList).bind fun parts => files.lookup parts)
  | .function f => do functionText (← f name)

/-- The loaders by the first part of the names they are responsible for. -/
abbrev Loaders := List (String × Loader)

/-- The packaged snippet with common constants. -/
def constantsSnippet : String :=
  joinTexts "\n"
    ["#ifndef PI", "#define PI 3.141592653589793", "#endif", "#ifndef TWO_PI",
      "#define TWO_PI 6.283185307179586", "#endif", "#ifndef EPSILON", "#define EPSILON 1e-7",
      "#endif", ""]

/-- The packaged snippet that heads every shader. -/
def prologueSnippet : String :=
  joinTexts "\n"
    ["\x7b\x7b shader_name \x7d\x7d", "\x7b\x7b shader_type \x7d\x7d",
      "\x7b\x7b platform_defines \x7d\x7d", "\x7b\x7b version_defines \x7d\x7d",
      "\x7b\x7b application_defines \x7d\x7d", "\x7b\x7b precision \x7d\x7d", ""]

/-- The loaders that are always there. -/
def packagedLoaders : Loaders :=
  [("pyshadertools",
    .ofFiles [("constants.glsl", constantsSnippet), ("prologue.glsl", prologueSnippet)])]

namespace Loaders

/-- What a name means: its loader, and the name for the loader. -/
def locate? (ls : Loaders) (name : String) : Option (Loader × String) :=
  match splitAtFirst ['.'] name.toList with
  | some (context, rest) =>
    (ls.lookup (String.ofList context)).map fun l => (l, String.ofList rest)
  | none => none

/-- Whether a text can be the first part of names. -/
def isContext (s : String) : Bool := s ≠ "" && !s.toList.contains '.'

/-- The loader that a value stands for: a table for a map, a function for a function. -/
def loaderOf? (functions : FunctionRef → String → Answer Value) : Value → Option Loader
  | .map _ es => some (.table es)
  | .functionRef f => some (.function (functions f))
  | _ => none

/-- Register a loader under the first part of names. What is given is either a loader, or a value
that stands for one. -/
def register (ls : Loaders) (context : Value) (loader? : Option Loader) (given : Value) :
    Result Loaders :=
  match context with
  | .text c =>
    if isContext c then
      if (ls.lookup c).isSome then .error (.loaderTaken c)
      else
        match loader? with
        | some l => .ok (ls ++ [(c, l)])
        | none => .error (.loaderKind c given)
    else .error (.loaderContext context)
  | _ => .error (.loaderContext context)

end Loaders

end ShaderLoom.Template
