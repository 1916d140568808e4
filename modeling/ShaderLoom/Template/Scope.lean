import ShaderLoom.Template.Naming
import ShaderLoom.Text.NormalForm

/-!
# Scopes of names

Names are looked up in frames, from the innermost one outward, and then among the values that the
template was given. Assignments go to the innermost frame; leaving a frame forgets them. A name that
a frame assigns before it uses it is unknown in the frame until then. Two spellings of a name with
one normal form are the same name in frames.
-/

namespace ShaderLoom.Template

/-- Names with their values. -/
abbrev Variables := List (String × Value)

/-- Put a value under a name. -/
def Variables.put : Variables → String → Value → Variables
  | [], n, v => [(n, v)]
  | e :: es, n, v => if e.1 = n then (n, v) :: es else e :: Variables.put es n v

/-- Whether two spellings are the same name. -/
def isSameName (m n : String) : Bool :=
  m = n || Text.normalForm m.toList = Text.normalForm n.toList

/-- The names of one frame. -/
structure Frame where
  /-- The names that are used anywhere in the frame. -/
  used : List String := []
  /-- The names that are assigned, each once; an unknown name has no value yet. -/
  entries : List (String × Option Value) := []

/-- What a frame says about a name: nothing, or that it has a value or is unknown. -/
def Frame.find? (f : Frame) (n : String) : Option (Option Value) :=
  (f.entries.find? fun e => isSameName e.1 n).map (·.2)

/-- Assign a value to a name. -/
def Frame.put (f : Frame) (n : String) (v : Value) : Frame :=
  { f with entries := (n, some v) :: f.entries.filter fun e => !isSameName e.1 n }

/-- The frames of a place in a template, innermost first, and the values that the template was
given. -/
structure Scope where
  frames : List Frame := []
  bindings : Variables := []

namespace Scope

/-- The value of a name. -/
def find? (s : Scope) (n : String) : Option Value :=
  match s.frames.findSome? fun f => f.find? n with
  | some found => found
  | none => s.bindings.lookup n

/-- Assign a value to a name in the innermost frame. -/
def assign (s : Scope) (n : String) (v : Value) : Scope :=
  match s.frames with
  | [] => { s with frames := [({} : Frame).put n v] }
  | f :: fs => { s with frames := f.put n v :: fs }

/-- What the spellings of one name stand for where none is assigned: the value that was given under
the last of them. -/
def sharedEntries (s : Scope) (us : Uses) : List (String × Option Value) :=
  (us.filter fun u => Text.normalForm u.1.toList ≠ u.1.toList).filterMap fun u =>
    let spellings := us.filter fun w => isSameName u.1 w.1
    if 1 < spellings.length then
      some (u.1, spellings.getLast?.bind fun w => s.bindings.lookup w.1)
    else none

/-- The frame that is entered for a part with some uses of names. A name that a frame around it uses
is the same name there. Of the other names, those that are assigned first are unknown. -/
def frameFor (s : Scope) (us : Uses) : Frame where
  used := us.map (·.1)
  entries :=
    let own := us.filter fun u => !s.frames.any fun f => f.used.contains u.1
    (own.filter (·.2)).map (fun u => (u.1, none)) ++ s.sharedEntries own

/-- Enter a new innermost frame. -/
def enter (s : Scope) (f : Frame) : Scope := { s with frames := f :: s.frames }

/-- Leave the innermost frame. -/
def leave (s : Scope) : Scope := { s with frames := s.frames.drop 1 }

/-- All names with their values, as an included template is given them. -/
def flatten (s : Scope) : Variables :=
  s.frames.reverse.foldl (fun all f =>
    f.entries.foldl (fun all e =>
      match e.2 with
      | some v => Variables.put all e.1 v
      | none => all) all) s.bindings

theorem find?_enter (s : Scope) (f : Frame) (n : String) :
    (s.enter f).find? n = (f.find? n).getD (s.find? n) := by
  simp only [find?, enter, List.findSome?_cons]
  cases f.find? n <;> rfl

@[simp] theorem leave_enter (s : Scope) (f : Frame) : (s.enter f).leave = s := rfl

end Scope

end ShaderLoom.Template
