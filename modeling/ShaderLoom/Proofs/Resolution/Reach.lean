import Mathlib.Data.List.Chain
import Mathlib.Data.List.Nodup
import Mathlib.Logic.Relation
import ShaderLoom.Resolution

/-!
# What requests lead to

The modules that requests lead to are those they are looked up to, and then all those that their
dependencies are looked up to. Modules are followed as objects here, not by their names: two
modules of one name are both reached if references lead to both.
-/

namespace ShaderLoom

/-- A module that has a name and dependencies and nothing else. -/
def ShaderModule.plain (id : ℕ) (name : String) (dependencies : List Value) : ShaderModule where
  ref := ⟨id, name⟩
  vertex := .absent
  fragment := .absent
  dependencies := dependencies
  defines := ⟨[], .mapping []⟩
  vertexInjections := []
  fragmentInjections := []
  uniforms := []
  driver := none
  deprecations := []

namespace Resolution

/-- Looking up an entry of the dependencies of `m` leads to `n`. -/
def DependsOn (d : Directory) (m n : ShaderModule) : Prop :=
  ∃ v ∈ m.dependencies, d.lookup (some m.name) v = .ok n

/-- The modules that requests lead to, by a chain of lookups. -/
inductive Reached (d : Directory) (requests : List Value) : ShaderModule → Prop
  | request {v : Value} {m : ShaderModule} (hv : v ∈ requests) (hm : d.lookup none v = .ok m) :
      Reached d requests m
  | dependency {m n : ShaderModule} (hm : Reached d requests m) (hn : DependsOn d m n) :
      Reached d requests n

/-- The references that have to be looked up, each with the name of the module that it is an entry
of: the requests, and the dependencies of every reached module. -/
inductive Referred (d : Directory) (requests : List Value) : Option String → Value → Prop
  | request {v : Value} (hv : v ∈ requests) : Referred d requests none v
  | dependency {m : ShaderModule} {v : Value} (hm : Reached d requests m)
      (hv : v ∈ m.dependencies) : Referred d requests (some m.name) v

variable {d : Directory} {requests : List Value}

lemma Referred.reached {dependent : Option String} {v : Value} {m : ShaderModule}
    (hv : Referred d requests dependent v) (hm : d.lookup dependent v = .ok m) :
    Reached d requests m := by
  cases hv with
  | request hv => exact .request hv hm
  | dependency hn hv => exact .dependency hn ⟨_, hv, hm⟩

/-- The first reference of a series that leads to a module. -/
lemma visitAll_cons {path : List String} {dependent : Option String} {v : Value} {vs : List Value}
    {done : List ShaderModule} {m : ShaderModule} (hm : d.lookup dependent v = .ok m) :
    visitAll d path dependent (v :: vs) done =
      match visit d path done ⟨m, Directory.mem_pool_of_lookup hm⟩ with
      | .ok done => visitAll d path dependent vs done
      | .error e => .error e := by
  rw [visitAll]
  split
  · next e he => rw [hm] at he; exact absurd he (by simp)
  · next n hn =>
    obtain rfl : m = n := by rw [hm] at hn; simpa using hn
    rfl

/-- The first reference of a series that leads to no module. -/
lemma visitAll_cons_error {path : List String} {dependent : Option String} {v : Value}
    {vs : List Value} {done : List ShaderModule} {e : Failure}
    (he : d.lookup dependent v = .error e) :
    visitAll d path dependent (v :: vs) done = .error e := by
  rw [visitAll]
  split
  · next e' he' => rw [he] at he'; simpa using he'.symm
  · next n hn => rw [he] at hn; exact absurd hn (by simp)

lemma any_name_eq_true_iff {done : List ShaderModule} {name : String} :
    (done.any fun m => decide (m.name = name)) = true ↔ name ∈ done.map (·.name) := by
  simp

end Resolution

end ShaderLoom
