import ShaderLoom.Injection.Key
import ShaderLoom.Value.Sorting
import ShaderLoom.Failure

/-!
# Injections

An injection is a piece of code together with its key and an order. Injections of one target are
arranged by ascending order, and those of equal order keep the sequence in which they were
contributed.
-/

namespace ShaderLoom

open Number

/-- The order of an injection: an integer or a float, which may come with its width. -/
inductive Order where
  | whole (n : Int)
  | real (x : Float)
  /-- A float that is given as a fixed-width number of 64 bits. -/
  | wide (x : Float)
deriving DecidableEq

namespace Order

/-- The order as a value. -/
def toValue : Order → Value
  | .whole n => .int n
  | .real x => .float x
  | .wide x => .scalar (.double x)

/-- The order that a value gives. Truth values are no orders, nor are numbers of other widths. -/
def ofValue? : Value → Option Order
  | .int n => some (.whole n)
  | .float x => some (.real x)
  | .scalar (.double x) => some (.wide x)
  | _ => none

/-- Whether an order comes before another one. An integer that is compared with a fixed-width number
has to fit it. -/
def less (a b : Order) : Answer Bool := a.toValue.less? b.toValue

/-- The text of an order. -/
def text : Order → String
  | .whole n => intText n
  | .real x => doubleText x
  | .wide x => doubleText x

theorem ofValue?_toValue (o : Order) : ofValue? o.toValue = some o := by
  cases o <;> rfl

end Order

/-- A contribution of code to a target. -/
structure Injection where
  /-- The key under which the code was contributed. -/
  key : String
  /-- Where the code goes. -/
  target : Target
  /-- The code. -/
  content : String
  /-- The place among the contributions to the same target. -/
  order : Order
deriving DecidableEq

namespace Injection

/-- The slots of an injection as values. -/
def toValue (i : Injection) : Value :=
  .contribution
    [.text i.target.kindName,
      match i.target.stage? with
      | some s => .text s.label
      | none => .null,
      .text i.target.name, .text i.key, .text i.content, i.order.toValue]

/-- Whether two injections are equal in every slot; orders are compared as numbers. -/
def equal (a b : Injection) : Answer Bool := a.toValue.equal b.toValue

/-- The text that messages show for an injection. -/
def inspect (i : Injection) : String :=
  s!"<Injection {Text.quoted i.key} order={i.order.text}>"

/-- Make an injection of a key and a value, which is the code or a map with the code as `content`
and possibly an `order`. -/
def create (key value : Value) : Result Injection := do
  let (key, target) ← Target.ofValue key
  let refused := Failure.injectionValue key value
  let (content, order) ←
    match value with
    | .text s => (.ok (s, .int 0) : Result (String × Value))
    | .map _ es =>
      match Entries.getText? es "content" with
      | some (.text s) => .ok (s, (Entries.getText? es "order").getD (.int 0))
      | _ => .error refused
    | _ => .error refused
  match Order.ofValue? order with
  | some order => .ok ⟨key, target, content, order⟩
  | none => .error (.injectionOrder key)

/-- Arrange injections by ascending order; equal orders keep their sequence. -/
def arrange (is : List Injection) : Answer (List Injection) :=
  sortWith (fun a b => a.order.less b.order) is

/-- Arranging injections keeps them. -/
theorem perm_of_arrange {is js : List Injection} (h : arrange is = .ok js) : js.Perm is :=
  perm_of_sortWith h

/-- Whether the code goes into the given stage. -/
def appliesTo (i : Injection) (s : Stage) : Bool := i.target.appliesTo s

/-- The injections that an application asks for, in the sequence of the map's entries. -/
def ofApplication (inject : Value) : Result (List Injection) := do
  if ← inject.truth then
    match inject with
    | .map _ es => es.mapM fun e => create e.1 e.2
    | v => .error (.injectionsNotMap v)
  else .ok []

end Injection

end ShaderLoom
