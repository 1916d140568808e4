import ShaderLoom.Value.Range

/-!
# Values as keys

Two values are the same key of a map when they stand for the same number, text, sequence or mapping;
the order of the entries of a map does not matter. Numbers of different representations are the same
key if and only if they are exactly the same quantity. A value that can be changed is no key.
-/

namespace ShaderLoom

open Number

/-- The result of an operation that may have none. -/
abbrev Answer := Except Fault

namespace Value

/-- Whether the value is a float of any width. -/
def isFloat : Value → Bool
  | .float _ => true
  | .scalar (.single _) => true
  | .scalar (.double _) => true
  | _ => false

/-- The real and the imaginary quantity of a number of any representation. -/
def complexQuantity? : Value → Option (Quantity × Quantity)
  | .bool b => some (.ofInt b.toInt, .ofInt 0)
  | .int n => some (.ofInt n, .ofInt 0)
  | .float x => some (.ofDouble x, .ofInt 0)
  | .complex re im => some (.ofDouble re, .ofDouble im)
  | .scalar s => some (s.quantity, .ofInt 0)
  | .complexScalar _ re im => some (.ofDouble re, .ofDouble im)
  | _ => none

/-- Whether two values are numbers and the same quantity. -/
def sameQuantity (v w : Value) : Bool :=
  match v.complexQuantity?, w.complexQuantity? with
  | some (a, b), some (c, d) => a.equal c && b.equal d
  | _, _ => false

mutual

/-- Whether two values are the same key of a map. -/
def sameKey : Value → Value → Bool
  | .null, w => match w with | .null => true | _ => false
  | .text s, w => match w with | .text t => s = t | _ => false
  | .list xs, w => match w with | .list ys => sameKeys xs ys | _ => false
  | .tuple xs, w => match w with | .tuple ys => sameKeys xs ys | _ => false
  | .map _ xs, w =>
    match w with
    | .map _ ys => xs.length == ys.length && sameEntries xs ys
    | _ => false
  | .array a, w => match w with | .array b => a = b | _ => false
  | .moduleRef m, w => match w with | .moduleRef n => m.id = n.id | _ => false
  | .functionRef f, w => match w with | .functionRef g => f = g | _ => false
  | .contribution xs, w => match w with | .contribution ys => sameKeys xs ys | _ => false
  | .range a b c, w => match w with | .range a' b' c' => sameRange a b c a' b' c' | _ => false
  | .view _ _, _ => false
  | .method _ _, _ => false
  | .undefined _, w => match w with | .undefined _ => true | _ => false
  | .loop i _ _, w => match w with | .loop j _ _ => i = j | _ => false
  | .singular m _, w => match w with | .singular n _ => m = n | _ => false
  | v, w => sameQuantity v w

/-- Whether two sequences have the same keys. -/
def sameKeys : List Value → List Value → Bool
  | [], ys => ys.isEmpty
  | x :: xs, ys =>
    match ys with
    | [] => false
    | y :: ys => sameKey x y && sameKeys xs ys

/-- Whether every entry has the same entry among the others. -/
def sameEntries : List (Value × Value) → List (Value × Value) → Bool
  | [], _ => true
  | (k, v) :: rest, ys =>
    (match ys.find? fun e => sameKey k e.1 with
      | some e => sameKey v e.2
      | none => false) && sameEntries rest ys

end

@[simp] theorem sameKey_text (s t : String) : sameKey (.text s) (.text t) = decide (s = t) := by
  simp [sameKey]

mutual

/-- Whether the value can be a key: it and all its parts are unchangeable. -/
def isHashable : Value → Bool
  | .list _ => false
  | .map kind _ => kind = .sealed
  | .array _ => false
  | .tuple xs => allHashable xs
  | .contribution xs => allHashable xs
  | .undefined u => u.lenient
  | .view kind _ => kind = .values
  | .singular _ v => isHashable v
  | _ => true

/-- Whether all values can be keys. -/
def allHashable : List Value → Bool
  | [] => true
  | x :: xs => isHashable x && allHashable xs

end

end Value

end ShaderLoom
