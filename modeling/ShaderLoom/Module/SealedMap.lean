import ShaderLoom.Value.Digest
import ShaderLoom.Value.Access
import ShaderLoom.Failure

/-!
# Sealed maps

A sealed map refuses the operations that would change it, and keeps the digest that it had when it
was made. To be sealed, a map needs keys with a common order and values that can serve as keys.
-/

namespace ShaderLoom

/-- A map with the digest that it had when it was made. -/
structure SealedMap where
  /-- The entries, in insertion order. -/
  entries : Entries
  /-- The digest of the entries at the time the map was made. -/
  digest : Digest

namespace SealedMap

/-- Seal the map that has the given entries. -/
def ofEntries (es : Entries) : Answer SealedMap := do
  let es := Entries.ofList es
  .ok ⟨es, ← (Value.map .sealed es).digest?⟩

/-- Seal what a value is read as: a map, or a sequence of pairs. -/
def ofValue (v : Value) : Answer SealedMap := do ofEntries (← v.entriesOf)

/-- The map as a value. -/
def toValue (m : SealedMap) : Value := .map .sealed m.entries

/-- Whether two sealed maps have the same entries, in whatever order. -/
def equal (a b : SealedMap) : Answer Bool := a.toValue.equal b.toValue

/-- The operations that are offered by a map. -/
inductive Operation where
  | get (key : Value)
  | setItem (key value : Value)
  | deleteItem (key : Value)
  | update
  | clear
  | pop
  | popItem
  | setDefault
  | copy
  | length
  | contains (key : Value)
  | keys
  | values
  | items
  | lookup (key default : Value)
  /-- Put the entries of a value into the map in place; where the value cannot be read to its end,
  the entries before the failure are put. -/
  | merge (other : Value)
  /-- A fresh map with the entries of this one and of a value. -/
  | union (other : Value)

/-- Apply an operation: its result and the map afterwards. -/
def apply (m : SealedMap) : Operation → Answer Value × SealedMap
  | .get key => (m.toValue.item key, m)
  | .setItem _ _ => (.error .sealedMap, m)
  | .deleteItem _ => (.error .sealedMap, m)
  | .update => (.error .sealedMap, m)
  | .clear => (.error .sealedMap, m)
  | .pop => (.error .sealedMap, m)
  | .popItem => (.error .sealedMap, m)
  | .setDefault => (.error .sealedMap, m)
  | .copy => (.ok (.map .plain m.entries), m)
  | .length => (.ok (.int m.entries.length), m)
  | .contains key => ((m.toValue.holds key).map .bool, m)
  | .keys => (.ok (.view .keys m.toValue), m)
  | .values => (.ok (.view .values m.toValue), m)
  | .items => (.ok (.view .items m.toValue), m)
  | .lookup key default =>
    (if key.isHashable then .ok ((Entries.get? m.entries key).getD default)
      else .error .unsupported, m)
  | .merge other =>
    let (es, outcome) := other.readEntries
    let m := { m with entries := Entries.putAll m.entries es }
    (outcome.map fun _ => m.toValue, m)
  | .union other =>
    match other with
    | .map _ es => (.ok (.map .plain (Entries.putAll m.entries es)), m)
    | _ => (.error .unsupported, m)

/-- The entries that an operation puts into the map. -/
def Operation.brings : Operation → Entries
  | .merge other => other.readEntries.1
  | _ => []

/-- All that an operation does to a map is to put entries into it. -/
theorem apply_entries (m : SealedMap) (op : Operation) :
    (m.apply op).2.entries = Entries.putAll m.entries op.brings := by
  cases op with
  | union other => cases other <;> rfl
  | _ => rfl

@[simp] theorem apply_digest (m : SealedMap) (op : Operation) :
    (m.apply op).2.digest = m.digest := by
  cases op with
  | union other => cases other <;> rfl
  | _ => rfl

/-- A sealed map has no attributes that can be set. -/
def assign (_ : SealedMap) (_ : String) : Answer Unit := .error .missingAttribute

end SealedMap

end ShaderLoom
