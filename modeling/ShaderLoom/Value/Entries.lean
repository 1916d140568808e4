import ShaderLoom.Value.Agreement

/-!
# Maps in insertion order

A map is the list of its entries. Putting a value under a key that is present replaces the value and
keeps the key at its place; a new key goes to the end. The laws say what a look-up finds afterwards.
-/

namespace ShaderLoom

namespace Entries

open Value

/-- The value under a key. -/
def get? (es : Entries) (k : Value) : Option Value :=
  (es.find? fun e => e.1.sameKey k).map (·.2)

/-- The value under a text key. -/
def getText? (es : Entries) (s : String) : Option Value := es.get? (.text s)

/-- Whether there is an entry under the key. -/
def has (es : Entries) (k : Value) : Bool := es.any fun e => e.1.sameKey k

/-- Put a value under a key. -/
def put : Entries → Value → Value → Entries
  | [], k, v => [(k, v)]
  | e :: es, k, v => if e.1.sameKey k then (e.1, v) :: es else e :: put es k v

/-- Put all entries of a list, from first to last. -/
def putAll (es new : Entries) : Entries := new.foldl (fun es e => es.put e.1 e.2) es

/-- The map that has the given entries, later ones winning. -/
def ofList (new : Entries) : Entries := putAll [] new

/-- Remove the entry under a key. -/
def erase (es : Entries) (k : Value) : Entries := es.filter fun e => !e.1.sameKey k

/-- The keys, in insertion order. -/
def keys (es : Entries) : List Value := es.map (·.1)

/-- The values, in insertion order. -/
def values (es : Entries) : List Value := es.map (·.2)

theorem sameKey_text_iff {v : Value} {s : String} : v.sameKey (.text s) = true ↔ v = .text s := by
  cases v <;> simp [sameKey, sameQuantity, complexQuantity?]

@[simp] theorem get?_cons (e : Value × Value) (es : Entries) (k : Value) :
    Entries.get? (e :: es) k = if e.1.sameKey k then some e.2 else es.get? k := by
  unfold get?
  rw [List.find?_cons]
  cases e.1.sameKey k <;> simp

/-- What was put under a key is found under it. -/
theorem get?_put_self {k : Value} (hk : k.sameKey k = true) (es : Entries) (v : Value) :
    (es.put k v).get? k = some v := by
  induction es with
  | nil => simp [put, hk]
  | cons e es ih =>
    by_cases he : e.1.sameKey k = true
    · simp [put, he]
    · simp [put, he, ih]

@[simp] theorem getText?_put_self (es : Entries) (s : String) (v : Value) :
    (es.put (.text s) v).getText? s = some v :=
  get?_put_self (sameKey_text_iff.2 rfl) es v

/-- What is found under another text key does not change. -/
theorem getText?_put_of_ne {s t : String} (h : s ≠ t) (es : Entries) (v : Value) :
    (es.put (.text s) v).getText? t = es.getText? t := by
  have hst : (Value.text s).sameKey (.text t) = false := by simp [h]
  unfold getText?
  induction es with
  | nil => simp [put, hst]
  | cons e es ih =>
    by_cases he : e.1.sameKey (.text s) = true
    · have hes : e.1 = .text s := sameKey_text_iff.1 he
      have het : e.1.sameKey (.text t) = false := by rw [hes, hst]
      simp [put, he, het]
    · simp [put, he, ih]

@[simp] theorem putAll_nil (es : Entries) : es.putAll [] = es := rfl

@[simp] theorem putAll_cons (es new : Entries) (e : Value × Value) :
    es.putAll (e :: new) = (es.put e.1 e.2).putAll new := rfl

theorem putAll_append (es a b : Entries) : es.putAll (a ++ b) = (es.putAll a).putAll b := by
  simp [putAll, List.foldl_append]

theorem length_put_le (es : Entries) (k v : Value) : (es.put k v).length ≤ es.length + 1 := by
  induction es with
  | nil => simp [put]
  | cons e es ih =>
    unfold put
    split
    · simp
    · simpa using ih

end Entries

end ShaderLoom
