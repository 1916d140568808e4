import ShaderLoom.Value.Sorting

/-!
# Digests of values

A digest is what remains of a value when it serves as a key: values that agree have one digest. A
number is reduced modulo a prime, so that all representations of one number get one digest. The
digest of a sealed map is made of the digests of its sorted keys and their values, so that the
insertion order leaves no trace.
-/

namespace ShaderLoom

open Number

/-- What remains of a value that serves as a key. -/
inductive Digest where
  | number (n : Int)
  | text (s : String)
  | null
  | identity (kind : Nat) (id : Nat)
  | sequence (parts : List Digest)
  | mapping (parts : List Digest)
  /-- The digest of a missing number, which agrees with no other one. -/
  | unique

/-- The prime modulus of numeric digests. -/
def digestModulus : Nat := Nat.pow 2 61 - 1

/-- The digest that stands in for minus one, which is reserved. -/
def settle (n : Int) : Int := if n = -1 then -2 else n

/-- The digest of a rational number with a power of two below the line: the quotient modulo the
prime, with the sign of the number. -/
def rationalDigest (q : Rat) : Int :=
  let halvings := Nat.log2 q.den % 61
  let inverse := Nat.pow 2 ((61 - halvings) % 61)
  let magnitude : Nat := q.num.natAbs * inverse % digestModulus
  settle (if q.num < 0 then -(magnitude : Int) else magnitude)

/-- The digest of a quantity, if it has one. -/
def quantityDigest? : Quantity → Option Int
  | .finite q => some (rationalDigest q)
  | .infinite negative => some (if negative then -314159 else 314159)
  | .missing => none

/-- The digest of a quantity. -/
def quantityDigest (q : Quantity) : Digest :=
  match quantityDigest? q with
  | some n => .number n
  | none => .unique

/-- The integer that a word of 64 bits stores for an integer. -/
def wrap64 (n : Int) : Int := IntWidth.int64.wrap n

/-- The digest of a complex number. -/
def complexDigest (re im : Float) : Digest :=
  match quantityDigest? (.ofDouble re), quantityDigest? (.ofDouble im) with
  | some a, some b => .number (settle (wrap64 (a + 1000003 * b)))
  | _, _ => .unique

/-- The digest of a text; the empty text has the digest of zero. -/
def textDigest (s : String) : Digest := if s = "" then .number 0 else .text s

/-- The digest of a map with the given digests of keys and values. -/
def mappingDigest (parts : List Digest) : Digest :=
  if parts.isEmpty then .number 0 else .mapping parts

/-- The digest of a range: its length, its start if it has a member, and its step if it has two. -/
def rangeDigest (start stop step : Int) : List Digest :=
  let n := rangeLength start stop step
  [.number n, if n = 0 then .null else .number start, if n ≤ 1 then .null else .number step]

namespace Value

mutual

/-- The digest of a value. Lists, maps that can be changed and arrays have none, nor has a sealed
map whose keys have no common order. -/
def digest? : Value → Answer Digest
  | .null => .ok .null
  | .bool b => .ok (.number b.toInt)
  | .int n => .ok (quantityDigest (.ofInt n))
  | .float x => .ok (quantityDigest (.ofDouble x))
  | .complex re im => .ok (complexDigest re im)
  | .complexScalar _ re im => .ok (complexDigest re im)
  | .scalar s => .ok (quantityDigest s.quantity)
  | .text s => .ok (textDigest s)
  | .tuple xs => do .ok (.sequence (← digestAll? xs))
  | .contribution xs => do .ok (.sequence (← digestAll? xs))
  | .moduleRef m => .ok (.identity 0 m.id)
  | .functionRef f => .ok (.identity 1 f.id)
  | .map kind es =>
    if kind = .sealed then do
      let sorted ← sortByValue (·.1) (digestEntries es)
      let parts ← sorted.mapM (·.2)
      .ok (mappingDigest parts.flatten)
    else .error .unsupported
  | .range a b c => .ok (.sequence (rangeDigest a b c))
  | .singular m _ => .ok (.identity 2 m)
  | _ => .error .unsupported

/-- The digests of the members of a sequence. -/
def digestAll? : List Value → Answer (List Digest)
  | [] => .ok []
  | x :: xs => do
    let d ← digest? x
    let ds ← digestAll? xs
    .ok (d :: ds)

/-- The keys of a map, each with its digest and that of its value. -/
def digestEntries : List (Value × Value) → List (Value × Answer (List Digest))
  | [] => []
  | (k, v) :: rest =>
    let digests : Answer (List Digest) := do
      let dk ← digest? k
      let dv ← digest? v
      .ok [dk, dv]
    (k, digests) :: digestEntries rest

end

end Value

mutual

/-- Whether two digests agree. -/
def Digest.agrees : Digest → Digest → Bool
  | .number a, e => match e with | .number b => a = b | _ => false
  | .text s, e => match e with | .text t => s = t | _ => false
  | .null, e => match e with | .null => true | _ => false
  | .identity k i, e => match e with | .identity l j => k = l && i = j | _ => false
  | .sequence ds, e => match e with | .sequence es => Digest.agreeAll ds es | _ => false
  | .mapping ds, e => match e with | .mapping es => Digest.agreeAll ds es | _ => false
  | .unique, _ => false

/-- Whether two lists of digests agree member by member. -/
def Digest.agreeAll : List Digest → List Digest → Bool
  | [], es => es.isEmpty
  | d :: ds, es =>
    match es with
    | [] => false
    | e :: es => Digest.agrees d e && Digest.agreeAll ds es

end

end ShaderLoom
