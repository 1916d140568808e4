import ShaderLoom.Template.Attribute
import ShaderLoom.Text.Case

/-!
# Methods and functions

What can be called: the methods of texts, maps and sequences, ranges, and the making of maps. Most
parameters can only be given by position. A method that changes a map gives the entries that the map
has from then on.
-/

namespace ShaderLoom.Template

open Number

/-! ## Arguments -/

/-- The evaluated arguments of a call. -/
structure CallArguments where
  args : List Value := []
  named : List (String × Value) := []

namespace CallArguments

/-- The values of some parameters, in their order; a parameter without a default has to be given. -/
def bind (a : CallArguments) (parameters : List (String × Option Value)) : Answer (List Value) :=
  let known := parameters.map (·.1)
  if parameters.length < a.args.length then .error .unsupported
  else if !(a.named.all fun e => known.contains e.1) then .error .unsupported
  else
    (parameters.zipIdx).mapM fun ((name, default), i) =>
      match a.args[i]?, a.named.lookup name with
      | some _, some _ => .error .unsupported
      | some v, none => .ok v
      | none, some v => .ok v
      | none, none =>
        match default with
        | some v => .ok v
        | none => .error .unsupported

end CallArguments

/-- The text that a value has to be. -/
def needText : Value → Answer String
  | .text s => .ok s
  | _ => .error .unsupported

/-- The integer that a value has to be. -/
def needIndex (v : Value) : Answer Int :=
  match v.index? with
  | some n => .ok n
  | none => .error .unsupported

/-- A text as a value. -/
def charsValue (cs : List Char) : Value := .text (String.ofList cs)

/-- The test for characters that are trimmed: blank ones, or those of a text. -/
def trimTest : Value → Answer (Char → Bool)
  | .null => .ok Text.isBlank
  | .text s => .ok fun c => s.toList.contains c
  | _ => .error .unsupported

/-- Drop characters at the ends. -/
def trimBy (p : Char → Bool) (front back : Bool) (cs : List Char) : List Char :=
  let cs := if front then cs.dropWhile p else cs
  if back then (cs.reverse.dropWhile p).reverse else cs

/-- The first character in upper case and the others in lower case. -/
def capitalized (cs : List Char) : List Char :=
  match cs with
  | [] => []
  | c :: rest => Text.headChars c ++ Text.lowerAfter [c] rest

/-- The limit of replacements or cuts in a text that a value means; a negative one means no limit. -/
def limitOf (v : Value) (cs : List Char) : Answer Nat := do
  let n ← needIndex v
  if !Value.isCount n then .error .overflow
  else .ok (if n < 0 then cs.length + 1 else n.toNat)

/-- The pieces between runs of blank characters, at most `limit` cuts being made. -/
def splitBlanks : Nat → Nat → List Char → List (List Char)
  | 0, _, _ => []
  | fuel + 1, limit, cs =>
    let cs := Text.trimLeft cs
    if cs = [] then []
    else
      match limit with
      | 0 => [Text.trimRight cs]
      | limit + 1 =>
        cs.takeWhile (!Text.isBlank ·) :: splitBlanks fuel limit (cs.dropWhile (!Text.isBlank ·))

/-- The pieces between the occurrences of a text, at most `limit` cuts being made. -/
def splitText (sep : List Char) : Nat → List Char → List (List Char)
  | 0, cs => [cs]
  | limit + 1, cs =>
    match Text.splitAtFirst sep cs with
    | some (before, rest) => before :: splitText sep limit rest
    | none => [cs]

/-- The number of occurrences of a text that do not overlap. -/
def countText (target : List Char) (cs : List Char) : Nat :=
  (splitText target (cs.length + 1) cs).length - 1

/-- Whether a text is one of some fronts or ends. -/
def matchesAny (test : List Char → Bool) : Value → Answer Bool
  | .text s => .ok (test s.toList)
  | .tuple xs =>
    xs.foldlM (fun found x => do if found then .ok true else .ok (test (← needText x).toList)) false
  | _ => .error .unsupported

/-- The texts of the members of a value, which all have to be texts. -/
def memberTexts (v : Value) : Answer (List String) := do (← v.members).mapM needText

/-- Refuse arguments that are given by name. -/
def CallArguments.needPositional (a : CallArguments) : Answer Unit :=
  if a.named.isEmpty then .ok () else .error .unsupported

/-- Call a method of a text. -/
def callText (s : String) (name : String) (a : CallArguments) : Answer Value := do
  let cs := s.toList
  if name ≠ "split" then a.needPositional
  let plain (v : Value) : Answer Value := do
    let _ ← a.bind []
    .ok v
  let trimmed (front back : Bool) : Answer Value := do
    match ← a.bind [("chars", some .null)] with
    | [chars] => .ok (charsValue (trimBy (← trimTest chars) front back cs))
    | _ => .error .unsupported
  match name with
  | "upper" => plain (charsValue (Text.upper cs))
  | "lower" => plain (charsValue (Text.lower cs))
  | "capitalize" => plain (charsValue (capitalized cs))
  | "isdigit" => plain (.bool (!cs.isEmpty && cs.all Text.isDigitLike))
  | "strip" => trimmed true true
  | "lstrip" => trimmed true false
  | "rstrip" => trimmed false true
  | "replace" =>
    match ← a.bind [("old", none), ("new", none), ("count", some (.int (-1)))] with
    | [old, new, count] => do
      let old ← needText old
      let new ← needText new
      .ok (charsValue (Text.replaceUpTo (← limitOf count cs) old.toList new.toList cs))
    | _ => .error .unsupported
  | "split" =>
    match ← a.bind [("sep", some .null), ("maxsplit", some (.int (-1)))] with
    | [sep, count] => do
      let limit ← limitOf count cs
      match sep with
      | .null => .ok (.list ((splitBlanks (cs.length + 1) limit cs).map charsValue))
      | .text "" => .error .invalid
      | .text t => .ok (.list ((splitText t.toList limit cs).map charsValue))
      | _ => .error .unsupported
    | _ => .error .unsupported
  | "join" =>
    match ← a.bind [("iterable", none)] with
    | [v] => .ok (.text (joinTexts s (← memberTexts v)))
    | _ => .error .unsupported
  | "startswith" =>
    match ← a.bind [("prefix", none)] with
    | [v] => .ok (.bool (← matchesAny (fun t => t.isPrefixOf cs) v))
    | _ => .error .unsupported
  | "endswith" =>
    match ← a.bind [("suffix", none)] with
    | [v] => .ok (.bool (← matchesAny (fun t => t.isSuffixOf cs) v))
    | _ => .error .unsupported
  | "find" =>
    match ← a.bind [("sub", none)] with
    | [v] => do
      let t ← needText v
      .ok (.int (((Text.position? t.toList cs).map Int.ofNat).getD (-1)))
    | _ => .error .unsupported
  | "count" =>
    match ← a.bind [("sub", none)] with
    | [v] => do
      let t ← needText v
      .ok (.int (if t = "" then cs.length + 1 else countText t.toList cs))
    | _ => .error .unsupported
  | _ => .error .unsupported

/-! ## Maps -/

/-- What a method of a map gives: its result, and the entries of the map if they have changed. -/
structure MapOutcome where
  result : Value
  changed : Option Entries := none

/-- The entries that are put into a map: those of a map or the pairs of a sequence, and named
ones. -/
def givenEntries (a : CallArguments) : Answer Entries := do
  let given ←
    match a.args with
    | [] => .ok []
    | [v] => v.entriesOf
    | _ => .error .unsupported
  .ok (given ++ a.named.map fun e => (Value.text e.1, e.2))

/-- Call a method of a map. -/
def callMap (map : Value) (name : String) (a : CallArguments) : Answer MapOutcome := do
  let es := map.entries
  let plain (v : Value) : Answer MapOutcome := do
    let _ ← a.bind []
    .ok ⟨v, none⟩
  let byKey : Answer (Value × Value) := do
    a.needPositional
    match ← a.bind [("key", none), ("default", some .null)] with
    | [k, d] => do
      k.needKey
      .ok (k, d)
    | _ => .error .unsupported
  match name with
  | "items" => plain (.view .items map)
  | "keys" => plain (.view .keys map)
  | "values" => plain (.view .values map)
  | "copy" => plain (.map .plain es)
  | "get" => do
    let (k, d) ← byKey
    .ok ⟨(Entries.get? es k).getD d, none⟩
  | "pop" =>
    match a.named, a.args with
    | [], k :: rest => do
      if 1 < rest.length then .error .unsupported
      else
        k.needKey
        match Entries.get? es k, rest with
        | some v, _ => .ok ⟨v, some (Entries.erase es k)⟩
        | none, d :: _ => .ok ⟨d, none⟩
        | none, [] => .error .missingKey
    | _, _ => .error .unsupported
  | "setdefault" => do
    let (k, d) ← byKey
    match Entries.get? es k with
    | some v => .ok ⟨v, none⟩
    | none => .ok ⟨d, some (Entries.put es k d)⟩
  | "popitem" => do
    let _ ← a.bind []
    match es.getLast? with
    | some e => .ok ⟨.tuple [e.1, e.2], some es.dropLast⟩
    | none => .error .missingKey
  | "clear" => do
    let _ ← a.bind []
    .ok ⟨.null, some []⟩
  | "update" => do .ok ⟨.null, some (Entries.putAll es (← givenEntries a))⟩
  | _ => .error .unsupported

/-- The methods that change a map. -/
def changingMethods : List String := ["pop", "popitem", "clear", "setdefault", "update"]

/-- Call a method of a sealed map, which does not change. -/
def callSealedMap (map : Value) (name : String) (a : CallArguments) : Answer Value :=
  if changingMethods.contains name then .error .sealedMap
  else (callMap map name a).map (·.result)

/-! ## Sequences -/

/-- The position of the first member that agrees with a value. -/
def positionOf? (v : Value) : List Value → Nat → Answer (Option Nat)
  | [], _ => .ok none
  | x :: xs, i => do if ← Value.agrees x v then .ok (some i) else positionOf? v xs (i + 1)

/-- The number of members that agree with a value. -/
def countOf (v : Value) : List Value → Answer Nat
  | [] => .ok 0
  | x :: xs => do
    let agree ← Value.agrees x v
    let n ← countOf v xs
    .ok (if agree then n + 1 else n)

/-- Call a method of a list or a tuple. -/
def callSequence (xs : List Value) (name : String) (a : CallArguments) : Answer Value := do
  a.needPositional
  match name with
  | "copy" => do
    let _ ← a.bind []
    .ok (.list xs)
  | "index" =>
    match ← a.bind [("value", none)] with
    | [v] => do
      match ← positionOf? v xs 0 with
      | some i => .ok (.int i)
      | none => .error .invalid
    | _ => .error .unsupported
  | "count" =>
    match ← a.bind [("value", none)] with
    | [v] => do .ok (.int (← countOf v xs))
    | _ => .error .unsupported
  | _ => .error .unsupported

/-! ## Functions -/

/-- The range that arguments ask for. -/
def callRange (a : CallArguments) : Answer Value := do
  a.needPositional
  match ← a.args.mapM needIndex with
  | [stop] => .ok (.range 0 stop 1)
  | [start, stop] => .ok (.range start stop 1)
  | [start, stop, step] => if step = 0 then .error .invalid else .ok (.range start stop step)
  | _ => .error .unsupported

/-- The map that arguments ask for. -/
def callDict (a : CallArguments) : Answer Value := do
  .ok (.map .plain (Entries.ofList (← givenEntries a)))

/-- The functions that every template has. -/
def globals : List (String × Value) :=
  [("range", .method .null "range"), ("dict", .method .null "dict")]

/-- Functions that were handed in, by what they give for arguments. -/
abbrev CallableFunctions := FunctionRef → CallArguments → Answer Value

/-- Call a value, unless it is a method of a map that can be changed. -/
def callValue (functions : CallableFunctions) (f : Value) (a : CallArguments) : Answer Value :=
  match f with
  | .undefined u => .error (.undefinedUse u.message)
  | .method .null "range" => callRange a
  | .method .null "dict" => callDict a
  | .method (.text s) name => callText s name a
  | .method (.map kind es) name => callSealedMap (.map kind es) name a
  | .method (.list xs) name => callSequence xs name a
  | .method (.tuple xs) name => callSequence xs name a
  | .functionRef f => functions f a
  | _ => .error .unsupported

end ShaderLoom.Template
