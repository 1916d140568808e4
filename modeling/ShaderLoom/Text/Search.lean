import ShaderLoom.Text.Blank

/-!
# Searching and cutting texts

Texts are lists of characters here. `splitAtFirst` is the one search from which the others are
made: it gives what stands before and after the first occurrence of a text, and its law says that
nothing is lost (`splitAtFirst_eq_some`).
-/

namespace ShaderLoom.Text

/-- What follows the given front, if the text starts with it. -/
def afterFront? : List Char → List Char → Option (List Char)
  | [], cs => some cs
  | _ :: _, [] => none
  | f :: front, c :: cs => if f = c then afterFront? front cs else none

theorem eq_append_of_afterFront? {front cs rest : List Char}
    (h : afterFront? front cs = some rest) : cs = front ++ rest := by
  induction front generalizing cs with
  | nil => simpa [afterFront?] using h
  | cons f front ih =>
    cases cs with
    | nil => simp [afterFront?] at h
    | cons c cs =>
      by_cases hc : f = c
      · simp only [afterFront?, hc, if_true] at h
        simp [hc, ih h]
      · simp [afterFront?, hc] at h

theorem suffix_of_afterFront? {front cs rest : List Char} (h : afterFront? front cs = some rest) :
    rest <:+ cs :=
  ⟨front, (eq_append_of_afterFront? h).symm⟩

@[simp] theorem afterFront?_append (front rest : List Char) :
    afterFront? front (front ++ rest) = some rest := by
  induction front with
  | nil => rfl
  | cons f front ih => simp [afterFront?, ih]

theorem isPrefixOf_eq_isSome_afterFront? (front cs : List Char) :
    front.isPrefixOf cs = (afterFront? front cs).isSome := by
  induction front generalizing cs with
  | nil => simp [afterFront?]
  | cons f front ih =>
    cases cs with
    | nil => rfl
    | cons c cs => by_cases hc : f = c <;> simp [afterFront?, List.isPrefixOf, hc, ih]

/-- What stands before and after the first occurrence of a text. -/
def splitAtFirst (target : List Char) : List Char → Option (List Char × List Char)
  | [] => if target = [] then some ([], []) else none
  | c :: cs =>
    match afterFront? target (c :: cs) with
    | some rest => some ([], rest)
    | none => (splitAtFirst target cs).map fun cut => (c :: cut.1, cut.2)

theorem splitAtFirst_eq_some {target cs before rest : List Char}
    (h : splitAtFirst target cs = some (before, rest)) : cs = before ++ target ++ rest := by
  induction cs generalizing before with
  | nil =>
    by_cases ht : target = []
    · simp [splitAtFirst, ht] at h
      simp [ht, h]
    · simp [splitAtFirst, ht] at h
  | cons c cs ih =>
    simp only [splitAtFirst] at h
    split at h
    · next r hr =>
      obtain ⟨rfl, rfl⟩ : [] = before ∧ r = rest := by simpa using h
      simpa using eq_append_of_afterFront? hr
    · obtain ⟨⟨b, r⟩, hb, hcut⟩ := Option.map_eq_some_iff.1 h
      obtain ⟨rfl, rfl⟩ : c :: b = before ∧ r = rest := by simpa using hcut
      simp [ih hb]

/-- Whether the text occurs. -/
def occurs (target cs : List Char) : Bool := (splitAtFirst target cs).isSome

/-- The position of the first occurrence. -/
def position? (target cs : List Char) : Option Nat :=
  (splitAtFirst target cs).map (·.1.length)

/-- Replace the first occurrence, if there is one. -/
def replaceFirst (target new cs : List Char) : List Char :=
  match splitAtFirst target cs with
  | some (before, rest) => before ++ new ++ rest
  | none => cs

/-- Replace at most `limit` occurrences of a nonempty text, from left to right without overlap,
after skipping `skip` characters that belong to an occurrence already replaced. -/
def replaceFrom (target new : List Char) : Nat → Nat → List Char → List Char
  | _, _, [] => []
  | limit, skip + 1, _ :: cs => replaceFrom target new limit skip cs
  | 0, 0, c :: cs => c :: cs
  | limit + 1, 0, c :: cs =>
    if target.isPrefixOf (c :: cs) then
      new ++ replaceFrom target new limit (target.length - 1) cs
    else c :: replaceFrom target new (limit + 1) 0 cs

/-- Put a text between all characters and at both ends, at most `limit` times. -/
def interleave (new : List Char) : Nat → List Char → List Char
  | 0, cs => cs
  | _ + 1, [] => new
  | limit + 1, c :: cs => new ++ c :: interleave new limit cs

/-- Replace at most `limit` occurrences. The empty text occurs around every character. -/
def replaceUpTo (limit : Nat) (target new cs : List Char) : List Char :=
  if target = [] then interleave new limit cs else replaceFrom target new limit 0 cs

/-- Replace all occurrences. -/
def replaceAll (target new cs : List Char) : List Char :=
  replaceUpTo (cs.length + 1) target new cs

/-- Delete all occurrences of a text. -/
def removeAll (target cs : List Char) : List Char := replaceAll target [] cs

theorem replaceFrom_of_not_occurs {target cs : List Char} (new : List Char) (limit : Nat)
    (h : occurs target cs = false) : replaceFrom target new limit 0 cs = cs := by
  induction cs generalizing limit with
  | nil => cases limit <;> rfl
  | cons c cs ih =>
    simp only [occurs, splitAtFirst] at h
    split at h
    · simp at h
    · next hf =>
      cases limit with
      | zero => rfl
      | succ limit =>
        have hp : target.isPrefixOf (c :: cs) = false := by
          simp [isPrefixOf_eq_isSome_afterFront?, hf]
        simp only [replaceFrom, hp, Bool.false_eq_true, if_false]
        rw [ih]
        simpa [occurs] using h

/-- Nothing is deleted from a text without the target. -/
theorem removeAll_of_not_occurs {target cs : List Char} (h : occurs target cs = false) :
    removeAll target cs = cs := by
  have hne : target ≠ [] := by
    rintro rfl
    cases cs <;> simp [occurs, splitAtFirst, afterFront?] at h
  simp [removeAll, replaceAll, replaceUpTo, hne, replaceFrom_of_not_occurs _ _ h]

/-- The pieces between the occurrences of a character. -/
def splitOn (sep : Char) : List Char → List (List Char)
  | [] => [[]]
  | c :: cs =>
    if c = sep then [] :: splitOn sep cs
    else
      match splitOn sep cs with
      | [] => [[c]]
      | piece :: pieces => (c :: piece) :: pieces

/-- Pieces with a separator between each two. -/
def joinWith (sep : List Char) : List (List Char) → List Char
  | [] => []
  | [piece] => piece
  | piece :: pieces => piece ++ sep ++ joinWith sep pieces

theorem joinWith_splitOn (sep : Char) (cs : List Char) :
    joinWith [sep] (splitOn sep cs) = cs := by
  induction cs with
  | nil => rfl
  | cons c cs ih =>
    simp only [splitOn]
    have hne : splitOn sep cs ≠ [] := by
      cases cs with
      | nil => simp [splitOn]
      | cons d ds =>
        simp only [splitOn]
        split
        · simp
        · split <;> simp
    split
    · next hc =>
      subst hc
      cases hs : splitOn c cs with
      | nil => exact absurd hs hne
      | cons p ps => rw [hs] at ih; simp [joinWith, ih]
    · cases hs : splitOn sep cs with
      | nil => exact absurd hs hne
      | cons p ps =>
        rw [hs] at ih
        cases ps with
        | nil => simpa [joinWith] using ih
        | cons q qs => simpa [joinWith] using ih

/-- Cut at the first occurrence of a character, which belongs to neither part. Without an
occurrence the second part is empty. -/
def cutAt (sep : Char) (cs : List Char) : List Char × List Char :=
  (cs.takeWhile (· ≠ sep), (cs.dropWhile (· ≠ sep)).drop 1)

theorem cutAt_append {sep : Char} {front : List Char} (h : sep ∉ front) (rest : List Char) :
    cutAt sep (front ++ sep :: rest) = (front, rest) := by
  induction front with
  | nil => simp [cutAt]
  | cons c cs ih =>
    have hc : c ≠ sep := fun e => h (by simp [e])
    have := ih fun hm => h (List.mem_cons_of_mem _ hm)
    simp_all [cutAt]

/-- Drop a character as often as it stands at the end. -/
def dropTrailing (c : Char) (cs : List Char) : List Char :=
  (cs.reverse.dropWhile (· = c)).reverse

@[simp] theorem dropTrailing_concat (c : Char) (cs : List Char) :
    dropTrailing c (cs ++ [c]) = dropTrailing c cs := by
  simp [dropTrailing]

theorem dropTrailing_of_getLast?_ne {c : Char} {cs : List Char} (h : cs.getLast? ≠ some c) :
    dropTrailing c cs = cs := by
  rw [← List.head?_reverse] at h
  unfold dropTrailing
  cases hr : cs.reverse with
  | nil => simpa using congrArg List.reverse hr.symm
  | cons d ds =>
    have hd : d ≠ c := by simpa [hr] using h
    rw [List.dropWhile_cons_of_neg (by simpa using hd), ← hr, List.reverse_reverse]

/-- Whether the text ends with a character. -/
def endsWith (c : Char) (cs : List Char) : Bool := cs.getLast? = some c

end ShaderLoom.Text
