import ShaderLoom.Proofs.Cache.Transparency

/-!
# When results are used again

A run of an assembler is observed from outside: of each call it is known whether the cache was in
use, what key the call had if it got as far as the look-up, and what it gave. From this it can be
said which object was stored last under a key (`lastStored`). The invariant of a run is that the
cache finds under every key the object that was stored last, as long as it is alive
(`Shelf.Tracks`); overwritten entries, entries whose objects have gone, times in which the cache was
off and calls that fail are all covered by it.

The collaborators of an assembler, such as its transpiler, need not behave in the same way at every
call, so that one of two calls with the same key may fail: each turn of a run has an assembler of
its own.
-/

namespace ShaderLoom

/-! ## Runs and what is observed of them -/

/-- An event, with the assembler as it is at the time. -/
structure Turn where
  assembler : Assembler
  event : Event

/-- What is seen of a call from outside. -/
structure Visit where
  /-- Whether the cache was in use at the call. -/
  isEnabled : Bool
  /-- The key, if the call got as far as the look-up. -/
  key? : Option String
  result : Result (Shared Program)

/-- The call looked its key up in a cache in use. -/
def Visit.looksUp (v : Visit) : Bool := v.isEnabled && v.key?.isSome

/-- The call gave an object with the identity. -/
def Visit.Gives (v : Visit) (id : ℕ) : Prop := ∃ o, v.result = .ok o ∧ o.id = id

instance (v : Visit) (id : ℕ) : Decidable (v.Gives id) :=
  match h : v.result with
  | .ok o => decidable_of_iff (o.id = id) (by simp [Visit.Gives, h])
  | .error e => .isFalse (by simp [Visit.Gives, h])

/-- The object that was stored last under a key, given the calls from last to first: what a call
with the key gave while the cache was in use, and no call before it had given. -/
def lastStored (key : String) : List Visit → Option (Shared Program)
  | [] => none
  | v :: past =>
    match v.result with
    | .ok o =>
      if v.isEnabled = true ∧ v.key? = some key ∧ ∀ w ∈ past, ¬ w.Gives o.id then some o
      else lastStored key past
    | .error _ => lastStored key past

/-- A call as it is seen from outside. -/
def Session.visit (a : Assembler) (s : Session) (c : Call) : Visit where
  isEnabled := s.shelf.cache.isEnabled
  key? := (c.reading a).toOption.map (·.key)
  result := (s.answer a c).1

namespace Turn

/-- Go on by one turn. -/
def step (t : Turn) (s : Session) : Session := s.step t.assembler t.event

/-- The call of a turn, if it is one, as it is seen from outside. -/
def visit? (t : Turn) (s : Session) : Option Visit := t.event.call?.map (s.visit t.assembler)

end Turn

namespace Session

/-- Go on by turns, from first to last. -/
def runTurns (s : Session) (turns : List Turn) : Session := turns.foldl (fun s t => t.step s) s

/-- The calls of a run, from first to last. -/
def visits (s : Session) : List Turn → List Visit
  | [] => []
  | t :: turns => (t.visit? s).toList ++ visits (t.step s) turns

@[simp] lemma runTurns_nil (s : Session) : s.runTurns [] = s := rfl

@[simp] lemma runTurns_cons (s : Session) (t : Turn) (turns : List Turn) :
    s.runTurns (t :: turns) = (t.step s).runTurns turns := rfl

lemma runTurns_append (s : Session) (turns turns' : List Turn) :
    s.runTurns (turns ++ turns') = (s.runTurns turns).runTurns turns' :=
  List.foldl_append ..

end Session

/-! ## Entries with keys of their own -/

namespace Cache

variable {α : Type}

/-- The cache after a look-up that found nothing. -/
def missed (c : Cache α) : Cache α :=
  if c.isEnabled then { c with misses := c.misses + 1 } else c

@[simp] lemma entries_missed (c : Cache α) : c.missed.entries = c.entries := by
  unfold missed
  split <;> rfl

@[simp] lemma isEnabled_missed (c : Cache α) : c.missed.isEnabled = c.isEnabled := by
  unfold missed
  split <;> rfl

lemma get_fst (c : Cache α) (key : Value) :
    (c.get key).1 = if c.isEnabled = true then c.find? key else none := by
  unfold get
  split
  · cases c.find? key with
    | some o => rfl
    | none => rfl
  · rfl

lemma find?_congr {c d : Cache α} (h : c.entries = d.entries) (key : Value) :
    c.find? key = d.find? key := by
  rw [find?, find?, h]

lemma nodup_putEntry {es : List (Value × Shared Program)} (h : (es.map (·.1)).Nodup) (key : String)
    (o : Shared Program) : ((putEntry es (.text key) o).map (·.1)).Nodup := by
  induction es with
  | nil => simp [putEntry]
  | cons e es ih =>
    obtain ⟨hhead, htail⟩ := List.nodup_cons.1 h
    unfold putEntry
    split
    · exact h
    · next he =>
      refine List.nodup_cons.2 ⟨fun hmem => ?_, ih htail⟩
      obtain ⟨d, hd, hkey⟩ := List.mem_map.1 hmem
      rcases Session.mem_putEntry_text hd with hd | rfl
      · exact hhead (List.mem_map.2 ⟨d, hd, hkey⟩)
      · exact he (Entries.sameKey_text_iff.2 hkey.symm)

lemma nodup_set {c : Cache Program} (h : (c.entries.map (·.1)).Nodup) (key : String)
    (o : Shared Program) : ((c.set (.text key) o).entries.map (·.1)).Nodup := by
  unfold set
  split
  · exact nodup_putEntry h key o
  · exact h

lemma find?_set_of_ne {c : Cache α} {key key' : String} (h : key ≠ key') (o : Shared α) :
    (c.set (.text key) o).find? (.text key') = c.find? (.text key') := by
  unfold set
  split
  · simp only [find?]
    induction c.entries with
    | nil => simp [putEntry, h]
    | cons e es ih =>
      unfold putEntry
      by_cases he : e.1 = .text key
      · simp [he, h]
      · rw [if_neg (mt Entries.sameKey_text_iff.1 he)]
        by_cases he' : e.1 = .text key'
        · simp [he']
        · have hskip : e.1.sameKey (.text key') = false := 
            Bool.eq_false_iff.2 (mt Entries.sameKey_text_iff.1 he')
          simp only [List.find?_cons, hskip]
          exact ih
  · rfl

/-- After sweeping, an object is found under its key just if it is alive. -/
lemma find?_sweep {c : Cache α} (h : (c.entries.map (·.1)).Nodup) (isAlive : ℕ → Bool)
    (key : String) :
    (c.sweep isAlive).find? (.text key) = (c.find? (.text key)).filter fun o => isAlive o.id := by
  simp only [sweep, find?]
  generalize c.entries = es at h
  induction es with
  | nil => rfl
  | cons e es ih =>
    obtain ⟨hhead, htail⟩ := List.nodup_cons.1 h
    have ih := ih htail
    simp only [List.filter_cons]
    by_cases he : e.1 = .text key
    · have hfirst : e.1.sameKey (.text key) = true := Entries.sameKey_text_iff.2 he
      split
      · next halive => simp [hfirst, Option.filter_some, halive]
      · next halive =>
        -- there is no second entry under the key
        have hrest : es.find? (fun e => e.1.sameKey (.text key)) = none := by
          refine List.find?_eq_none.2 fun d hd hkey => hhead ?_
          show e.1 ∈ _
          rw [he, ← Entries.sameKey_text_iff.1 hkey]
          exact List.mem_map_of_mem hd
        rw [ih, hrest]
        simp [hfirst, Option.filter_some, halive]
    · have hskip : e.1.sameKey (.text key) = false :=
        Bool.eq_false_iff.2 (mt Entries.sameKey_text_iff.1 he)
      split
      · simpa only [List.find?_cons, hskip] using ih
      · simpa only [List.find?_cons, hskip] using ih

end Cache

/-! ## One call -/

namespace Session

/-- What a call can give, and the shelf that it leaves. -/
inductive Answered (a : Assembler) (s : Session) (c : Call) :
    Result (Shared Program) → Shelf Program → Prop
  /-- The call fails before the look-up. -/
  | unread {e : Failure} (hread : c.reading a = .error e) : Answered a s c (.error e) s.shelf
  /-- An object is found. -/
  | found {p : Plan} {o : Shared Program} (hread : c.reading a = .ok p)
      (henabled : s.shelf.cache.isEnabled = true)
      (hfind : s.shelf.cache.find? (.text p.key) = some o) :
      Answered a s c (.ok o)
        { s.shelf with cache := { s.shelf.cache with hits := s.shelf.cache.hits + 1 } }
  /-- Nothing is found, and the call fails afterwards. -/
  | unbuilt {p : Plan} {e : Failure} (hread : c.reading a = .ok p)
      (hmiss : s.shelf.cache.isEnabled = true → s.shelf.cache.find? (.text p.key) = none)
      (hbuild : (c.assembler a).building c.request p = .error e) :
      Answered a s c (.error e) { s.shelf with cache := s.shelf.cache.missed }
  /-- Nothing is found, and a new object is made and put under the key. -/
  | built {p : Plan} {program : Program} (hread : c.reading a = .ok p)
      (hmiss : s.shelf.cache.isEnabled = true → s.shelf.cache.find? (.text p.key) = none)
      (hbuild : (c.assembler a).building c.request p = .ok program) :
      Answered a s c (.ok ⟨s.shelf.nextId, program⟩)
        { s.shelf with
          cache := s.shelf.cache.missed.set (.text p.key) ⟨s.shelf.nextId, program⟩
          nextId := s.shelf.nextId + 1 }

lemma get_cases (cache : Cache Program) (key : Value) :
    (cache.isEnabled = true ∧ ∃ o, cache.find? key = some o ∧
      cache.get key = (some o, { cache with hits := cache.hits + 1 })) ∨
    ((cache.isEnabled = true → cache.find? key = none) ∧ cache.get key = (none, cache.missed)) := by
  unfold Cache.get Cache.missed
  split
  · next henabled =>
    match hfind : cache.find? key with
    | some o => exact .inl ⟨henabled, o, rfl, rfl⟩
    | none => exact .inr ⟨fun _ => rfl, rfl⟩
  · next hdisabled => exact .inr ⟨fun h => absurd h hdisabled, rfl⟩

lemma answered (a : Assembler) (s : Session) (c : Call) :
    Answered a s c (s.answer a c).1 (s.answer a c).2.1 := by
  obtain ⟨journal, heq⟩ := exists_answer_eq a s c
  rw [heq]
  match hread : c.reading a with
  | .error e => exact .unread hread
  | .ok p =>
    rcases get_cases s.shelf.cache (.text p.key) with ⟨henabled, o, hfind, hget⟩ | ⟨hmiss, hget⟩
    · simp only [hget]
      exact .found hread henabled hfind
    · simp only [hget]
      match hbuild : (c.assembler a).building c.request p with
      | .error e => exact .unbuilt hread hmiss hbuild
      | .ok program => exact .built hread hmiss hbuild

end Session

/-! ## The object that was stored last -/

section LastStored

variable {key : String} {past : List Visit} {v : Visit}

lemma Visit.gives_iff {o : Shared Program} (h : v.result = .ok o) (id : ℕ) :
    v.Gives id ↔ o.id = id := by
  simp [Visit.Gives, h]

lemma Visit.not_gives_of_error {e : Failure} (h : v.result = .error e) (id : ℕ) : ¬ v.Gives id := by
  simp [Visit.Gives, h]

/-- A call that fails stores nothing. -/
lemma lastStored_cons_of_error {e : Failure} (h : v.result = .error e) :
    lastStored key (v :: past) = lastStored key past := by
  rw [lastStored, h]

lemma lastStored_cons_of_ok {o : Shared Program} (h : v.result = .ok o) :
    lastStored key (v :: past) =
      if v.isEnabled = true ∧ v.key? = some key ∧ ∀ w ∈ past, ¬ w.Gives o.id then some o
      else lastStored key past := by
  rw [lastStored, h]

lemma exists_of_lastStored {o : Shared Program} (h : lastStored key past = some o) :
    ∃ v ∈ past, v.result = .ok o := by
  induction past with
  | nil => simp [lastStored] at h
  | cons v past ih =>
    match hv : v.result with
    | .error e =>
      rw [lastStored_cons_of_error hv] at h
      obtain ⟨w, hw, hresult⟩ := ih h
      exact ⟨w, List.mem_cons_of_mem _ hw, hresult⟩
    | .ok o' =>
      rw [lastStored_cons_of_ok hv] at h
      split at h
      · obtain rfl := Option.some.inj h
        exact ⟨v, List.mem_cons_self, hv⟩
      · obtain ⟨w, hw, hresult⟩ := ih h
        exact ⟨w, List.mem_cons_of_mem _ hw, hresult⟩

end LastStored

lemma filter_congr_of_eq_some {α : Type} {x : Option α} {p q : α → Bool}
    (h : ∀ a, x = some a → p a = q a) : x.filter p = x.filter q := by
  cases x with
  | none => rfl
  | some a => rw [Option.filter_some, Option.filter_some, h a rfl]

/-! ## The invariant -/

/-- The cache of a shelf finds under every key the object that was stored last under it, as long as
it is alive, the calls being given from last to first. -/
structure Shelf.Tracks (past : List Visit) (isAlive : ℕ → Bool) (s : Shelf Program) : Prop where
  nodup : (s.cache.entries.map (·.1)).Nodup
  placed : ∀ p ∈ s.places, p.2.id < s.nextId
  given : ∀ v ∈ past, ∀ id, v.Gives id → id < s.nextId
  found : ∀ key,
    s.cache.find? (.text key) = (lastStored key past).filter fun o => isAlive o.id

namespace Shelf

variable {past : List Visit} {held : ℕ → Bool} {s : Shelf Program}

lemma Tracks.lt_nextId_of_lastStored (h : s.Tracks past held) {key : String} {o : Shared Program}
    (ho : lastStored key past = some o) : o.id < s.nextId := by
  obtain ⟨v, hv, hresult⟩ := exists_of_lastStored ho
  exact h.given v hv o.id ⟨o, hresult, rfl⟩

/-- Only the entries of the cache matter. -/
lemma Tracks.withCache (h : s.Tracks past held) {f : Cache Program → Cache Program}
    (hf : (f s.cache).entries = s.cache.entries) : (s.withCache f).Tracks past held where
  nodup := by
    show ((f s.cache).entries.map (·.1)).Nodup
    rw [hf]
    exact h.nodup
  placed := h.placed
  given := h.given
  found := by
    intro key
    exact (Cache.find?_congr hf _).trans (h.found key)

/-- The places may change in any way that brings no object back to life. -/
lemma Tracks.settle (h : s.Tracks past held) {places : List (String × Shared Program)}
    (hplaced : ∀ p ∈ places, p.2.id < s.nextId ∧ held p.2.id = true) :
    (sweep { s with places }).Tracks past (sweep { s with places }).isAlive where
  nodup := h.nodup.sublist ((List.filter_sublist).map _)
  placed := fun p hp => (hplaced p hp).1
  given := h.given
  found := by
    intro key
    show (s.cache.sweep (isAlive { s with places })).find? (.text key) = _
    rw [Cache.find?_sweep h.nodup, h.found, Option.filter_filter]
    refine filter_congr_of_eq_some fun o _ => ?_
    -- an object in one of the places is among those that were held
    have himp : isAlive { s with places } o.id = true → held o.id = true := by
      intro halive
      obtain ⟨p, hp, heq⟩ := List.any_eq_true.1 halive
      obtain hid : p.2.id = o.id := by simpa using heq
      exact hid ▸ (hplaced p hp).2
    exact Bool.and_eq_right_iff_imp.2 himp

lemma Tracks.drop (h : s.Tracks past s.isAlive) (place : String) :
    (s.drop place).Tracks past (s.drop place).isAlive := by
  refine h.settle fun p hp => ?_
  have hmem := List.mem_of_mem_filter hp
  exact ⟨h.placed p hmem, List.any_eq_true.2 ⟨p, hmem, by simp⟩⟩

/-- The result of a call is kept or dropped. -/
lemma Tracks.keep (h : s.Tracks past held) (hheld : ∀ id, s.isAlive id = true → held id = true)
    {o : Shared Program} (hlt : o.id < s.nextId) (ho : held o.id = true) (place : Option String) :
    (s.keep place o).Tracks past (s.keep place o).isAlive := by
  have hplaced : ∀ p ∈ s.places, p.2.id < s.nextId ∧ held p.2.id = true :=
    fun p hp => ⟨h.placed p hp, hheld _ (List.any_eq_true.2 ⟨p, hp, by simp⟩)⟩
  cases place with
  | none => exact h.settle hplaced
  | some name =>
    refine h.settle fun p hp => ?_
    rcases List.mem_append.1 hp with hp | hp
    · exact hplaced p (List.mem_of_mem_filter hp)
    · obtain rfl := List.mem_singleton.1 hp
      exact ⟨hlt, ho⟩

/-- A call that gives no new object changes nothing. -/
lemma Tracks.cons_of_known (h : s.Tracks past held) {v : Visit}
    (hv : ∀ o, v.result = .ok o → ∃ w ∈ past, w.Gives o.id) : s.Tracks (v :: past) held where
  nodup := h.nodup
  placed := h.placed
  given := by
    intro w hw id hgives
    rcases List.mem_cons.1 hw with rfl | hw
    · obtain ⟨o, hresult, rfl⟩ := hgives
      obtain ⟨u, hu, hid⟩ := hv o hresult
      exact h.given u hu _ hid
    · exact h.given w hw id hgives
  found := by
    intro key
    rw [h.found key]
    match hresult : v.result with
    | .error e => rw [lastStored_cons_of_error hresult]
    | .ok o =>
      obtain ⟨w, hw, hid⟩ := hv o hresult
      rw [lastStored_cons_of_ok hresult, if_neg fun hnew => hnew.2.2 w hw hid]

/-- A call that finds an object gives one that was stored before and is alive. -/
lemma Tracks.hit (h : s.Tracks past s.isAlive) {key : String} {o : Shared Program}
    (hfind : s.cache.find? (.text key) = some o) {v : Visit} (hresult : v.result = .ok o) :
    s.Tracks (v :: past) fun id => s.isAlive id || decide (v.Gives id) := by
  obtain ⟨hlast, halive⟩ := Option.filter_eq_some_iff.1 ((h.found key).symm.trans hfind)
  have hheld : (fun id => s.isAlive id || decide (v.Gives id)) = s.isAlive := by
    funext id
    by_cases hid : o.id = id
    · simp [← hid, halive]
    · simp [Visit.gives_iff hresult, hid]
  rw [hheld]
  refine h.cons_of_known fun o' ho' => ?_
  obtain rfl : o = o' := by simpa [hresult] using ho'
  obtain ⟨w, hw, hw'⟩ := exists_of_lastStored hlast
  exact ⟨w, hw, o, hw', rfl⟩

section Built

variable {v : Visit} {program : Program} (h : s.Tracks past s.isAlive)
  (hresult : v.result = .ok ⟨s.nextId, program⟩)
include h hresult

/-- Next to a new object, an older one is held just if it is alive. -/
lemma Tracks.found_next_to_new (key : String) :
    s.cache.find? (.text key) =
      (lastStored key past).filter fun o => s.isAlive o.id || decide (v.Gives o.id) := by
  rw [h.found key]
  refine filter_congr_of_eq_some fun o ho => ?_
  have hne : ¬ v.Gives o.id := fun hgives =>
    Nat.ne_of_gt (h.lt_nextId_of_lastStored ho) ((Visit.gives_iff hresult _).1 hgives)
  simp [hne]

/-- While the cache is in use, a new object is the one that was stored last under its key. -/
lemma Tracks.find_set_new {key : String} (henabled : v.isEnabled = s.cache.isEnabled)
    (hkey : v.key? = some key) (other : String) :
    (s.cache.missed.set (.text key) ⟨s.nextId, program⟩).find? (.text other) =
      (lastStored other (v :: past)).filter fun o => s.isAlive o.id || decide (v.Gives o.id) := by
  have hnew : ∀ w ∈ past, ¬ w.Gives s.nextId :=
    fun w hw hgives => Nat.lt_irrefl _ (h.given w hw _ hgives)
  have hold := h.found_next_to_new hresult other
  rw [lastStored_cons_of_ok hresult]
  by_cases hon : s.cache.isEnabled = true
  · by_cases hsame : key = other
    · subst hsame
      rw [if_pos ⟨henabled.trans hon, hkey, hnew⟩, Option.filter_some,
        Cache.find?_set_self (by rwa [Cache.isEnabled_missed])]
      simp [Visit.gives_iff hresult]
    · rw [if_neg fun h => hsame (Option.some.inj (hkey.symm.trans h.2.1)),
        Cache.find?_set_of_ne hsame, Cache.find?_congr (Cache.entries_missed _)]
      exact hold
  · rw [if_neg fun h => hon (henabled.symm.trans h.1), Cache.set,
      if_neg (by rwa [Cache.isEnabled_missed]), Cache.find?_congr (Cache.entries_missed _)]
    exact hold

/-- A new object gets an identity that no call has given. -/
lemma Tracks.build {key : String} (henabled : v.isEnabled = s.cache.isEnabled)
    (hkey : v.key? = some key) :
    Tracks (v :: past) (fun id => s.isAlive id || decide (v.Gives id))
      { s with
        cache := s.cache.missed.set (.text key) ⟨s.nextId, program⟩
        nextId := s.nextId + 1 } where
  nodup := Cache.nodup_set (by rw [Cache.entries_missed]; exact h.nodup) _ _
  placed := fun q hq => Nat.lt_succ_of_lt (h.placed q hq)
  given := by
    intro w hw id hgives
    rcases List.mem_cons.1 hw with rfl | hw
    · obtain rfl := (Visit.gives_iff hresult id).1 hgives
      exact Nat.lt_succ_self _
    · exact Nat.lt_succ_of_lt (h.given w hw id hgives)
  found := h.find_set_new hresult henabled hkey

end Built

end Shelf

namespace Session

variable {a : Assembler} {s : Session} {c : Call} {past : List Visit}

/-- After a call the cache tracks what was stored, the result of the call being held. -/
lemma Answered.tracks {result : Result (Shared Program)} {shelf : Shelf Program}
    (h : Answered a s c result shelf) (hs : s.shelf.Tracks past s.shelf.isAlive) {v : Visit}
    (henabled : v.isEnabled = s.shelf.cache.isEnabled)
    (hkey : v.key? = (c.reading a).toOption.map (·.key)) (hresult : v.result = result) :
    shelf.Tracks (v :: past) fun id => shelf.isAlive id || decide (v.Gives id) := by
  cases h with
  | unread hread =>
    simp only [Visit.not_gives_of_error hresult, decide_false, Bool.or_false]
    exact hs.cons_of_known fun o ho => by simp [hresult] at ho
  | @found p o hread hon hfind =>
    have hhit := hs.hit hfind hresult
    exact hhit.withCache (f := fun cache => { cache with hits := cache.hits + 1 }) rfl
  | unbuilt hread hmiss hbuild =>
    simp only [Visit.not_gives_of_error hresult, decide_false, Bool.or_false]
    have hknown := hs.cons_of_known (v := v) fun o ho => by simp [hresult] at ho
    exact hknown.withCache (Cache.entries_missed _)
  | @built p program hread hmiss hbuild =>
    rw [hread] at hkey
    exact hs.build hresult henabled hkey

lemma shelf_step_call (a : Assembler) (s : Session) (c : Call) (place : Option String) :
    (s.step a (.call c place)).shelf =
      match (s.answer a c).1 with
      | .ok o => (s.answer a c).2.1.keep place o
      | .error _ => (s.answer a c).2.1 := by
  match hanswer : s.answer a c with
  | (.ok o, shelf, journal) => simp only [step, hanswer]
  | (.error e, shelf, journal) => simp only [step, hanswer]

/-- One turn keeps the invariant. -/
lemma tracks_step (t : Turn) (hs : s.shelf.Tracks past s.shelf.isAlive) :
    (t.step s).shelf.Tracks ((t.visit? s).toList ++ past) (t.step s).shelf.isAlive := by
  obtain ⟨a, e⟩ := t
  cases e with
  | call c place =>
    have htracks := (answered a s c).tracks hs (v := s.visit a c) rfl rfl rfl
    show (s.step a (.call c place)).shelf.Tracks (s.visit a c :: past)
      (s.step a (.call c place)).shelf.isAlive
    rw [shelf_step_call]
    match hresult : (s.answer a c).1 with
    | .error e =>
      have hvisit : (s.visit a c).result = .error e := hresult
      simpa only [Visit.not_gives_of_error hvisit, decide_false, Bool.or_false] using htracks
    | .ok o =>
      have hgives : (s.visit a c).Gives o.id := ⟨o, hresult, rfl⟩
      refine htracks.keep (fun id hid => by simp [hid]) ?_ (by simp [hgives]) place
      exact htracks.given _ List.mem_cons_self _ hgives
  | drop place => exact hs.drop place
  | enable => exact hs.withCache rfl
  | disable => exact hs.withCache rfl

/-- A run keeps the invariant. -/
theorem tracks_runTurns (turns : List Turn) (hs : s.shelf.Tracks past s.shelf.isAlive) :
    (s.runTurns turns).shelf.Tracks ((s.visits turns).reverse ++ past)
      (s.runTurns turns).shelf.isAlive := by
  induction turns generalizing s past with
  | nil => exact hs
  | cons t turns ih =>
    have hvisit : (t.visit? s).toList.reverse = (t.visit? s).toList := by
      cases t.visit? s with
      | none => rfl
      | some v => rfl
    rw [runTurns_cons, visits, List.reverse_append, List.append_assoc, hvisit]
    exact ih (tracks_step t hs)

lemma tracks_empty : ({} : Shelf Program).Tracks [] ({} : Shelf Program).isAlive where
  nodup := List.nodup_nil
  placed := by simp
  given := by simp
  found := fun _ => rfl

end Session

/-! ## What counts -/

/-- The number of look-ups. -/
def Cache.lookUps {α : Type} (c : Cache α) : ℕ := c.hits + c.misses

namespace Session

variable {a : Assembler} {s : Session} {c : Call}

lemma Answered.lookUps {result : Result (Shared Program)} {shelf : Shelf Program}
    (h : Answered a s c result shelf) :
    shelf.cache.lookUps = s.shelf.cache.lookUps +
      if s.shelf.cache.isEnabled && ((c.reading a).toOption.map (·.key)).isSome then 1 else 0 := by
  have hmissed : s.shelf.cache.missed.lookUps = s.shelf.cache.lookUps +
      if s.shelf.cache.isEnabled then 1 else 0 := by
    unfold Cache.missed Cache.lookUps
    split
    · simp [Nat.add_assoc]
    · simp
  cases h with
  | unread hread => simp [hread, Except.toOption]
  | found hread hon hfind =>
    simp only [hread, hon, Cache.lookUps, Except.toOption]
    simp only [Option.map_some, Option.isSome_some, Bool.and_true, if_true]
    omega
  | unbuilt hread hmiss hbuild => simpa [hread, Except.toOption] using hmissed
  | built hread hmiss hbuild =>
    have hset : ∀ (c : Cache Program) key o, (c.set key o).lookUps = c.lookUps := by
      intro c key o
      unfold Cache.set
      split <;> rfl
    simpa [hread, Except.toOption, hset] using hmissed

lemma lookUps_step (t : Turn) (s : Session) :
    (t.step s).shelf.cache.lookUps =
      s.shelf.cache.lookUps + (t.visit? s).toList.countP Visit.looksUp := by
  obtain ⟨a, e⟩ := t
  cases e with
  | call c place =>
    have hcount := (answered a s c).lookUps
    have hkeep : ∀ (shelf : Shelf Program) o,
        (shelf.keep place o).cache.lookUps = shelf.cache.lookUps := by
      intro shelf o
      cases place <;> rfl
    show (s.step a (.call c place)).shelf.cache.lookUps = _ + List.countP _ [_]
    rw [shelf_step_call, List.countP_singleton]
    match hresult : (s.answer a c).1 with
    | .error e => exact hcount
    | .ok o => exact (hkeep _ o).trans hcount
  | drop place => rfl
  | enable => rfl
  | disable => rfl

/-- Every call that looks its key up in a cache in use is counted, and nothing else is. -/
lemma lookUps_runTurns (s : Session) (turns : List Turn) :
    (s.runTurns turns).shelf.cache.lookUps =
      s.shelf.cache.lookUps + (s.visits turns).countP Visit.looksUp := by
  induction turns generalizing s with
  | nil => rfl
  | cons t turns ih =>
    rw [runTurns_cons, ih, lookUps_step, visits, List.countP_append, Nat.add_assoc]

end Session

/-! ## Calls that fail -/

/-- The cache without its counters. -/
def Cache.uncounted (c : Cache Program) : Cache Program := { c with hits := 0, misses := 0 }

@[simp] lemma Cache.uncounted_missed (c : Cache Program) : c.missed.uncounted = c.uncounted := by
  unfold uncounted
  simp

@[simp] lemma Cache.uncounted_set (c : Cache Program) (key : Value) (o : Shared Program) :
    (c.set key o).uncounted = c.uncounted.set key o := by
  unfold set uncounted
  split <;> rfl

/-- The shelf without the counters of its cache. -/
def Shelf.uncounted (s : Shelf Program) : Shelf Program := s.withCache Cache.uncounted

lemma Shelf.uncounted_keep (s : Shelf Program) (place : Option String) (o : Shared Program) :
    (s.keep place o).uncounted = s.uncounted.keep place o := by
  cases place <;> rfl

namespace Session

variable {a : Assembler} {s s' : Session} {c : Call}

/-- What a call gives, with the shelf that it leaves, apart from the counters. -/
def outcome (a : Assembler) (shelf : Shelf Program) (c : Call) :
    Result (Shared Program) × Shelf Program :=
  match c.reading a with
  | .error e => (.error e, shelf)
  | .ok p =>
    match (shelf.cache.get (.text p.key)).1 with
    | some o => (.ok o, shelf)
    | none =>
      match (c.assembler a).building c.request p with
      | .error e => (.error e, shelf)
      | .ok program =>
        (.ok ⟨shelf.nextId, program⟩,
          { shelf with
            cache := shelf.cache.set (.text p.key) ⟨shelf.nextId, program⟩
            nextId := shelf.nextId + 1 })

lemma Answered.eq_outcome {result : Result (Shared Program)} {shelf : Shelf Program}
    (h : Answered a s c result shelf) :
    (result, shelf.uncounted) = outcome a s.shelf.uncounted c := by
  -- what is found does not depend on the counters
  have hget : ∀ key, (s.shelf.uncounted.cache.get key).1 =
      if s.shelf.cache.isEnabled = true then s.shelf.cache.find? key else none :=
    fun key => Cache.get_fst _ key
  unfold outcome
  cases h with
  | unread hread => simp only [hread]
  | found hread hon hfind =>
    simp only [hread]
    rw [hget, if_pos hon, hfind]
    rfl
  | unbuilt hread hmiss hbuild =>
    simp only [hread]
    rw [hget, ite_eq_right_iff.2 hmiss]
    simp only [hbuild, Shelf.uncounted, Shelf.withCache, Cache.uncounted_missed]
  | built hread hmiss hbuild =>
    simp only [hread]
    rw [hget, ite_eq_right_iff.2 hmiss]
    simp only [hbuild, Shelf.uncounted, Shelf.withCache, Cache.uncounted_missed,
      Cache.uncounted_set]

/-- A call gives the same with other counters. -/
lemma answer_congr (h : s.shelf.uncounted = s'.shelf.uncounted) (a : Assembler) (c : Call) :
    (s.answer a c).1 = (s'.answer a c).1 ∧
      (s.answer a c).2.1.uncounted = (s'.answer a c).2.1.uncounted := by
  have heq := (answered a s c).eq_outcome.trans (h ▸ (answered a s' c).eq_outcome.symm)
  exact Prod.mk.inj heq

lemma uncounted_step (h : s.shelf.uncounted = s'.shelf.uncounted) (t : Turn) :
    (t.step s).shelf.uncounted = (t.step s').shelf.uncounted := by
  obtain ⟨a, e⟩ := t
  cases e with
  | call c place =>
    obtain ⟨hresult, hshelf⟩ := answer_congr h a c
    show (s.step a (.call c place)).shelf.uncounted = (s'.step a (.call c place)).shelf.uncounted
    rw [shelf_step_call, shelf_step_call, ← hresult]
    match (s.answer a c).1 with
    | .error e => exact hshelf
    | .ok o =>
      show ((s.answer a c).2.1.keep place o).uncounted = ((s'.answer a c).2.1.keep place o).uncounted
      rw [Shelf.uncounted_keep, Shelf.uncounted_keep, hshelf]
  | drop place => exact congrArg (Shelf.drop · place) h
  | enable => exact congrArg (Shelf.withCache · Cache.enable) h
  | disable => exact congrArg (Shelf.withCache · Cache.disable) h

/-- Later calls do not see the counters. -/
lemma visits_congr (h : s.shelf.uncounted = s'.shelf.uncounted) (turns : List Turn) :
    s.visits turns = s'.visits turns := by
  induction turns generalizing s s' with
  | nil => rfl
  | cons t turns ih =>
    have hvisit : t.visit? s = t.visit? s' := by
      have hcall : ∀ c, s.visit t.assembler c = s'.visit t.assembler c := by
        intro c
        have henabled : s.shelf.uncounted.cache.isEnabled = s'.shelf.uncounted.cache.isEnabled :=
          congrArg (fun shelf : Shelf Program => shelf.cache.isEnabled) h
        change s.shelf.cache.isEnabled = s'.shelf.cache.isEnabled at henabled
        simp only [visit, henabled, (answer_congr h t.assembler c).1]
      exact congrArg (t.event.call?.map ·) (funext hcall)
    rw [visits, visits, hvisit, ih (uncounted_step h t)]

/-- A call that fails changes nothing but the counters. -/
lemma uncounted_step_of_error {e : Failure} (h : (s.answer a c).1 = .error e)
    (place : Option String) : (s.step a (.call c place)).shelf.uncounted = s.shelf.uncounted := by
  have hanswered := answered a s c
  rw [shelf_step_call, h] at *
  generalize (s.answer a c).2.1 = shelf at *
  cases hanswered with
  | unread hread => rfl
  | unbuilt hread hmiss hbuild =>
    simp only [Shelf.uncounted, Shelf.withCache, Cache.uncounted_missed]

end Session

/-! ## Whole runs -/

namespace Session

variable {a : Assembler} {s : Session} {c : Call} {past : List Visit} {o : Shared Program}

/-- What an earlier call gave is given again exactly if it was stored last and is alive. -/
lemma answer_again_iff (hs : s.shelf.Tracks past s.shelf.isAlive) :
    ((s.answer a c).1 = .ok o ∧ ∃ v ∈ past, v.Gives o.id) ↔
      s.shelf.cache.isEnabled = true ∧ ∃ p, c.reading a = .ok p ∧
        lastStored p.key past = some o ∧ s.shelf.isAlive o.id = true := by
  have hanswered := answered a s c
  generalize (s.answer a c).1 = result at *
  generalize (s.answer a c).2.1 = shelf at *
  constructor
  · rintro ⟨rfl, v, hv, hgives⟩
    cases hanswered with
    | @found p _ hread hon hfind =>
      have hlast := Option.filter_eq_some_iff.1 ((hs.found p.key).symm.trans hfind)
      exact ⟨hon, p, hread, hlast.1, hlast.2⟩
    | built hread hmiss hbuild => exact absurd (hs.given v hv _ hgives) (Nat.lt_irrefl _)
  · rintro ⟨hon, p, hp, hlast, halive⟩
    have hfound : s.shelf.cache.find? (.text p.key) = some o := by
      rw [hs.found, hlast, Option.filter_some, if_pos halive]
    cases hanswered with
    | unread hread => simp [hread] at hp
    | found hread _ hfind =>
      obtain rfl := Except.ok.inj (hread.symm.trans hp)
      obtain rfl := Option.some.inj (hfind.symm.trans hfound)
      obtain ⟨v, hv, hresult⟩ := exists_of_lastStored hlast
      exact ⟨rfl, v, hv, _, hresult, rfl⟩
    | unbuilt hread hmiss _ =>
      obtain rfl := Except.ok.inj (hread.symm.trans hp)
      exact absurd (hfound.symm.trans (hmiss hon)) (by simp)
    | built hread hmiss _ =>
      obtain rfl := Except.ok.inj (hread.symm.trans hp)
      exact absurd (hfound.symm.trans (hmiss hon)) (by simp)

/-- When results are used again in runs. A call gives an object that an earlier call gave exactly if
the cache is in use and the object is the one that was stored last under the key of the call, and is
still alive. A call that fails leaves everything but the counters as it was, and later calls give
what they give without it. The counters grow by one for every call that looks its key up while the
cache is in use, and by nothing else. -/
theorem reuse_over_runs (turns : List Turn) :
    (∀ (a : Assembler) (c : Call) (o : Shared Program),
      (((runTurns {} turns).answer a c).1 = .ok o ∧ ∃ v ∈ visits {} turns, v.Gives o.id) ↔
        (runTurns {} turns).shelf.cache.isEnabled = true ∧ ∃ p, c.reading a = .ok p ∧
          lastStored p.key (visits {} turns).reverse = some o ∧
          (runTurns {} turns).shelf.isAlive o.id = true) ∧
    (∀ (a : Assembler) (c : Call) (e : Failure), ((runTurns {} turns).answer a c).1 = .error e →
      ∀ place : Option String,
        (runTurns {} (turns ++ [⟨a, .call c place⟩])).shelf.uncounted =
          (runTurns {} turns).shelf.uncounted ∧
        ∀ later : List Turn, visits (runTurns {} (turns ++ [⟨a, .call c place⟩])) later =
          visits (runTurns {} turns) later) ∧
    (∀ later : List Turn,
      (runTurns {} (turns ++ later)).shelf.cache.lookUps =
        (runTurns {} turns).shelf.cache.lookUps +
          (visits (runTurns {} turns) later).countP Visit.looksUp) := by
  refine ⟨fun a c o => ?_, fun a c e he place => ?_, fun later => ?_⟩
  · have htracks := tracks_runTurns (s := {}) turns tracks_empty
    rw [List.append_nil] at htracks
    rw [← answer_again_iff htracks]
    simp only [List.mem_reverse]
  · rw [runTurns_append]
    have hsame := uncounted_step_of_error he place
    exact ⟨hsame, visits_congr hsame⟩
  · rw [runTurns_append, lookUps_runTurns]

/-- A call whose program is kept. -/
def firstTurn : Turn := ⟨bareAssembler, .call (defineCall (.int 3)) (some "kept")⟩

/-- An assembler whose transpiler gives up. -/
def strictAssembler : Assembler :=
  { bareAssembler with convert := fun _ _ _ => .error (.transpileRefused "") }

/-- The key of a call with `4` as its define. -/
def fourKey : String :=
  "[\"void main() \x7b\x7d\", \"void main() \x7b\x7d\", null, [], [[\"a\", 4]], [], [], " ++
    "false, true]"

lemma fails_strictAssembler {s : Session} (hs : s.shelf.cache.find? (.text fourKey) = none) :
    ∃ e, (s.answer strictAssembler (defineCall (.int 4))).1 = .error e := by
  have hfour : (defineCall (.int 4)).request.key [] = .ok fourKey :=
    toOption_eq_some.1 (by decide +kernel)
  have hread : (defineCall (.int 4)).reading strictAssembler = .ok ⟨[], [], [], fourKey⟩ :=
    reading_defineCall hfour
  have hfails : (strictAssembler.building (defineCall (.int 4)).request
      ⟨[], [], [], fourKey⟩).toOption.isNone := by decide +kernel
  have hanswered := answered strictAssembler s (defineCall (.int 4))
  generalize (s.answer strictAssembler (defineCall (.int 4))).1 = result at *
  generalize (s.answer strictAssembler (defineCall (.int 4))).2.1 = shelf at *
  cases hanswered with
  | unread h => exact ⟨_, rfl⟩
  | unbuilt h _ _ => exact ⟨_, rfl⟩
  | found h _ hfind =>
    obtain rfl := Except.ok.inj (h.symm.trans hread)
    exact absurd (hfind.symm.trans hs) (by simp)
  | built h _ hbuild =>
    obtain rfl := Except.ok.inj (h.symm.trans hread)
    change strictAssembler.building _ _ = _ at hbuild
    rw [hbuild] at hfails
    exact absurd hfails (by simp [Except.toOption])

/-- The first call makes the object with the number zero, which is kept under its key. -/
lemma exists_program_firstTurn :
    ∃ program, visits {} [firstTurn] = [⟨true, some threeKey, .ok ⟨0, program⟩⟩] ∧
      (runTurns {} [firstTurn]).shelf.uncounted =
        Shelf.keep ⟨[], { entries := [(.text threeKey, ⟨0, program⟩)] }, 1⟩ (some "kept")
          ⟨0, program⟩ := by
  have hint : (defineCall (.int 3)).request.key [] = .ok threeKey :=
    toOption_eq_some.1 (by decide +kernel)
  obtain ⟨program, hbuild⟩ : ∃ program, bareAssembler.building (defineCall (.int 3)).request
      ⟨[], [], [], threeKey⟩ = .ok program := exists_of_isSome_toOption (by decide +kernel)
  have hanswer : ((answer bareAssembler {} (defineCall (.int 3))).1,
      (answer bareAssembler {} (defineCall (.int 3))).2.1.uncounted) =
      (.ok ⟨0, program⟩, ⟨[], { entries := [(.text threeKey, ⟨0, program⟩)] }, 1⟩) := by
    have hbuild : ((defineCall (.int 3)).assembler bareAssembler).building
        (defineCall (.int 3)).request ⟨[], [], [], threeKey⟩ = .ok program := hbuild
    rw [(answered bareAssembler {} (defineCall (.int 3))).eq_outcome, outcome,
      reading_defineCall hint]
    simp only [Cache.get_fst]
    rw [hbuild]
    rfl
  obtain ⟨hresult, hleft⟩ := Prod.mk.inj hanswer
  refine ⟨program, ?_, ?_⟩
  · have hkey : ((defineCall (.int 3)).reading bareAssembler).toOption.map (·.key) =
        some threeKey := by
      rw [reading_defineCall hint]
      rfl
    show [visit bareAssembler {} (defineCall (.int 3))] = _
    rw [visit, hresult, hkey]
  · show (step bareAssembler {} (.call (defineCall (.int 3)) (some "kept"))).shelf.uncounted = _
    rw [shelf_step_call, hresult, ← hleft]
    exact Shelf.uncounted_keep ..

/-- After a call the same program is given for a number of another width, also if the transpiler
gives up on a third number in between. -/
theorem firstTurn_reused :
    ∃ o, ((runTurns {} [firstTurn]).answer bareAssembler
          (defineCall (.scalar (.integer .int16 3)))).1 = .ok o ∧
      (∃ v ∈ visits {} [firstTurn], v.Gives o.id) ∧
      visits (runTurns {} ([firstTurn] ++
          [⟨strictAssembler, .call (defineCall (.int 4)) none⟩]))
          [⟨bareAssembler, .call (defineCall (.scalar (.integer .int16 3))) none⟩] =
        visits (runTurns {} [firstTurn])
          [⟨bareAssembler, .call (defineCall (.scalar (.integer .int16 3))) none⟩] := by
  have hscalar : (defineCall (.scalar (.integer .int16 3))).request.key [] = .ok threeKey :=
    toOption_eq_some.1 (by decide +kernel)
  obtain ⟨program, hvisits, hshelf⟩ := exists_program_firstTurn
  have henabled : (runTurns {} [firstTurn]).shelf.cache.isEnabled = true :=
    congrArg (fun shelf : Shelf Program => shelf.cache.isEnabled) hshelf
  have halive : (runTurns {} [firstTurn]).shelf.isAlive 0 = true :=
    congrArg (fun shelf : Shelf Program => shelf.isAlive 0) hshelf
  have hlast : lastStored threeKey (visits {} [firstTurn]).reverse = some ⟨0, program⟩ := by
    rw [hvisits, List.reverse_singleton, lastStored_cons_of_ok rfl, if_pos ⟨rfl, rfl, by simp⟩]
  have hfour : (runTurns {} [firstTurn]).shelf.cache.find? (.text fourKey) = none := by
    show (runTurns {} [firstTurn]).shelf.uncounted.cache.find? (.text fourKey) = none
    have hne : threeKey ≠ fourKey := by decide
    rw [hshelf]
    simp [Shelf.keep, Shelf.store, Shelf.sweep, Cache.sweep, Shelf.isAlive, Cache.find?, hne]
  obtain ⟨hreuse, hfailed, -⟩ := reuse_over_runs [firstTurn]
  obtain ⟨hgiven, hearlier⟩ := (hreuse bareAssembler (defineCall (.scalar (.integer .int16 3)))
    ⟨0, program⟩).2 ⟨henabled, _, reading_defineCall hscalar, hlast, halive⟩
  obtain ⟨e, he⟩ := fails_strictAssembler hfour
  exact ⟨_, hgiven, hearlier, (hfailed _ _ e he none).2 _⟩

end Session

end ShaderLoom
