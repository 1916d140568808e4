import Mathlib.Data.Set.Basic
import ShaderLoom.Proofs.Assembly.Program

/-!
# Runs of an assembler with a cache

An assembler with a cache is called again and again. The results are kept in places or dropped, and
the cache may be switched off and on in between. Every entry of the cache is the program of an
earlier call with the key of the entry (`Session.Sound`). So a call gives the program of some call
with the same key, and a whole run gives what it would give without the cache exactly when calls
with the same key have the same code (`transparent_iff`).
-/

namespace ShaderLoom

/-- A call of an assembler, with the modules and the registry that are there at the time. -/
structure Call where
  catalog : Catalog
  registry : Option Registry
  /-- Whether uses of old names are noted down. -/
  check : Bool
  request : Request

/-- The assembler at the time of a call. -/
def Call.assembler (a : Assembler) (c : Call) : Assembler := { a with registry := c.registry }

/-- What can happen to an assembler with a cache. -/
inductive Event where
  /-- A call, whose result is kept in a place or else dropped. -/
  | call (c : Call) (place : Option String)
  | drop (place : String)
  | enable
  | disable

/-- The call of an event, if it is one. -/
def Event.call? : Event → Option Call
  | .call c _ => some c
  | _ => none

/-- Keep an object in a place, or drop it. -/
def Shelf.keep (s : Shelf Program) (place : Option String) (o : Shared Program) : Shelf Program :=
  match place with
  | some name => s.store name o
  | none => s.sweep

/-- Where a run stands: the results that are kept, the cache and the journal. -/
structure Session where
  shelf : Shelf Program := {}
  journal : Journal := {}

namespace Session

/-- What a call gives, with the shelf and the journal that it leaves. -/
def answer (a : Assembler) (s : Session) (c : Call) :
    Result (Shared Program) × Shelf Program × Journal :=
  (c.assembler a).assembleCached c.catalog c.check c.request s.shelf s.journal

/-- Go on by one event. -/
def step (a : Assembler) (s : Session) : Event → Session
  | .call c place =>
    match answer a s c with
    | (.ok o, shelf, journal) => ⟨shelf.keep place o, journal⟩
    | (.error _, shelf, journal) => ⟨shelf, journal⟩
  | .drop place => { s with shelf := s.shelf.drop place }
  | .enable => { s with shelf := s.shelf.withCache Cache.enable }
  | .disable => { s with shelf := s.shelf.withCache Cache.disable }

/-- Go on by events, from first to last. -/
def run (a : Assembler) (s : Session) (events : List Event) : Session := events.foldl (step a) s

/-- A run whose cache is switched off. -/
def withoutCache : Session := ⟨({} : Shelf Program).withCache Cache.disable, {}⟩

end Session

namespace Call

/-- What a call is read as. -/
def reading (a : Assembler) (c : Call) : Result Plan :=
  (c.assembler a).reading c.catalog c.check c.request

/-- The program of a call, without a cache. -/
def program (a : Assembler) (c : Call) : Result Program :=
  c.reading a >>= (c.assembler a).building c.request

/-- What a call gives on an assembler whose cache is switched off. -/
def uncached (a : Assembler) (c : Call) : Result Program :=
  (Session.answer a Session.withoutCache c).1.map (·.content)

end Call

/-- The programs have the same code. -/
def Program.SameCode (p q : Program) : Prop := p.vertex = q.vertex ∧ p.fragment = q.fragment

/-- Two calls are read and get the same key. -/
def Call.Collide (a : Assembler) (c d : Call) : Prop :=
  ∃ p q, c.reading a = .ok p ∧ d.reading a = .ok q ∧ p.key = q.key

/-- If one call gives a program, the other one gives a program with the same code. -/
def Call.Agree (a : Assembler) (c d : Call) : Prop :=
  ∀ p, c.uncached a = .ok p → ∃ q, d.uncached a = .ok q ∧ q.SameCode p

namespace Session

variable {a : Assembler}

/-- Whatever run of calls from a set came before it, a call of the set gives the code that it gives
without the cache. -/
def Transparent (a : Assembler) (calls : Set Call) : Prop :=
  ∀ events : List Event, (∀ e ∈ events, ∀ c, e.call? = some c → c ∈ calls) →
    ∀ c ∈ calls, ∀ o, (answer a (run a {} events) c).1 = .ok o →
      ∃ p, c.uncached a = .ok p ∧ p.SameCode o.content

/-- Every entry of the cache is the program of one of the calls, under its key. -/
def Sound (a : Assembler) (calls : Set Call) (s : Session) : Prop :=
  ∀ e ∈ s.shelf.cache.entries, ∃ c ∈ calls, ∃ p, c.reading a = .ok p ∧ e.1 = .text p.key ∧
    c.program a = .ok e.2.content

/-! ### One call -/

lemma mem_putEntry_text {es : List (Value × Shared Program)} {key : String} {o : Shared Program}
    {e : Value × Shared Program} (h : e ∈ Cache.putEntry es (.text key) o) :
    e ∈ es ∨ e = (.text key, o) := by
  induction es with
  | nil => exact .inr (by simpa [Cache.putEntry] using h)
  | cons d ds ih =>
    unfold Cache.putEntry at h
    split at h
    · next hd =>
      rcases List.mem_cons.1 h with rfl | h
      · exact .inr (by rw [Entries.sameKey_text_iff.1 hd])
      · exact .inl (List.mem_cons_of_mem _ h)
    · rcases List.mem_cons.1 h with rfl | h
      · exact .inl List.mem_cons_self
      · rcases ih h with h | h
        · exact .inl (List.mem_cons_of_mem _ h)
        · exact .inr h

lemma mem_set_text {cache : Cache Program} {key : String} {o : Shared Program}
    {e : Value × Shared Program} (h : e ∈ (cache.set (.text key) o).entries) :
    e ∈ cache.entries ∨ e = (.text key, o) := by
  unfold Cache.set at h
  split at h
  · exact mem_putEntry_text h
  · exact .inl h

/-- What is found was put under the key. -/
lemma mem_of_get_eq_some {cache after : Cache Program} {key : String} {o : Shared Program}
    (h : cache.get (.text key) = (some o, after)) :
    cache.isEnabled = true ∧ (.text key, o) ∈ cache.entries := by
  unfold Cache.get at h
  split at h
  · next henabled =>
    split at h
    · next o' hfind =>
      obtain ⟨rfl, -⟩ : o' = o ∧ _ := by simpa using h
      obtain ⟨e, he, rfl⟩ := Option.map_eq_some_iff.1 hfind
      have hkey : e.1.sameKey (.text key) = true := by simpa using List.find?_some he
      rw [← Entries.sameKey_text_iff.1 hkey]
      exact ⟨henabled, List.mem_of_find?_eq_some he⟩
    · simp at h
  · simp at h

/-- The shelf after a program was built and put into its cache. -/
def putting (shelf : Shelf Program) (cache : Cache Program) (key : String) (program : Program) :
    Shared Program × Shelf Program :=
  let (o, shelf) := Shelf.make { shelf with cache } program
  (o, shelf.withCache (·.set (.text key) o))

/-- What a call gives and leaves, apart from the journal: it fails, finds a program under its key,
or builds one and puts it under its key. -/
lemma exists_answer_eq (a : Assembler) (s : Session) (c : Call) :
    ∃ journal, answer a s c =
      match c.reading a with
      | .error e => (.error e, s.shelf, journal)
      | .ok p =>
        match s.shelf.cache.get (.text p.key) with
        | (some o, cache) => (.ok o, { s.shelf with cache }, journal)
        | (none, cache) =>
          match (c.assembler a).building c.request p with
          | .error e => (.error e, { s.shelf with cache }, journal)
          | .ok program =>
            (.ok (putting s.shelf cache p.key program).1,
              (putting s.shelf cache p.key program).2, journal) := by
  have hreading := Assembler.yields_plan (c.assembler a) c.catalog c.check c.request s.journal
  unfold Work.outcome at hreading
  unfold answer Assembler.assembleCached Call.reading
  -- the cases are those of the outcomes: of reading, of the look-up, of building
  rw [← hreading]
  match (((c.assembler a).plan c.catalog c.check c.request).run.run s.journal) with
  | (.error e, journal) => exact ⟨journal, rfl⟩
  | (.ok p, journal) =>
    match hget : s.shelf.cache.get (.text p.key) with
    | (some o, cache) => exact ⟨journal, by simp only [hget]⟩
    | (none, cache) =>
      have hbuilding := Assembler.yields_build (c.assembler a) c.request p journal
      unfold Work.outcome at hbuilding
      simp only [hget, ← hbuilding]
      match ((c.assembler a).build c.request p).run.run journal with
      | (.error e, journal) => exact ⟨journal, rfl⟩
      | (.ok program, journal) => exact ⟨journal, rfl⟩

/-- A call that returns found its program, or built it and put it under its key. -/
lemma answer_cases {s : Session} {c : Call} {o : Shared Program}
    (h : (answer a s c).1 = .ok o) :
    ∃ p, c.reading a = .ok p ∧
      ((.text p.key, o) ∈ s.shelf.cache.entries ∨ c.program a = .ok o.content) := by
  obtain ⟨journal, heq⟩ := exists_answer_eq a s c
  rw [heq] at h
  unfold Call.program
  match hread : c.reading a with
  | .error e => simp [hread] at h
  | .ok p =>
    refine ⟨p, rfl, ?_⟩
    simp only [hread] at h
    match hget : s.shelf.cache.get (.text p.key) with
    | (some o', cache) =>
      -- a hit: the entry was there before
      obtain rfl : o' = o := by simpa [hget] using h
      exact .inl (mem_of_get_eq_some hget).2
    | (none, cache) =>
      right
      simp only [hget] at h
      show (c.assembler a).building c.request p = .ok o.content
      match hbuild : (c.assembler a).building c.request p with
      | .error e => simp [hbuild] at h
      | .ok program =>
        obtain rfl : _ = o := by simpa [hbuild] using h
        rfl

/-- The entries that a call leaves were there, or are the program that it built. -/
lemma mem_entries_answer {s : Session} {c : Call} {e : Value × Shared Program}
    (h : e ∈ (answer a s c).2.1.cache.entries) :
    e ∈ s.shelf.cache.entries ∨
      ∃ p, c.reading a = .ok p ∧ e.1 = .text p.key ∧ c.program a = .ok e.2.content := by
  obtain ⟨journal, heq⟩ := exists_answer_eq a s c
  rw [heq] at h
  unfold Call.program
  match hread : c.reading a with
  | .error e => exact .inl (by simpa [hread] using h)
  | .ok p =>
    simp only [hread] at h
    -- a look-up changes the counters only
    have hentries := Cache.entries_get s.shelf.cache (.text p.key)
    match hget : s.shelf.cache.get (.text p.key) with
    | (some o', cache) =>
      rw [hget] at hentries
      exact .inl (by simpa [hget, ← hentries] using h)
    | (none, cache) =>
      rw [hget] at hentries
      simp only [hget] at h
      match hbuild : (c.assembler a).building c.request p with
      | .error e => exact .inl (by simpa [hbuild, ← hentries] using h)
      | .ok program =>
        simp only [hbuild] at h
        rcases mem_set_text h with h | rfl
        · exact .inl (hentries ▸ h)
        · exact .inr ⟨p, rfl, rfl, hbuild⟩

/-- Without the cache a call gives the program that is read and built. -/
theorem uncached_eq (a : Assembler) (c : Call) : c.uncached a = c.program a := by
  obtain ⟨journal, heq⟩ := exists_answer_eq a withoutCache c
  unfold Call.uncached Call.program
  rw [heq]
  match c.reading a with
  | .error e => rfl
  | .ok p =>
    simp only [withoutCache, Shelf.withCache, Cache.get_disabled]
    show _ = (c.assembler a).building c.request p
    match (c.assembler a).building c.request p with
    | .error e => rfl
    | .ok program => rfl

/-! ### Whole runs -/

lemma Sound.of_subset {calls : Set Call} {s t : Session} (h : Sound a calls s)
    (hsubset : t.shelf.cache.entries ⊆ s.shelf.cache.entries) : Sound a calls t :=
  fun e he => h e (hsubset he)

lemma entries_keep_subset (s : Shelf Program) (place : Option String) (o : Shared Program) :
    (s.keep place o).cache.entries ⊆ s.cache.entries := by
  cases place with
  | none => exact List.filter_subset_self _
  | some name => exact List.filter_subset_self _

lemma Sound.answer {calls : Set Call} {s : Session} (h : Sound a calls s) {c : Call}
    (hc : c ∈ calls) : Sound a calls ⟨(Session.answer a s c).2.1, (Session.answer a s c).2.2⟩ := by
  intro e he
  rcases mem_entries_answer he with he | ⟨p, hread, hkey, hprogram⟩
  · exact h e he
  · exact ⟨c, hc, p, hread, hkey, hprogram⟩

theorem Sound.step {calls : Set Call} {s : Session} (h : Sound a calls s) {e : Event}
    (he : ∀ c, e.call? = some c → c ∈ calls) : Sound a calls (Session.step a s e) := by
  cases e with
  | call c place =>
    have hsound := h.answer (he c rfl)
    simp only [Session.step]
    match hanswer : Session.answer a s c with
    | (.ok o, shelf, journal) =>
      rw [hanswer] at hsound
      exact hsound.of_subset (entries_keep_subset shelf place o)
    | (.error e, shelf, journal) =>
      rw [hanswer] at hsound
      exact hsound
  | drop place => exact h.of_subset (List.filter_subset_self _)
  | enable => exact h
  | disable => exact h

theorem Sound.run {calls : Set Call} {s : Session} (h : Sound a calls s) {events : List Event}
    (hevents : ∀ e ∈ events, ∀ c, e.call? = some c → c ∈ calls) :
    Sound a calls (Session.run a s events) := by
  induction events generalizing s with
  | nil => exact h
  | cons e events ih =>
    refine ih (h.step (hevents e List.mem_cons_self)) fun e he => ?_
    exact hevents e (List.mem_cons_of_mem _ he)

lemma sound_empty (calls : Set Call) : Sound a calls {} := by
  intro e he
  cases he

/-- A call of a run gives the program of a call with the same key. -/
theorem exists_collide_of_answer {calls : Set Call} {s : Session} (h : Sound a calls s) {c : Call}
    (hc : c ∈ calls) {o : Shared Program} (ho : (answer a s c).1 = .ok o) :
    ∃ d ∈ calls, d.Collide a c ∧ d.program a = .ok o.content := by
  obtain ⟨p, hread, hmem | hprogram⟩ := answer_cases ho
  · obtain ⟨d, hd, q, hq, hkey, hprogram⟩ := h _ hmem
    exact ⟨d, hd, ⟨q, p, hq, hread, (Value.text.inj hkey).symm⟩, hprogram⟩
  · exact ⟨c, hc, ⟨p, p, hread, hread, rfl⟩, hprogram⟩

/-- A second call finds what a first call with the same key left. -/
lemma answer_second {c d : Call} (h : c.Collide a d) {program : Program}
    (hprogram : c.program a = .ok program) :
    ∃ o, (answer a (run a {} [.call c (some "")]) d).1 = .ok o ∧ o.content = program := by
  obtain ⟨p, q, hp, hq, hkey⟩ := h
  have hbuild : (c.assembler a).building c.request p = .ok program := by
    rw [Call.program, hp] at hprogram
    exact hprogram
  obtain ⟨j, hfirst⟩ := exists_answer_eq a {} c
  obtain ⟨j', hsecond⟩ := exists_answer_eq a (run a {} [.call c (some "")]) d
  -- the first call misses and leaves its program in the place
  have hrun : run a {} [.call c (some "")] =
      ⟨(putting {} { misses := 1 } p.key program).2.store ""
        (putting {} { misses := 1 } p.key program).1, j⟩ := by
    have hmiss : ({} : Cache Program).get (.text p.key) = (none, { misses := 1 }) := rfl
    simp only [hp, hmiss, hbuild] at hfirst
    show step a {} (.call c (some "")) = _
    simp only [step, hfirst]
    rfl
  have hfound : (run a {} [.call c (some "")]).shelf.cache.find? (.text q.key) =
      some ⟨0, program⟩ := by
    rw [hrun, ← hkey]
    simp [putting, Shelf.make, Shelf.withCache, Shelf.store, Shelf.sweep, Cache.sweep, Cache.set,
      Cache.putEntry, Cache.find?, Shelf.isAlive]
  have henabled : (run a {} [.call c (some "")]).shelf.cache.isEnabled = true := by
    rw [hrun]
    rfl
  refine ⟨⟨0, program⟩, ?_, rfl⟩
  rw [hsecond]
  simp only [hq, Cache.get_of_find?_eq_some henabled hfound]

/-- Runs of calls give the code that the calls give without the cache exactly when calls with the
same key agree. -/
theorem transparent_iff (a : Assembler) (calls : Set Call) :
    Transparent a calls ↔ ∀ c ∈ calls, ∀ d ∈ calls, c.Collide a d → c.Agree a d := by
  constructor
  · -- the run that consists of the first call alone
    intro h c hc d hd hcollide p hp
    rw [uncached_eq] at hp
    obtain ⟨o, ho, rfl⟩ := answer_second hcollide hp
    obtain ⟨q, hq, hsame⟩ := h [.call c (some "")] (by simp [Event.call?, hc]) d hd o ho
    exact ⟨q, hq, hsame⟩
  · intro h events hevents c hc o ho
    have hsound : Sound a calls (run a {} events) := (sound_empty calls).run hevents
    obtain ⟨d, hd, hcollide, hprogram⟩ := exists_collide_of_answer hsound hc ho
    exact h d hd c hc hcollide o.content (by rw [uncached_eq, hprogram])

end Session

end ShaderLoom
