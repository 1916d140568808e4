import ShaderLoom.Defines
import ShaderLoom.Module.Maps
import ShaderLoom.Proofs.Digest.Mapping

/-!
# What users can change of a module

The maps of a module are sealed, but the union in place is not refused: it puts entries into a map
that keeps the digest of its former contents. All other operations leave the maps as they are. So
the digests never change, and the contents are those that the maps were made with as long as each
union puts only entries that leave the map as it is (`maps_unchanged_iff`).
-/

namespace ShaderLoom

/-! ### Making the maps -/

lemma Injection.exists_digest (i : Injection) : ∃ d, i.toValue.digest? = .ok d := by
  obtain ⟨d, hd⟩ : ∃ d, i.order.toValue.digest? = .ok d := by
    cases i.order <;> exact ⟨_, rfl⟩
  rw [toValue]
  cases i.target.stage? <;>
    exact ⟨_, by simp only [Value.digest?, Value.digestAll?, hd, bind, Except.bind]; rfl⟩

/-- The maps of a module can be made. -/
lemma ShaderModule.exists_maps (m : ShaderModule) : ∃ maps, m.maps = .ok maps := by
  have hstage : ∀ s, ∃ map, SealedMap.ofEntries (m.injectionEntries s) = .ok map := by
    intro s
    refine SealedMap.exists_ofEntries fun e he => ?_
    obtain ⟨i, -, rfl⟩ := List.mem_map.1 he
    exact ⟨⟨i.key, rfl⟩, i.exists_digest⟩
  obtain ⟨vertex, hvertex⟩ := hstage .vertex
  obtain ⟨fragment, hfragment⟩ := hstage .fragment
  obtain ⟨stages, hstages⟩ : ∃ map, SealedMap.ofEntries
      [(.text Stage.vertex.label, vertex.toValue), (.text Stage.fragment.label, fragment.toValue)] =
        .ok map := by
    refine SealedMap.exists_ofEntries fun e he => ?_
    rcases List.mem_pair.1 he with rfl | rfl
    · exact ⟨⟨_, rfl⟩, _, SealedMap.digest_of_ofEntries hvertex⟩
    · exact ⟨⟨_, rfl⟩, _, SealedMap.digest_of_ofEntries hfragment⟩
  exact ⟨_, bind_eq_ok.2 ⟨vertex, hvertex, bind_eq_ok.2 ⟨fragment, hfragment,
    bind_eq_ok.2 ⟨stages, hstages, rfl⟩⟩⟩⟩

/-! ### One operation -/

/-- Put entries into a map that keeps its digest. -/
def SealedMap.put (m : SealedMap) (new : Entries) : SealedMap :=
  { m with entries := m.entries.putAll new }

@[simp] lemma SealedMap.put_nil (m : SealedMap) : m.put [] = m := rfl

lemma SealedMap.apply_snd (m : SealedMap) (op : Operation) : (m.apply op).2 = m.put op.brings :=
  congrArg₂ SealedMap.mk (m.apply_entries op) (m.apply_digest op)

namespace ModuleMaps

variable {maps maps' : ModuleMaps}

/-- Put entries into the maps at all places. -/
def put (maps : ModuleMaps) (new : MapPlace → Entries) : ModuleMaps where
  defines := maps.defines.put (new .defines)
  stage s := (maps.stage s).put (new (.stage s))
  added := maps.added ++ new .stages
  stagesDigest := maps.stagesDigest

/-- The entries that an operation puts into the map at a place. -/
def Operation.brings : Operation → MapPlace → Entries
  | .assign _ _, _ => []
  | .apply p op, place => if place = p then op.brings else []

/-- All that an operation does to the maps is to put entries into them. -/
theorem perform_snd (maps : ModuleMaps) (op : Operation) :
    (maps.perform op).2 = maps.put op.brings := by
  cases op with
  | assign name hpublic => simp [perform, put, Operation.brings]
  | apply place op =>
    cases place with
    | defines => simp [perform, put, Operation.brings, SealedMap.apply_snd]
    | stages => simp [perform, put, Operation.brings]
    | stage s =>
      have hstage : (fun t => if t = s then ((maps.stage s).apply op).2 else maps.stage t) =
          fun t => (maps.stage t).put (if t = s then op.brings else []) := by
        funext t
        split
        · next h => rw [h, SealedMap.apply_snd]
        · rfl
      simpa [perform, put, Operation.brings] using hstage

/-- The contents of the maps are the same, and so are their digests. -/
def Shows (maps maps' : ModuleMaps) : Prop := ∀ place, maps.mapAt place = maps'.mapAt place

/-- The operation puts only entries that leave the map as it is, if it puts any at all. -/
def IsSparedBy (maps : ModuleMaps) : Operation → Prop
  | .assign _ _ => True
  | .apply place op => (maps.mapAt place).entries.putAll op.brings = (maps.mapAt place).entries

lemma isSparedBy_iff {op : Operation} :
    maps.IsSparedBy op ↔ ∀ place, (maps.mapAt place).put (op.brings place) = maps.mapAt place := by
  cases op with
  | assign name hpublic => exact iff_of_true trivial fun place => rfl
  | apply p op =>
    constructor
    · intro h place
      by_cases hp : place = p
      · subst hp
        rw [Operation.brings, if_pos rfl, SealedMap.put, h]
      · rw [Operation.brings, if_neg hp]
        rfl
    · intro h
      have hself := congrArg SealedMap.entries (h p)
      rwa [Operation.brings, if_pos rfl] at hself

/-- The map of the stages shows the changes of the maps of the stages and its own. -/
lemma mapAt_put_stages {new : MapPlace → Entries}
    (h : ∀ s, (maps.stage s).put (new (.stage s)) = maps.stage s) :
    (maps.put new).mapAt .stages = (maps.mapAt .stages).put (new .stages) := by
  have hown : (maps.put new).ownStages = maps.ownStages := by
    simp only [ownStages, put, h]
  rw [mapAt, hown, mapAt, SealedMap.put]
  simp only [put, Entries.putAll_append]

/-- An operation on maps that show what they showed when they were made: they go on to do so
exactly if the operation spares them. -/
theorem shows_perform_iff (h : maps'.Shows maps) (op : Operation) :
    (maps'.perform op).2.Shows maps ↔ maps.IsSparedBy op := by
  have hsame : maps.IsSparedBy op ↔ maps'.IsSparedBy op := by
    rw [isSparedBy_iff, isSparedBy_iff]
    exact forall_congr' fun place => by rw [h place]
  have hshows : (maps'.perform op).2.Shows maps ↔ (maps'.perform op).2.Shows maps' :=
    forall_congr' fun place => by rw [h place]
  rw [hsame, hshows, perform_snd, isSparedBy_iff]
  constructor
  · intro hput place
    cases place with
    | defines => exact hput .defines
    | stage s => exact hput (.stage s)
    | stages => rw [← mapAt_put_stages fun s => hput (.stage s), hput .stages]
  · intro hput place
    cases place with
    | defines => exact hput .defines
    | stage s => exact hput (.stage s)
    | stages => rw [mapAt_put_stages fun s => hput (.stage s), hput .stages]

/-! ### Runs -/

@[simp] lemma run_nil (maps : ModuleMaps) : maps.run [] = maps := rfl

@[simp] lemma run_cons (maps : ModuleMaps) (op : Operation) (ops : List Operation) :
    maps.run (op :: ops) = (maps.perform op).2.run ops := rfl

lemma run_concat (maps : ModuleMaps) (ops : List Operation) (op : Operation) :
    maps.run (ops ++ [op]) = ((maps.run ops).perform op).2 := by
  rw [run, List.foldl_append]
  rfl

/-- No run changes a digest. -/
theorem digest_run (maps : ModuleMaps) (ops : List Operation) (place : MapPlace) :
    ((maps.run ops).mapAt place).digest = (maps.mapAt place).digest := by
  induction ops generalizing maps with
  | nil => rfl
  | cons op ops ih =>
    rw [run_cons, ih, perform_snd]
    cases place <;> rfl

/-- A run of operations that spare the maps. -/
lemma shows_run {ops : List Operation} (hops : ∀ op ∈ ops, maps.IsSparedBy op)
    (h : maps'.Shows maps) : (maps'.run ops).Shows maps := by
  induction ops generalizing maps' with
  | nil => exact h
  | cons op ops ih =>
    rw [List.forall_mem_cons] at hops
    exact ih hops.2 ((shows_perform_iff h op).2 hops.1)

/-- The maps show the same all along a run exactly if each operation of the run spares them. -/
theorem shows_fronts_iff (maps : ModuleMaps) (ops : List Operation) :
    (∀ front, front <+: ops → (maps.run front).Shows maps) ↔ ∀ op ∈ ops, maps.IsSparedBy op := by
  constructor
  · intro h op hop
    obtain ⟨front, back, rfl⟩ := List.append_of_mem hop
    have hfront := h front (List.prefix_append front _)
    have hnext := h (front ++ [op]) ⟨back, by simp⟩
    rw [run_concat] at hnext
    exact (shows_perform_iff hfront op).1 hnext
  · intro h front hfront
    exact shows_run (fun op hop => h op (hfront.subset hop)) fun _ => rfl

end ModuleMaps

/-- **Immutability of modules.**  Whatever is done to a module and its maps, the digests of its
defines and injections are those that they were made with. Their contents are so all along exactly
if every union in place puts only entries that leave the map as it is. -/
theorem ShaderModule.maps_unchanged_iff (m : ShaderModule) :
    ∃ maps, m.maps = .ok maps ∧ ∀ ops : List ModuleMaps.Operation,
      (∀ place, ((maps.run ops).mapAt place).digest = (maps.mapAt place).digest) ∧
      ((∀ front, front <+: ops → ∀ place, (maps.run front).mapAt place = maps.mapAt place) ↔
        ∀ op ∈ ops, maps.IsSparedBy op) := by
  obtain ⟨maps, hmaps⟩ := m.exists_maps
  exact ⟨maps, hmaps, fun ops => ⟨maps.digest_run ops, maps.shows_fronts_iff ops⟩⟩

/-- A module with one define. -/
def ShaderModule.withFoo : ShaderModule where
  ref := ⟨0, "a"⟩
  vertex := .absent
  fragment := .absent
  dependencies := []
  defines := ⟨[(.text "FOO", .int 1)], .mapping [.text "FOO", .number 1]⟩
  vertexInjections := []
  fragmentInjections := []
  uniforms := []
  driver := none
  deprecations := []

/-- A union in place changes the defines of a module. Their digest stays the one of the former
contents, and the module is the same in keys, but its code is not. -/
theorem ShaderModule.union_in_place_changes_defines :
    create (fun _ => ⟨fun _ => .error .unsupported, fun _ _ => .error .unsupported⟩) 0
        { name := .text "a", defines := .map .plain [(.text "FOO", .int 1)] } = .ok withFoo ∧
    (withFoo.maps.map fun maps => (maps.run
        [.apply .defines (.merge (.map .plain [(.text "FOO", .int 2)]))]).mapAt .defines) =
      .ok ⟨[(.text "FOO", .int 2)], withFoo.defines.digest⟩ ∧
    SealedMap.ofEntries [(.text "FOO", .int 2)] =
      .ok ⟨[(.text "FOO", .int 2)], .mapping [.text "FOO", .number 2]⟩ ∧
    Defines.code withFoo.defines.entries = .ok "\n// APPLICATION DEFINES\n#define FOO 1\n" ∧
    Defines.code [(.text "FOO", .int 2)] = .ok "\n// APPLICATION DEFINES\n#define FOO 2\n" := by
  exact ⟨rfl, by with_unfolding_all rfl, rfl, rfl, rfl⟩

end ShaderLoom
