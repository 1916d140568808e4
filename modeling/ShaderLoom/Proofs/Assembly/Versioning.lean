import ShaderLoom.Proofs.Assembly.Layout
import ShaderLoom.Proofs.Assembly.Separation
import ShaderLoom.Proofs.Cache.Transparency
import ShaderLoom.Proofs.Glsl.Directive
import ShaderLoom.Proofs.Glsl.RoundTrip
import ShaderLoom.Proofs.Injection.Seam

/-!
# The version directive of a program

The code of a stage starts with a version directive and has no other one, if the texts that it is
put together from have none apart from a version line on top of the source
(`Assembler.Draft.versioned`). A version line is told by the blank behind its directive: with a
tabulator it stays in the body, below a second directive (`VersionedSource.body_free_iff`). Whole
runs with a cache keep this (`Session.one_directive`).
-/

namespace ShaderLoom

open Text Glsl

/-! ### Sources -/

namespace Glsl

/-- A source without a directive, apart from a version line on top. -/
def HasVersionOnTop (cs : List Char) : Prop :=
  Tight cs ∨ IsVersionLine (cutAt '\n' cs).1 ∧ Tight (cutAt '\n' cs).2

/-- A directive on top has a blank behind it. -/
def HasBlankOnTop (cs : List Char) : Prop := directive <+: cs → "#version ".toList <+: cs

instance (cs : List Char) : Decidable (HasBlankOnTop cs) :=
  inferInstanceAs (Decidable (directive <+: cs → "#version ".toList <+: cs))

instance (cs : List Char) : Decidable (HasVersionOnTop cs) :=
  inferInstanceAs (Decidable (Tight cs ∨ IsVersionLine (cutAt '\n' cs).1 ∧ Tight (cutAt '\n' cs).2))

namespace VersionedSource

lemma ofChars_eq (cs : List Char) :
    ofChars cs =
      if (afterFront? "#version ".toList (cutAt '\n' cs).1).isSome = true then
        ⟨(cutAt '\n' cs).1, 300, (cutAt '\n' cs).2⟩
      else ⟨"#version 100".toList, oldestVersion, cs⟩ := rfl

lemma prefix_cutAt (sep : Char) (cs : List Char) : (cutAt sep cs).1 <+: cs :=
  List.takeWhile_prefix _

/-- What a source with a version line on top is cut into. -/
lemma isVersionLine_ofChars {cs : List Char} (h : HasVersionOnTop cs) (hblank : HasBlankOnTop cs) :
    IsVersionLine (ofChars cs).versionLine ∧ Tight (ofChars cs).body := by
  have hdirective : directive <+: "#version ".toList := by decide
  rw [ofChars_eq]
  by_cases hkept : (afterFront? "#version ".toList (cutAt '\n' cs).1).isSome = true
  · rw [if_pos hkept]
    refine h.resolve_left fun htight => htight.no_directive ?_
    have hline := isSome_afterFront?_iff.1 hkept
    exact (hdirective.trans (hline.trans (prefix_cutAt '\n' cs))).isInfix
  · rw [if_neg hkept]
    refine ⟨isVersionLine_oldest, ?_⟩
    refine h.resolve_right fun ⟨hline, _⟩ => hkept ?_
    -- a blank behind the directive of the line would keep the line apart
    have htop : directive <+: cs := (isVersionLine_iff.1 hline).1.trans (prefix_cutAt '\n' cs)
    exact isSome_afterFront?_iff.2 (List.prefix_of_prefix_length_le (hblank htop)
      (prefix_cutAt '\n' cs) hline.length_lt)

/-- Of a source with a version line on top, a body without the directive is left exactly if a blank
stands behind the directive. -/
theorem body_free_iff {cs : List Char} (h : HasVersionOnTop cs) :
    ¬ directive <:+: (ofChars cs).body ↔ HasBlankOnTop cs := by
  constructor
  · intro hfree htop
    by_contra hblank
    refine hfree ?_
    have hkept : ¬ (afterFront? "#version ".toList (cutAt '\n' cs).1).isSome = true := by
      rw [isSome_afterFront?_iff]
      exact fun hline => hblank (hline.trans (prefix_cutAt '\n' cs))
    rw [ofChars_eq, if_neg hkept]
    exact htop.isInfix
  · exact fun hblank => (isVersionLine_ofChars h hblank).2.no_directive

lemma exists_number (cs : List Char) : ∃ d : Dialect, (ofChars cs).version = d.number := by
  rw [ofChars_eq]
  split
  · exact ⟨.es300, rfl⟩
  · exact ⟨.es100, rfl⟩

end VersionedSource

end Glsl

/-! ### Stages -/

namespace Assembler

/-- The converted code of an assembler is that of the rules. -/
def ConvertsByRules (a : Assembler) : Prop :=
  ∀ code version stage, a.convert code version stage =
    Glsl.transpile (.text code) (.int version) stage

lemma Ended.clean {cs : List Char} (h : Ended cs) (htight : Tight cs) : Clean cs := by
  refine ⟨htight, ?_⟩
  rcases h with rfl | ⟨front, rfl⟩
  · exact finished_nil
  · exact finished_lineBreak front

namespace Draft

variable {a : Assembler} {stage : Stage} {source : Value} {r : StageRequest}

/-- The parts of a draft make no directive apart from the one on top, and the conversion makes and
loses none. -/
structure SparesDirective (d : Draft a stage source r) : Prop where
  top : ∀ s, source = .text s → HasVersionOnTop s.toList ∧ HasBlankOnTop s.toList
  head : Tight d.head.toList
  modules : ∀ m ∈ r.modules, ∀ code,
    m.code a.surroundings stage (.int d.parts.version) = .ok code → Tight code.toList
  contents : ∀ i ∈ r.contributions stage, i.IsClean
  hooks : ∀ h ∈ r.hooks, h.IsTight
  output : stage = .fragment → ∀ dialect : Dialect, d.version = dialect.number →
    SparesOutput dialect (namesTo dialect .fragment d.code)

section

variable (d : Draft a stage source r)

/-- The source is a text, which was cut into its version line and its body. -/
lemma exists_text : ∃ s, source = .text s ∧ VersionedSource.ofChars s.toList = d.parts := by
  have hsplit := d.split
  unfold VersionedSource.ofValue at hsplit
  split at hsplit
  · next s => exact ⟨s, rfl, Except.ok.inj hsplit⟩
  · cases hsplit

lemma exists_number : ∃ dialect : Dialect, d.version = dialect.number := by
  obtain ⟨oldest, -, hversion⟩ := bind_eq_ok.1 d.target
  cases oldest with
  | true => exact ⟨.es100, (Except.ok.inj hversion).symm⟩
  | false =>
    have hsame : d.parts.version = d.version := Except.ok.inj hversion
    obtain ⟨s, -, hparts⟩ := d.exists_text
    rw [← hsame, ← hparts]
    exact VersionedSource.exists_number s.toList

variable {d} (h : d.SparesDirective)
include h

lemma SparesDirective.clean_head : Clean d.head.toList := by
  refine Ended.clean ?_ h.head
  rcases head_eq_ok d.write with ⟨-, hnil⟩ | ⟨-, hprologue⟩
  · exact .inl hnil
  · exact ended_prologue hprologue

lemma SparesDirective.clean_modules : Clean d.modules.toList := by
  obtain ⟨codes, hcodes, hconcat⟩ := moduleCode_eq_ok d.render
  rw [hconcat]
  refine clean_flatMap fun code hcode => ?_
  obtain ⟨m, hm, hmade⟩ := exists_of_mem_mapM (mapM_eq_ok_iff.2 hcodes) hcode
  exact Ended.clean (ended_code hmade) (h.modules m hm code hmade)

/-- The buckets hold contributions to the stage. -/
lemma SparesDirective.clean_bucket {p : Injection → Bool} {b : Bucket}
    (hb : b ∈ Bucket.collect ((r.contributions stage).filter p)) : ∀ i ∈ b.members, i.IsClean := by
  intro i hi
  rw [(Bucket.groups_collect _).members b hb] at hi
  exact h.contents i (List.mem_of_mem_filter (List.mem_of_mem_filter hi))

lemma SparesDirective.clean_hooks : Clean d.hooks := by
  refine Hook.clean_codeAll d.hook h.hooks fun k _ i hi => ?_
  have hlookup : i ∈ ((r.contributions stage).filter Slots.isHook).filter (·.key = k.key) := by
    rw [← Bucket.lookup_collect]
    exact hi
  exact h.contents i (List.mem_of_mem_filter (List.mem_of_mem_filter hlookup))

/-- The version line is one, and the body below it has no directive. -/
lemma SparesDirective.isVersionLine : IsVersionLine d.parts.versionLine ∧ Tight d.parts.body := by
  obtain ⟨s, hs, hparts⟩ := d.exists_text
  obtain ⟨htop, hblank⟩ := h.top s hs
  rw [← hparts]
  exact VersionedSource.isVersionLine_ofChars htop hblank

/-- No directive stands below the version line of the draft. -/
lemma SparesDirective.tight_spliced : Tight d.spliced := by
  have hsection : Clean declarationSection := by decide
  have hframe := (h.clean_head.append h.clean_modules).append hsection
  obtain ⟨hdeclared, hfinished⟩ :=
    Splice.tight_run hframe.tight (fun _ hb => h.clean_bucket hb) d.declare
  have hfront := Clean.append ⟨hdeclared, hfinished hframe.finished⟩ h.clean_hooks
  exact (Splice.tight_run (hfront.tight.append hfront.finished h.isVersionLine.2)
    (fun _ hb => h.clean_bucket hb) d.splice).1

/-- The converted draft starts with its one directive. -/
theorem SparesDirective.versioned {code : String} (hconvert : a.ConvertsByRules)
    (hcode : a.convert (String.ofList d.code) d.version stage = .ok code) :
    Versioned code.toList := by
  obtain ⟨dialect, hdialect⟩ := d.exists_number
  rw [hconvert, hdialect, transpile_number, String.toList_ofList] at hcode
  rw [← Except.ok.inj hcode, String.toList_ofList]
  refine versioned_convert h.isVersionLine.1 h.tight_spliced.no_directive fun hstage => ?_
  subst hstage
  exact h.output rfl dialect hdialect

end

end Draft

end Assembler

/-! ### Runs -/

/-- No draft of the call makes a directive apart from the one on top. -/
def Call.SparesDirective (a : Assembler) (c : Call) : Prop :=
  ∀ p, c.reading a = .ok p → ∀ stage, ∀ d : Assembler.Draft (c.assembler a) stage
    (c.request.source stage) (Assembler.stageRequest c.request p stage), d.SparesDirective

lemma Call.program_of_reading {a : Assembler} {c : Call} {p : Plan} (h : c.reading a = .ok p) :
    c.program a = (c.assembler a).building c.request p := by
  rw [Call.program, h]
  rfl

namespace Session

/-- Both stages of the program of such a call have one directive. -/
lemma versioned_program {a : Assembler} (hconvert : a.ConvertsByRules) {c : Call}
    (hspares : c.SparesDirective a) {program : Program} (h : c.program a = .ok program)
    (stage : Stage) : Versioned (program.code stage).toList := by
  obtain ⟨p, hp, hbuilding⟩ := bind_eq_ok.1 h
  obtain ⟨d, hd⟩ :=
    Assembler.stageCode_eq_ok_iff.1 ((Assembler.building_eq_ok_iff.1 hbuilding).2 stage)
  exact (hspares p hp stage d).versioned hconvert hd

/-- **One directive.**  Whatever run of calls came before it, both stages of what a call returns
start with a version directive and have no other one, if the drafts of the calls spare it. -/
theorem one_directive {a : Assembler} (hconvert : a.ConvertsByRules) {calls : Set Call}
    (hspares : ∀ c ∈ calls, c.SparesDirective a) {events : List Event}
    (hevents : ∀ e ∈ events, ∀ c, e.call? = some c → c ∈ calls) {c : Call} (hc : c ∈ calls)
    {o : Shared Program} (ho : (answer a (run a {} events) c).1 = .ok o) (stage : Stage) :
    directive <+: (o.content.code stage).toList ∧
      occurrences directive (o.content.code stage).toList = 1 := by
  have hsound : Sound a calls (run a {} events) := (sound_empty calls).run hevents
  obtain ⟨d, hd, -, hprogram⟩ := exists_collide_of_answer hsound hc ho
  have hversioned := versioned_program hconvert (hspares d hd) hprogram stage
  exact ⟨hversioned.prefix_directive, hversioned.occurrences_eq_one⟩

/-! ### A version line on top, and other ones -/

/-- An assembler that adds nothing to the code, which it converts. -/
def convertingAssembler : Assembler where
  platformDefines := fun _ => .text ""
  versionDefines := fun _ => .text ""

/-- A call with an injection, whose stages are converted to the oldest version. -/
def fragmentCall (fragment : String) (i : Injection) (hasPrologue : Bool) : Call where
  catalog := []
  registry := none
  check := false
  request :=
    { vertex := .text "#version 300 es\nin vec2 corner;\nvoid main() \x7b\x7d\n"
      fragment := .text fragment
      id := .null
      modules := .tuple []
      defines := .null
      hooks := .tuple []
      inject := .map .plain [(.text i.key, .text i.content)]
      toOldest := .bool true
      hasPrologue := .bool hasPrologue }

section

variable {fragment : String} {i : Injection} {hasPrologue : Bool}

lemma resolve_fragmentCall :
    resolveValue (fragmentCall fragment i hasPrologue).directory (.tuple []) = .ok [] := by
  show resolve (fragmentCall fragment i hasPrologue).directory [] = .ok []
  rw [resolve, Resolution.visitAll]

lemma assembler_fragmentCall :
    (fragmentCall fragment i hasPrologue).assembler convertingAssembler = convertingAssembler := rfl

variable (hinjection : Injection.ofApplication
  (.map .plain [(.text i.key, .text i.content)]) = .ok [i])
include hinjection

lemma reading_fragmentCall {key : String}
    (hkey : (fragmentCall fragment i hasPrologue).request.key [] = .ok key) :
    (fragmentCall fragment i hasPrologue).reading convertingAssembler = .ok ⟨[], [i], [], key⟩ :=
  Assembler.reading_eq_ok rfl rfl rfl resolve_fragmentCall hinjection rfl hkey

lemma uncached_fragmentCall
    (hkey : ((fragmentCall fragment i hasPrologue).request.key []).toOption.isSome) :
    (fragmentCall fragment i hasPrologue).uncached convertingAssembler =
      convertingAssembler.building (fragmentCall fragment i hasPrologue).request
        ⟨[], [i], [], ""⟩ := by
  obtain ⟨key, hkey⟩ := exists_of_isSome_toOption hkey
  rw [uncached_eq, Call.program_of_reading (reading_fragmentCall hinjection hkey),
    assembler_fragmentCall, Assembler.building_key _ _ _ _ key ""]

end

/-- Code for the end of the main function. -/
def fade : Injection := ⟨"fs:#main-end", .place .fragment "main-end", "color.a = 0.5;", .whole 0⟩

lemma ofApplication_fade : Injection.ofApplication
    (.map .plain [(.text fade.key, .text fade.content)]) = .ok [fade] :=
  toOption_eq_some.1 (by decide +kernel)

/-- A fragment stage with a version line and a declared output. -/
def paintCall : Call :=
  fragmentCall "#version 300 es\nout vec4 color;\nvoid main() \x7b\ncolor = vec4(1.0);\n\x7d\n" fade
    true

/-- What its stages are put together from. -/
def paintRequest (stage : Stage) : StageRequest :=
  Assembler.stageRequest paintCall.request ⟨[], [fade], [], ""⟩ stage

section

variable {stage : Stage}
  (d : Assembler.Draft convertingAssembler stage (paintCall.request.source stage)
    (paintRequest stage))
include d

lemma tight_head_paintDraft : Tight d.head.toList := by
  have hmerge : .ok [] =
      Defines.merge (paintRequest stage).modules (paintRequest stage).defines := by
    cases stage <;> rfl
  have hdefines : [] = d.defines := Except.ok.inj (hmerge.trans d.merge)
  have hwrite := toOption_eq_some.2 d.write
  rw [← hdefines] at hwrite
  have hall : ∀ stage, ∀ head ∈ (convertingAssembler.head stage (paintCall.request.source stage)
      (paintRequest stage) []).toOption, Tight head.toList := by
    intro stage
    cases stage <;> decide +kernel
  exact hall stage _ hwrite

lemma sparesOutput_paintDraft (hstage : stage = .fragment) {dialect : Dialect}
    (hdialect : d.version = dialect.number) :
    SparesOutput dialect (namesTo dialect .fragment d.code) := by
  subst hstage
  have holdest : .ok 100 = Except.ok d.version := d.target
  obtain rfl : dialect = .es100 := by
    have hnumber := (Except.ok.inj holdest).trans hdialect
    cases dialect with
    | es100 => rfl
    | es300 => exact absurd hnumber (by decide)
  have hall : ∀ code ∈ (Assembler.stageCode
      { convertingAssembler with convert := fun code _ _ => .ok code } .fragment
      (paintCall.request.source .fragment) (paintRequest .fragment)).toOption,
      SparesOutput .es100 (namesTo .es100 .fragment code.toList) := by
    decide +kernel
  have hspares := hall _ (toOption_eq_some.2 d.stageCode_unconverted)
  rwa [String.toList_ofList] at hspares

lemma sparesDirective_paintDraft : d.SparesDirective where
  top := by
    have hall : ∀ stage, ∀ s ∈ (paintCall.request.source stage).text?,
        HasVersionOnTop s.toList ∧ HasBlankOnTop s.toList := by
      intro stage
      cases stage <;> decide +kernel
    intro s hs
    refine hall stage s ?_
    rw [hs]
    rfl
  head := tight_head_paintDraft d
  modules := by
    intro m hm
    cases hm
  contents := by cases stage <;> decide +kernel
  hooks := by
    intro k hk
    cases stage <;> cases hk
  output := fun hstage _ hdialect => sparesOutput_paintDraft d hstage hdialect

end

/-- The declared output is renamed, and the version line is the only one. -/
theorem paintCall_one_directive :
    ∃ o, (answer convertingAssembler
        (run convertingAssembler {} [.call paintCall (some "")]) paintCall).1 = .ok o ∧
      ∀ stage, directive <+: (o.content.code stage).toList ∧
        occurrences directive (o.content.code stage).toList = 1 := by
  have hkeySome : (paintCall.request.key []).toOption.isSome := by decide +kernel
  obtain ⟨key, hkey⟩ := exists_of_isSome_toOption hkeySome
  have hreading := reading_fragmentCall ofApplication_fade hkey
  obtain ⟨program, hbuilding⟩ := exists_of_isSome_toOption
    (x := convertingAssembler.building paintCall.request ⟨[], [fade], [], ""⟩) (by decide +kernel)
  have hprogram : paintCall.program convertingAssembler = .ok program := by
    rw [← uncached_eq, ← hbuilding]
    exact uncached_fragmentCall ofApplication_fade hkeySome
  obtain ⟨o, ho, -⟩ := answer_second ⟨_, _, hreading, hreading, rfl⟩ hprogram
  have hspares : ∀ c ∈ ({paintCall} : Set Call), c.SparesDirective convertingAssembler := by
    rintro c rfl p hp stage d
    obtain rfl := Except.ok.inj (hreading.symm.trans hp)
    exact sparesDirective_paintDraft d
  refine ⟨o, ho, fun stage => ?_⟩
  refine one_directive (fun _ _ _ => rfl) hspares ?_ (Set.mem_singleton paintCall) ho stage
  intro e he c hc
  obtain rfl := List.mem_singleton.1 he
  exact (Option.some.inj hc).symm

/-- How many directives stand in the fragment stage of a call, if it gives a program. -/
def fragmentDirectives (c : Call) : Option ℕ :=
  (c.uncached convertingAssembler).toOption.map fun p => occurrences directive p.fragment.toList

/-- A fragment stage with a tabulator behind its directive. -/
def tabbed : String := "#version\t300 es\nvoid main() \x7b\x7d\n"

/-- A fragment stage whose output has the name of the directive. -/
def selfNamed : String := "#version 300 es\nout vec4 version;\nvoid main() \x7b\x7d\n"

/-- A fragment stage with the word of the directive inside of a name. -/
def submerged : String := "#version 300 es\nfloat subversion;\nvoid main() \x7b\x7d\n"

/-- A hash behind a text inside of a name. -/
def hash : Injection := ⟨"sub", .pattern "sub", "#", .whole 0⟩

/-- Sources with one version line on top, and contents without a directive, of which a stage with
two directives is made, or one with none. -/
theorem directives_not_one :
    (HasVersionOnTop tabbed.toList ∧ ¬ directive <:+: fade.content.toList ∧
      fragmentDirectives (fragmentCall tabbed fade false) = some 2) ∧
    (HasVersionOnTop selfNamed.toList ∧ ¬ directive <:+: fade.content.toList ∧
      fragmentDirectives (fragmentCall selfNamed fade false) = some 0) ∧
    (HasVersionOnTop submerged.toList ∧ ¬ directive <:+: hash.content.toList ∧
      fragmentDirectives (fragmentCall submerged hash false) = some 2) := by
  have hhash : Injection.ofApplication
      (.map .plain [(.text hash.key, .text hash.content)]) = .ok [hash] :=
    toOption_eq_some.1 (by decide +kernel)
  unfold fragmentDirectives
  rw [uncached_fragmentCall ofApplication_fade (by decide +kernel),
    uncached_fragmentCall ofApplication_fade (by decide +kernel),
    uncached_fragmentCall hhash (by decide +kernel)]
  refine ⟨⟨?_, ?_, ?_⟩, ⟨?_, ?_, ?_⟩, ?_, ?_, ?_⟩ <;> decide +kernel

end Session

end ShaderLoom
