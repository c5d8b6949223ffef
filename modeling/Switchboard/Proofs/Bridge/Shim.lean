import Switchboard.Proofs.Bridge.Injection
import Switchboard.Proofs.Bridge.Separation
import Switchboard.Proofs.Registry.Parallel
import Switchboard.Proofs.Session.Shim
import Switchboard.Proofs.Simulation.Holdings
/-!
# The shim, seen from outside

Two bridges start without sessions, and differ in how the engines of their factory number files.
Whatever is then done to both of them (`Step`), the one shows what the other shows as long as none
of it is about files (`shim_transparent`), but that names and status messages come through the shim.
-/

namespace Switchboard

/-! ## Steps -/

namespace SimulatedEngine

/-- A script about files is set up. -/
def Tweak.isFile : Tweak → Bool
  | .script signal => signal.isFile
  | _ => false

end SimulatedEngine

/-- Make a change to an engine whose calls are recorded. It is not a call. -/
def Recorded.tweak (tweak : SimulatedEngine.Tweak) (recorded : Recorded SimulatedEngine) :
    Recorded SimulatedEngine :=
  { recorded with engine := tweak.apply recorded.engine }

theorem Recorded.Fileless.tweak {recorded : Recorded SimulatedEngine}
    (fileless : recorded.Fileless) {tweak : SimulatedEngine.Tweak} (plain : tweak.isFile = false) :
    (recorded.tweak tweak).Fileless := by
  cases tweak with
  | script signal =>
    intro step scripted
    rcases List.mem_append.mp scripted with earlier | last
    · exact fileless step earlier
    · exact List.mem_singleton.mp last ▸ plain
  | addFriend key =>
    simp only [Recorded.tweak, SimulatedEngine.Tweak.apply, SimulatedEngine.addFriend]
    split <;> exact fileless
  | _ => exact fileless

private theorem Recorded.tweak_asLegacy (tweak : SimulatedEngine.Tweak)
    (recorded : Recorded SimulatedEngine) :
    recorded.asLegacy.tweak tweak = (recorded.tweak tweak).asLegacy := by
  cases tweak with
  | addFriend key =>
    by_cases known : recorded.engine.friends.any (·.2 = key) = true
    · have known' : recorded.asLegacy.engine.friends.any (·.2 = key) = true := known
      simp only [Recorded.tweak, SimulatedEngine.Tweak.apply, SimulatedEngine.addFriend,
        if_pos known, if_pos known']
    · have known' : ¬recorded.asLegacy.engine.friends.any (·.2 = key) = true := known
      simp only [Recorded.tweak, SimulatedEngine.Tweak.apply, SimulatedEngine.addFriend,
        if_neg known, if_neg known']
      rfl
  | _ => rfl

/-- The engine of a session is changed on both sides. -/
theorem Registry.Pair.onEngine {ε δ : Type} {S : Session ε → Session δ → Prop} {f : ε → δ}
    {first : Registry ε} {second : Registry δ} (pair : first.Pair S f second) (handle : Handle)
    {change : ε → ε} {change' : δ → δ}
    (h : ∀ s t, S s t → S (s.onEngine change) (t.onEngine change')) :
    (first.onEngine handle change).Pair S f (second.onEngine handle change') := by
  rcases pair.lookup handle with ⟨hs, ht⟩ | ⟨occupant, occupant', hs, ht, related⟩
  · simp only [Registry.onEngine, hs, ht]
    exact pair
  · simp only [Registry.onEngine, hs, ht]
    exact pair.setOccupant handle ⟨related.state, h _ _ related.session⟩

namespace Bridge

/-- What may be done to a bridge, its sessions, their engines, and the factory of the engines. -/
inductive Step where
  | create (options : EngineOptions)
  | visit (handle : Handle) (asked : Visit)
  | close (guard : Guard)
  | drop (guard : Guard)
  | shutdown
  | tweak (handle : Handle) (made : SimulatedEngine.Tweak)
  | failNext (code : UInt32)

inductive Sight where
  | created (outcome : Outcome CallError Handle)
  | visited (answer : Answer)
  | closed (outcome : Outcome BridgeError Unit)
  | stopped (outcome : Outcome BridgeError Nat)
  | nothing
  deriving DecidableEq

/-- A bridge over simulated engines that keep a list of the calls made to them. -/
abbrev Simulated : Type := Bridge SimulatedFactory (Recorded SimulatedEngine)

def Step.perform (step : Step) (bridge : Simulated) : Sight × Simulated :=
  match step with
  | .create options =>
    let ran := Bridge.create options bridge
    (.created ran.outcome, ran.state)
  | .visit handle asked =>
    let (answer, next) := asked.perform handle bridge
    (.visited answer, next)
  | .close guard =>
    let ran := onRegistry guard.close bridge
    (.closed ran.outcome, ran.state)
  | .drop guard =>
    let ran := onRegistry guard.drop bridge
    (.closed ran.outcome, ran.state)
  | .shutdown =>
    let ran := Bridge.shutdown bridge
    (.stopped ran.outcome, ran.state)
  | .tweak handle made =>
    (.nothing, bridge.onEngine handle (Recorded.tweak made))
  | .failNext code => (.nothing, { bridge with factory := bridge.factory.failNext code })

/-- One step after the other: what they show, and the bridge after them. -/
def performAll : List Step → Simulated → List Sight × Simulated
  | [], bridge => ([], bridge)
  | step :: rest, bridge =>
    let (shown, next) := step.perform bridge
    let after := performAll rest next
    (shown :: after.1, after.2)

/-- The step is about files: a file is offered, controlled or sent, or something about a file is
told by hand or scripted. -/
def Step.isFile : Step → Bool
  | .visit _ (.request _ request) => request.isFile || request.given.any (·.isFile)
  | .tweak _ made => made.isFile
  | _ => false

/-! ## What is alike -/

/-- The answers are the same, but that drained events come through the shim. -/
def Answer.Shims : Answer → Answer → Prop
  | .drained outcome, .drained outcome' =>
    Outcome.Rel (fun batch batch' => batch' = batch.shimmed) outcome outcome'
  | .encoded outcome, .encoded outcome' =>
    Outcome.Rel (fun text text' => ∃ batch : Batch, text = batch.encode ∧
      text' = batch.shimmed.encode) outcome outcome'
  | answer, answer' => answer = answer'

def Sight.Shims : Sight → Sight → Prop
  | .visited answer, .visited answer' => answer.Shims answer'
  | shown, shown' => shown = shown'

/-- A batch that was drained before the shim is drained behind it. -/
theorem Sight.Shims.drained {batch : Batch} {shown : Sight}
    (h : Shims (.visited (.drained (.ok batch))) shown) :
    shown = .visited (.drained (.ok batch.shimmed)) := by
  cases shown with
  | visited answer =>
    cases answer with
    | drained outcome =>
      cases (h : Outcome.Rel _ _ outcome) with
      | ok same => rw [same]
    | _ => cases h
  | _ => cases h

/-- Two bridges that have had nothing to do with files, the second one with engines that number
files per direction. -/
structure Shims (first second : Simulated) : Prop where
  registry : first.registry.Pair Session.Shims Recorded.asLegacy second.registry
  addressing : first.factory.addressing = .unified
  factory : second.factory = { first.factory with addressing := .legacy }

/-! ## Operations -/

section Operations

variable {δ α β : Type} {handle : Handle}

private theorem mirror_onRegistry_shims {V : α → β → Prop}
    {first : Run (Registry (Recorded SimulatedEngine)) δ α}
    {second : Run (Registry (Recorded SimulatedEngine)) δ β}
    (h : Run.Mirror (Registry.Pair Session.Shims Recorded.asLegacy) V first second) :
    Run.Mirror Shims V (onRegistry first) (onRegistry second) := by
  intro first second shims
  obtain ⟨ended, pair⟩ := h _ _ shims.registry
  exact ⟨ended, pair, shims.addressing, shims.factory⟩

private theorem agree_onRegistry_shims
    {first second : Run (Registry (Recorded SimulatedEngine)) δ α}
    (h : Run.Agree (Registry.Pair Session.Shims Recorded.asLegacy) first second) :
    Run.Agree Shims (onRegistry first) (onRegistry second) :=
  Run.mirror_eq.mp (mirror_onRegistry_shims (Run.mirror_eq.mpr h))

private theorem engines_shims (s t : Session (Recorded SimulatedEngine)) (h : Session.Shims s t) :
    t.engine = s.engine.map Recorded.asLegacy := h.engine

private theorem agree_warn_shims (warnings : List OptionWarning) :
    Run.Agree (ε := δ) Shims (warn warnings) (warn warnings) := by
  induction warnings with
  | nil => exact .pure ()
  | cons warning rest ih => exact .bind (.log _ _ _) fun _ => ih

/-- Engines the factories made. -/
structure Made (made made' : Reported (Recorded SimulatedEngine)) : Prop where
  same : made' = made.map Recorded.asLegacy
  unified : ∀ engine, made = .ok engine → engine.engine.addressing = .unified
  fileless : ∀ engine, made = .ok engine → engine.Fileless

private theorem made_of_error (code : UInt32) : Made (.error code) (.error code) :=
  ⟨rfl, nofun, nofun⟩

private theorem mirror_make_shims (settings : EngineSettings) :
    Run.Mirror (ε := δ) Shims Made (make settings) (make settings) := by
  intro first second shims
  obtain ⟨registry, factory⟩ := first
  obtain ⟨registry', factory'⟩ := second
  obtain ⟨pair, unified, rfl⟩ := shims
  simp only [make, Factory.create, SimulatedFactory.create]
  cases factory.failure with
  | some code => exact ⟨.ok (made_of_error code), pair, unified, rfl⟩
  | none =>
    dsimp only
    split
    · exact ⟨.ok (made_of_error _), pair, unified, rfl⟩
    · refine ⟨.ok ⟨rfl, fun engine made => ?_, fun engine made => ?_⟩, pair, unified, rfl⟩
      · exact Except.ok.inj made ▸ unified
      · intro signal scripted
        rw [← Except.ok.inj made] at scripted
        cases scripted

private theorem opens_shims {engine : Recorded SimulatedEngine}
    (unified : engine.engine.addressing = .unified) (fileless : engine.Fileless) :
    Registry.Opens Session.Shims Recorded.asLegacy engine := by
  refine ⟨.unified, .legacy, ⟨engine.engine, engine.calls ++ [.addressing]⟩, ?_, rfl, ?_⟩
  · exact congrArg (fun addressing => (some addressing, _)) unified
  · intro handle warnThreshold
    exact ⟨rfl, fun _ held => Option.some.inj held ▸ fileless, rfl⟩

private theorem agree_create_shims (options : EngineOptions) :
    Run.Agree Shims (create options) (create options) := by
  unfold create
  cases options.plan with
  | error fault => exact .fail _
  | ok plan =>
    obtain ⟨settings, warnings⟩ := plan
    refine .bind (agree_warn_shims warnings) fun _ => ?_
    refine (mirror_make_shims settings).bind_agree fun made made' h => ?_
    obtain ⟨rfl, unified, fileless⟩ := h
    cases made with
    | ok engine =>
      have opens := opens_shims (unified engine rfl) (fileless engine rfl)
      exact agree_onRegistry_shims
        ((Registry.Pair.agree_add Session.agree_subscribeAll_shims opens).mapError _)
    | error code =>
      simp only [Except.map]
      cases Operation.create.reason? code with
      | some reason => exact .fail _
      | none => exact .bind (.log _ _ _) fun _ => .fail _

/-- A visit that is not about files is answered alike. -/
theorem shims_visit {visit : Visit} (plain : (Step.visit handle visit).isFile = false)
    {first second : Simulated} (shims : Shims first second) :
    Answer.Shims (visit.perform handle first).1 (visit.perform handle second).1 ∧
      Shims (visit.perform handle first).2 (visit.perform handle second).2 := by
  have drains : Run.Mirror Shims (fun batch batch' => batch' = batch.shimmed)
      (Bridge.drain handle) (Bridge.drain handle) :=
    mirror_onRegistry_shims (Registry.Pair.mirror_drain Session.mirror_drain_shims)
  cases visit with
  | request now request =>
    obtain ⟨plain, taken⟩ := Bool.or_eq_false_iff.mp plain
    have performs := (HeldSession.parallel_shims now).perform plain
      fun n given => by simpa using List.any_eq_false.mp taken n given
    obtain ⟨same, left⟩ := agree_onRegistry_shims
      (Registry.Pair.agree_withSession (Session.lifts_shims.hold performs)) _ _ shims
    exact ⟨congrArg Answer.replied same, left⟩
  | drain =>
    obtain ⟨drained, left⟩ := drains _ _ shims
    exact ⟨drained, left⟩
  | drainEncoded =>
    have encodes := drains.bind (W := fun text text' => ∃ batch : Batch,
      text = batch.encode ∧ text' = batch.shimmed.encode) fun batch batch' same =>
        .pure ⟨batch, rfl, congrArg Batch.encode same⟩
    obtain ⟨encoded, left⟩ := encodes _ _ shims
    exact ⟨encoded, left⟩
  | state => exact ⟨congrArg Answer.state (shims.registry.state? handle), shims⟩
  | kill =>
    obtain ⟨same, left⟩ := agree_onRegistry_shims
      (Registry.Pair.agree_kill Session.mirror_release_shims) _ _ shims
    exact ⟨congrArg Answer.removed same, left⟩
  | finalize =>
    obtain ⟨same, left⟩ := agree_onRegistry_shims
      (Registry.Pair.agree_finalize engines_shims Session.mirror_release_shims) _ _ shims
    exact ⟨congrArg Answer.removed same, left⟩

/-- A change to an engine that is not about files is made alike. -/
theorem tweaked_shims {tweak : SimulatedEngine.Tweak} (plain : tweak.isFile = false)
    {s t : Session (Recorded SimulatedEngine)} (h : Session.Shims s t) :
    Session.Shims (s.onEngine (.tweak tweak)) (t.onEngine (.tweak tweak)) := by
  obtain ⟨core, engine, broken⟩ := s
  obtain ⟨tableless, fileless, rfl⟩ := h
  cases engine with
  | none => exact ⟨tableless, nofun, rfl⟩
  | some recorded =>
    have kept := (fileless recorded rfl).tweak plain
    have same := Recorded.tweak_asLegacy tweak recorded
    refine ⟨tableless, fun _ held => Option.some.inj held ▸ kept, ?_⟩
    simp only [Session.onEngine, Session.shimmed, Option.map_some, same]

/-- A step that is not about files shows the same on both sides. -/
theorem shims_perform {step : Step} (plain : step.isFile = false) {first second : Simulated}
    (shims : Shims first second) :
    Sight.Shims (step.perform first).1 (step.perform second).1 ∧
      Shims (step.perform first).2 (step.perform second).2 := by
  cases step with
  | create options =>
    obtain ⟨same, left⟩ := agree_create_shims options _ _ shims
    exact ⟨congrArg Sight.created same, left⟩
  | visit handle asked =>
    obtain ⟨answered, left⟩ := shims_visit plain shims
    exact ⟨answered, left⟩
  | close guard =>
    obtain ⟨same, left⟩ := agree_onRegistry_shims
      (Registry.Pair.agree_close engines_shims Session.mirror_release_shims guard) _ _ shims
    exact ⟨congrArg Sight.closed same, left⟩
  | drop guard =>
    obtain ⟨same, left⟩ := agree_onRegistry_shims
      (Registry.Pair.agree_drop engines_shims Session.mirror_release_shims guard) _ _ shims
    exact ⟨congrArg Sight.closed same, left⟩
  | shutdown =>
    obtain ⟨same, left⟩ := agree_onRegistry_shims
      (Registry.Pair.agree_shutdown engines_shims Session.mirror_release_shims) _ _ shims
    exact ⟨congrArg Sight.stopped same, left⟩
  | tweak handle made =>
    have pair := shims.registry.onEngine handle fun _ _ => tweaked_shims plain
    exact ⟨rfl, pair, shims.addressing, shims.factory⟩
  | failNext code =>
    refine ⟨rfl, shims.registry, shims.addressing, ?_⟩
    simp only [Step.perform, shims.factory, SimulatedFactory.failNext]

end Operations

/-! ## Runs -/

/-- What is shown step for step, and what is left at the end. -/
theorem shims_performAll {steps : List Step} (plain : ∀ step ∈ steps, step.isFile = false)
    {first second : Simulated} (shims : Shims first second) :
    (∀ i : Nat, Option.Rel Sight.Shims (performAll steps first).1[i]?
      (performAll steps second).1[i]?) ∧
    Shims (performAll steps first).2 (performAll steps second).2 := by
  induction steps generalizing first second with
  | nil => exact ⟨fun _ => .none, shims⟩
  | cons step rest ih =>
    obtain ⟨shown, left⟩ := shims_perform (plain step List.mem_cons_self) shims
    obtain ⟨more, last⟩ := ih (fun step h => plain step (List.mem_cons_of_mem _ h)) left
    refine ⟨fun i => ?_, last⟩
    cases i with
    | zero => exact .some shown
    | succ i => exact more i

private theorem shims_unused (config : Registry.Config) :
    Shims (unused .unified config) (unused .legacy config) where
  registry := ⟨rfl, fun _ => .none, rfl, rfl, rfl, rfl, rfl⟩
  addressing := rfl
  factory := rfl

/-- What is done to two bridges that start without sessions, the one with engines that use one
number space for files, the other with engines that number them per direction, is answered alike as
long as none of it is about files. Results and errors are the same step for step, and so are the
numbers and the times of drained events; of the events themselves only names and status messages of
a single NUL differ, which come empty through the shim. At the end every handle reaches the same
session, with the same violation and the same waiting events but for the shim, and an engine that
was asked the same and differs in nothing but how it numbers files. -/
theorem shim_transparent (config : Registry.Config) {steps : List Step}
    (plain : ∀ step ∈ steps, step.isFile = false) :
    (∀ i : Nat, Option.Rel Sight.Shims (performAll steps (unused .unified config)).1[i]?
        (performAll steps (unused .legacy config)).1[i]?) ∧
      (∀ handle, (performAll steps (unused .legacy config)).2.registry.occupant? handle =
        ((performAll steps (unused .unified config)).2.registry.occupant? handle).map
          fun occupant => { occupant with session := occupant.session.shimmed }) ∧
      (performAll steps (unused .legacy config)).2.registry.released =
        (performAll steps (unused .unified config)).2.registry.released.map
          Recorded.asLegacy := by
  obtain ⟨shown, left⟩ := shims_performAll plain (shims_unused config)
  refine ⟨shown, fun handle => ?_, left.registry.released⟩
  rcases left.registry.lookup handle with ⟨hs, ht⟩ | ⟨occupant, occupant', hs, ht, related⟩
  · rw [hs, ht, Option.map_none]
  · rw [hs, ht, Option.map_some, related.state, ← related.session.same]

/-- Names and a topic are told by hand, and status messages come in a pass. Some are a single NUL,
one has a NUL at its end, and one has none. -/
def namings : List Step :=
  [.create {},
    .visit ⟨0, 1⟩ (.request .epoch (.invoke
      ⟨[.friendName 3 [0], .friendName 4 [66, 111, 98], .groupTopic 1 2 [0]], false⟩)),
    .tweak ⟨0, 1⟩ (.script (.notify (.friendStatusMessage 3 [0]))),
    .tweak ⟨0, 1⟩ (.script (.notify (.friendStatusMessage 4 [104, 105, 0]))),
    .visit ⟨0, 1⟩ (.request .epoch .iterate), .visit ⟨0, 1⟩ .drain]

theorem namings_shimmed :
    (∀ step ∈ namings, step.isFile = false) ∧
      (performAll namings (unused .unified {})).1[5]? = some (.visited (.drained (.ok
        ⟨[⟨0, .epoch, .friendName 3 [0]⟩, ⟨1, .epoch, .friendName 4 [66, 111, 98]⟩,
          ⟨2, .epoch, .groupTopic 1 2 [0]⟩, ⟨3, .epoch, .friendStatusMessage 3 [0]⟩,
          ⟨4, .epoch, .friendStatusMessage 4 [104, 105, 0]⟩]⟩))) ∧
      (performAll namings (unused .legacy {})).1[5]? = some (.visited (.drained (.ok
        ⟨[⟨0, .epoch, .friendName 3 []⟩, ⟨1, .epoch, .friendName 4 [66, 111, 98]⟩,
          ⟨2, .epoch, .groupTopic 1 2 [0]⟩, ⟨3, .epoch, .friendStatusMessage 3 []⟩,
          ⟨4, .epoch, .friendStatusMessage 4 [104, 105, 0]⟩]⟩))) := by
  have plain : ∀ step ∈ namings, step.isFile = false := by decide
  have drained : (performAll namings (unused .unified {})).1[5]? = some (.visited (.drained (.ok
      ⟨[⟨0, .epoch, .friendName 3 [0]⟩, ⟨1, .epoch, .friendName 4 [66, 111, 98]⟩,
        ⟨2, .epoch, .groupTopic 1 2 [0]⟩, ⟨3, .epoch, .friendStatusMessage 3 [0]⟩,
        ⟨4, .epoch, .friendStatusMessage 4 [104, 105, 0]⟩]⟩))) := by decide +kernel
  obtain ⟨shown, -⟩ := shim_transparent {} plain
  have behind := shown 5
  rw [drained] at behind
  refine ⟨plain, drained, ?_⟩
  generalize (performAll namings (unused .legacy {})).1[5]? = answer at behind
  cases behind with
  | some h => exact congrArg some h.drained

end Bridge

end Switchboard
