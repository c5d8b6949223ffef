import Switchboard.Bridge
import Switchboard.Proofs.Recorded
import Switchboard.Proofs.Registry.Admission
import Switchboard.Proofs.Session.Agreement
import Switchboard.Simulation.SimulatedFactory
/-!
# Delivery

What the caller of one session gets to see (`serve`): the answers to its requests, and all events in
the order they came about, under the numbers 0, 1, 2, ..., either drained or still waiting. When and
how often it drains makes no difference to any of it, nor to what the engine is asked.

A run is compared with the one that makes the same requests and never drains (`serve_alike`). What
relates the two queues may depend on the events drained so far, and takes part in the induction as
long as pushing and draining preserve it (`Accounted`).
-/

namespace Switchboard

namespace Bridge

variable {φ ε : Type}

/-! ## A session from outside -/

/-- What the caller of a session may do, other than remove it. -/
inductive Action where
  | request (now : Timestamp) (request : Request)
  | drain
  | drainEncoded

/-- A drain, with the batch it took and, if it was encoded, the text it gave for it. -/
structure Drain where
  batch : Outcome BridgeError Batch
  text? : Option (Outcome BridgeError (List Char))

/-- How the requests ended, what the drains gave, and the bridge after it all. -/
structure Served (φ ε : Type) where
  outcomes : List (Outcome CallError Reply)
  drains : List Drain
  bridge : Bridge φ ε

def taken : Outcome BridgeError Batch → List Envelope
  | .ok batch => batch.envelopes
  | _ => []

def Served.drained (served : Served φ ε) : List Envelope :=
  served.drains.flatMap fun drain => taken drain.batch

def serve [Engine ε] (handle : Handle) : List Action → Bridge φ ε → Served φ ε
  | [], bridge => ⟨[], [], bridge⟩
  | .request now request :: rest, bridge =>
    let ran := Bridge.request now handle request bridge
    let after := serve handle rest ran.state
    { after with outcomes := ran.outcome :: after.outcomes }
  | .drain :: rest, bridge =>
    let ran := Bridge.drain handle bridge
    let after := serve handle rest ran.state
    { after with drains := ⟨ran.outcome, none⟩ :: after.drains }
  | .drainEncoded :: rest, bridge =>
    let ran := Bridge.drainEncoded handle bridge
    let after := serve handle rest ran.state
    let batch := (Bridge.drain handle bridge).outcome
    { after with drains := ⟨batch, some ran.outcome⟩ :: after.drains }

def requests : List Action → List Request
  | [] => []
  | .request _ request :: rest => request :: requests rest
  | .drain :: rest => requests rest
  | .drainEncoded :: rest => requests rest

def waiting (handle : Handle) (bridge : Bridge φ ε) : List Envelope :=
  ((bridge.registry.occupant? handle).map (·.session.events.pending)).getD []

/-- The engine of a session. -/
def engine? (handle : Handle) (bridge : Bridge φ ε) : Option ε :=
  (bridge.registry.occupant? handle).bind (·.session.engine)

/-- All that was drained, and then what still waits. -/
def delivered [Engine ε] (handle : Handle) (actions : List Action) (bridge : Bridge φ ε) :
    List Envelope :=
  (serve handle actions bridge).drained ++ waiting handle (serve handle actions bridge).bridge

theorem serve_append [Engine ε] (handle : Handle) (first second : List Action)
    (bridge : Bridge φ ε) :
    serve handle (first ++ second) bridge =
      ⟨(serve handle first bridge).outcomes ++
          (serve handle second (serve handle first bridge).bridge).outcomes,
        (serve handle first bridge).drains ++
          (serve handle second (serve handle first bridge).bridge).drains,
        (serve handle second (serve handle first bridge).bridge).bridge⟩ := by
  induction first generalizing bridge with
  | nil => rfl
  | cons action rest ih =>
    cases action <;> simp only [List.cons_append, serve, ih]

theorem drained_append [Engine ε] (handle : Handle) (first second : List Action)
    (bridge : Bridge φ ε) :
    (serve handle (first ++ second) bridge).drained =
      (serve handle first bridge).drained ++
        (serve handle second (serve handle first bridge).bridge).drained := by
  rw [serve_append]
  exact List.flatMap_append

theorem drained_drain [Engine ε] (handle : Handle) (rest : List Action) (bridge : Bridge φ ε) :
    (serve handle (.drain :: rest) bridge).drained =
      taken (drain handle bridge).outcome ++
        (serve handle rest (drain handle bridge).state).drained := rfl

/-! ## Encoded drains -/

theorem drainEncoded_apply (handle : Handle) (bridge : Bridge φ ε) :
    Outcome.Rel (fun batch text => text = batch.encode) (drain handle bridge).outcome
        (drainEncoded handle bridge).outcome ∧
      (drainEncoded handle bridge).state = (drain handle bridge).state := by
  simp only [drainEncoded, Run.bind_apply, Run.andThen]
  cases (drain handle bridge).outcome with
  | ok batch => exact ⟨.ok rfl, rfl⟩
  | error cause => exact ⟨.error cause, rfl⟩
  | panic => exact ⟨.panic, rfl⟩

/-- An encoded drain is a drain but for the text it gives. -/
theorem serve_drainEncoded [Engine ε] (handle : Handle) (bridge : Bridge φ ε)
    (rest : List Action) :
    serve handle (.drainEncoded :: rest) bridge =
      { serve handle (.drain :: rest) bridge with
        drains := ⟨(drain handle bridge).outcome, some (drainEncoded handle bridge).outcome⟩ ::
          (serve handle rest (drain handle bridge).state).drains } := by
  simp only [serve, (drainEncoded_apply handle bridge).2]

/-- A text that the drain gave is that of the batch it took, and it failed as a drain would. -/
def Drain.Encoded (drain : Drain) : Prop :=
  ∀ text, drain.text? = some text →
    Outcome.Rel (fun batch text => text = batch.encode) drain.batch text

theorem encoded_serve [Engine ε] (handle : Handle) (actions : List Action) (bridge : Bridge φ ε) :
    ∀ drain ∈ (serve handle actions bridge).drains, drain.Encoded := by
  induction actions generalizing bridge with
  | nil => exact fun _ h => nomatch h
  | cons action rest ih =>
    cases action with
    | request now request => exact ih _
    | drain =>
      refine List.forall_mem_cons.mpr ⟨fun text given => ?_, ih _⟩
      cases given
    | drainEncoded =>
      refine List.forall_mem_cons.mpr ⟨fun text given => ?_, ih _⟩
      cases given
      exact (drainEncoded_apply handle bridge).1

theorem moves_onRegistry {δ α : Type} {R : Registry ε → Registry ε → Prop}
    {operation : Run (Registry ε) δ α} (h : Run.Moves R operation) :
    Run.Moves (fun first second : Bridge φ ε => R first.registry second.registry)
      (onRegistry operation) := fun bridge => h bridge.registry

/-! ## The session behind the handle -/

/-- The handle reaches this session. -/
structure Serving (handle : Handle) (session : Session ε) (bridge : Bridge φ ε) : Prop where
  healthy : bridge.registry.lockPoisoned = false
  occupant : bridge.registry.occupant? handle = some ⟨.active, session⟩

section Serving

variable {handle : Handle} {session : Session ε} {bridge : Bridge φ ε}

theorem Serving.replace (serving : Serving handle session bridge) (next : Session ε) :
    Serving handle next
      { bridge with registry := bridge.registry.setOccupant handle ⟨.active, next⟩ } := by
  obtain ⟨slot, hs, hg, -⟩ := Registry.occupant?_eq_some.mp serving.occupant
  refine ⟨?_, Registry.occupant?_setOccupant hs hg _⟩
  exact (Registry.setOccupant_lockPoisoned _ _ _).trans serving.healthy

theorem Serving.request [Engine ε] (serving : Serving handle session bridge) (now : Timestamp)
    (request : Request) :
    (Bridge.request now handle request bridge).outcome =
        (Session.hold (request.perform now) session).outcome ∧
      Serving handle (Session.hold (request.perform now) session).state
        (Bridge.request now handle request bridge).state := by
  simp only [Bridge.request, onRegistry, Run.onPart,
    Registry.withSession_of_active serving.healthy serving.occupant rfl]
  exact ⟨trivial, serving.replace _⟩

theorem Serving.drain (serving : Serving handle session bridge) :
    (Bridge.drain handle bridge).outcome = (Session.drain session).outcome ∧
      Serving handle (Session.drain session).state (Bridge.drain handle bridge).state := by
  simp only [Bridge.drain, onRegistry, Run.onPart,
    Registry.drain_of_active serving.healthy serving.occupant rfl]
  exact ⟨trivial, serving.replace _⟩

theorem Serving.waiting (serving : Serving handle session bridge) :
    Bridge.waiting handle bridge = session.events.pending := by
  simp [Bridge.waiting, serving.occupant]

theorem Serving.engine? (serving : Serving handle session bridge) :
    Bridge.engine? handle bridge = session.engine := by
  simp [Bridge.engine?, serving.occupant]

end Serving

theorem warn_apply (warnings : List OptionWarning) (bridge : Bridge φ ε) :
    ∃ entries, (warn warnings : Run (Bridge φ ε) CallError Unit) bridge =
      ⟨.ok (), bridge, entries⟩ := by
  induction warnings with
  | nil => exact ⟨[], rfl⟩
  | cons warning rest ih =>
    obtain ⟨entries, he⟩ := ih
    simp only [warn, Run.bind_apply, Run.log_apply, Run.andThen_ok, he]
    exact ⟨_, rfl⟩

/-- Either nothing is added to the registry, or an engine that was made for what was planned. -/
theorem create_cases [Engine ε] [Factory φ ε] (options : EngineOptions) (bridge : Bridge φ ε) :
    ((∀ handle, (create options bridge).outcome ≠ .ok handle) ∧
        (create options bridge).state.registry = bridge.registry) ∨
      ∃ settings warnings engine factory, options.plan = .ok (settings, warnings) ∧
        Factory.create settings bridge.factory = (.ok engine, factory) ∧
        (create options bridge).state.registry = (Registry.add engine bridge.registry).state ∧
        ∀ handle, (create options bridge).outcome = .ok handle ↔
          (Registry.add engine bridge.registry).outcome = .ok handle := by
  unfold create
  cases hplan : options.plan with
  | error fault => exact .inl ⟨fun _ => nofun, rfl⟩
  | ok planned =>
    obtain ⟨settings, warnings⟩ := planned
    obtain ⟨entries, hwarn⟩ := warn_apply warnings bridge
    rcases hmade : Factory.create (ε := ε) settings bridge.factory with ⟨made, factory⟩
    simp only [Run.bind_apply, hwarn, Run.andThen_ok, make, hmade]
    cases made with
    | error code =>
      dsimp only
      cases Operation.create.reason? code with
      | some reason => exact .inl ⟨fun _ => nofun, rfl⟩
      | none => exact .inl ⟨fun _ => nofun, rfl⟩
    | ok engine =>
      refine .inr ⟨settings, warnings, engine, factory, rfl, hmade, ?_, fun handle => ?_⟩
      · simp only [onRegistry, Run.onPart, Run.mapError]
        split <;> rfl
      · simp only [onRegistry, Run.onPart, Run.mapError]
        cases (Registry.add engine bridge.registry).outcome <;> simp

/-- A handle that was just issued reaches the new session of an engine that the factory made. -/
theorem opened_of_create [Engine ε] [Factory φ ε] {options : EngineOptions} {bridge : Bridge φ ε}
    {handle : Handle} (h : (create options bridge).outcome = .ok handle) :
    ∃ settings engine factory addressing asked left,
      Factory.create settings bridge.factory = (.ok engine, factory) ∧
      Engine.perform .addressing engine = (some addressing, asked) ∧
      Session.subscribe NotificationKind.all asked = (true, left) ∧
      Serving handle
        (Session.opened handle left addressing bridge.registry.config.warnThreshold)
        (create options bridge).state := by
  rcases create_cases options bridge with
    ⟨none, -⟩ | ⟨settings, _, engine, factory, -, hmade, hstate, hok⟩
  · exact absurd h (none handle)
  · have hadd := Registry.added_add engine bridge.registry
    rw [(hok handle).mp h] at hadd
    generalize hnext : (Registry.add engine bridge.registry).state = next at hadd hstate
    cases hadd with
    | active hl claimed ha hs =>
      refine ⟨settings, engine, factory, _, _, _, hmade, ha, hs, ?_, ?_⟩
      · rw [hstate]
        exact (Registry.admitted_lockPoisoned claimed _ _).trans hl
      · rw [hstate]
        exact Registry.occupant?_admitted claimed _ _

theorem serving_create [Engine ε] [Factory φ ε] {options : EngineOptions} {bridge : Bridge φ ε}
    {handle : Handle} (h : (create options bridge).outcome = .ok handle) :
    ∃ session, Serving handle session (create options bridge).state ∧ session.events = .empty := by
  obtain ⟨_, _, _, _, _, _, _, _, _, serving⟩ := opened_of_create h
  exact ⟨_, serving, rfl⟩

/-! ## Runs side by side -/

/-- What is known of two queues, given what was drained of the first, and stays known when one event
is pushed on both, and when the first is drained. -/
structure Accounted (Q : List Envelope → EventQueue → EventQueue → Prop) : Prop where
  push : ∀ drained, EventQueue.PushClosed (Q drained)
  drain : ∀ {drained first second}, Q drained first second →
    Q (drained ++ first.pending) first.drain.2 second

/-- Under one handle, sessions that are alike but for their queues. -/
def Alike (handle : Handle) (Q : EventQueue → EventQueue → Prop) (first second : Bridge φ ε) :
    Prop :=
  ∃ session session', Serving handle session first ∧ Serving handle session' second ∧
    session.Like Q session'

section Alike

variable {handle : Handle} {Q : List Envelope → EventQueue → EventQueue → Prop}
  {drained : List Envelope} {first second : Bridge φ ε}

private theorem alike_request [Engine ε] (accounted : Accounted Q) (now now' : Timestamp)
    (request : Request) (h : Alike handle (Q drained) first second) :
    (Bridge.request now handle request first).outcome =
        (Bridge.request now' handle request second).outcome ∧
      Alike handle (Q drained) (Bridge.request now handle request first).state
        (Bridge.request now' handle request second).state := by
  obtain ⟨session, session', hf, hs, hlike⟩ := h
  obtain ⟨hof, hsf⟩ := hf.request now request
  obtain ⟨hos, hss⟩ := hs.request now' request
  have closed : EventQueue.PushClosedAt now now' (Q drained) :=
    EventQueue.PushClosed.closedAt (accounted.push drained)
  obtain ⟨ho, hnext⟩ := Session.agree_hold (request.agree_perform closed) session session' hlike
  exact ⟨hof.trans (ho.trans hos.symm), _, _, hsf, hss, hnext⟩

/-- A session whose lock is broken gives nothing, and keeps what waits. -/
theorem alike_drain (accounted : Accounted Q) (h : Alike handle (Q drained) first second) :
    Alike handle (Q (drained ++ taken (Bridge.drain handle first).outcome))
      (Bridge.drain handle first).state second := by
  obtain ⟨session, session', hf, hs, hlike⟩ := h
  obtain ⟨ho, hnext⟩ := hf.drain
  refine ⟨_, session', hnext, hs, ?_⟩
  rw [ho]
  cases hp : session.lockPoisoned with
  | true => simpa [Session.drain, hp, taken] using hlike
  | false =>
    simp only [Session.drain, hp, Bool.false_eq_true, if_false]
    exact ⟨⟨hlike.core.handle, accounted.drain hlike.core.events, hlike.core.transfers,
      hlike.core.violation⟩, hlike.engine, hp.symm.trans hlike.lockPoisoned⟩

/-- A run against the one that makes its requests all at one time and drains nothing. -/
theorem serve_alike [Engine ε] (accounted : Accounted Q) (actions : List Action)
    (h : Alike handle (Q drained) first second) :
    (serve handle actions first).outcomes =
        (serve handle ((requests actions).map (.request .epoch)) second).outcomes ∧
      Alike handle (Q (drained ++ (serve handle actions first).drained))
        (serve handle actions first).bridge
        (serve handle ((requests actions).map (.request .epoch)) second).bridge := by
  induction actions generalizing drained first second with
  | nil => simpa [serve, requests, Served.drained] using h
  | cons action rest ih =>
    cases action with
    | request now request =>
      obtain ⟨ho, hnext⟩ := alike_request accounted now .epoch request h
      obtain ⟨hos, hend⟩ := ih hnext
      exact ⟨by simp only [serve, requests, List.map_cons, ho, hos], hend⟩
    | drain =>
      obtain ⟨hos, hend⟩ := ih (alike_drain accounted h)
      rw [List.append_assoc] at hend
      exact ⟨hos, hend⟩
    | drainEncoded =>
      obtain ⟨hos, hend⟩ := ih (alike_drain accounted h)
      rw [List.append_assoc] at hend
      rw [serve_drainEncoded]
      exact ⟨hos, hend⟩

end Alike

/-! ## What is known of the queues -/

def content (envelope : Envelope) : UInt64 × Event := (envelope.seq, envelope.event)

/-- Drained and waiting events of the first are the waiting events of the second. -/
def SameEvents (drained : List Envelope) (first second : EventQueue) : Prop :=
  (drained ++ first.pending).map content = second.pending.map content ∧
    first.nextSeq = second.nextSeq

private theorem accounted_sameEvents : Accounted SameEvents where
  push := by
    rintro drained first second now now' event ⟨hpending, hseq⟩
    refine ⟨?_, congrArg (· + 1) hseq⟩
    rw [EventQueue.pending_push, EventQueue.pending_push, ← List.append_assoc, List.map_append,
      hpending, List.map_append, List.map_singleton, List.map_singleton, content, content, hseq]
  drain := by
    rintro drained first second ⟨hpending, hseq⟩
    refine ⟨?_, hseq⟩
    rw [EventQueue.pending_drain, List.append_nil]
    exact hpending

/-- Drained and waiting events are numbered without a gap, and the next number goes on from
there. -/
def Numbered (drained : List Envelope) (first _second : EventQueue) : Prop :=
  (drained ++ first.pending).map (·.seq) =
      (List.range (drained ++ first.pending).length).map UInt64.ofNat ∧
    first.nextSeq = UInt64.ofNat (drained ++ first.pending).length

private theorem accounted_numbered : Accounted Numbered where
  push := by
    rintro drained first second now now' event ⟨hpending, hseq⟩
    have hpush : drained ++ (first.push now event).pending =
        (drained ++ first.pending) ++ [⟨first.nextSeq, now, event⟩] := by
      rw [EventQueue.pending_push, List.append_assoc]
    rw [Numbered, hpush, List.length_append, List.length_singleton]
    constructor
    · rw [List.range_succ, List.map_append, hpending, List.map_append, List.map_singleton,
        List.map_singleton, hseq]
    · rw [UInt64.ofNat_add, ← hseq]
      rfl
  drain := by
    rintro drained first second ⟨hpending, hseq⟩
    simp only [Numbered, EventQueue.pending_drain, List.append_nil]
    exact ⟨hpending, hseq⟩

/-- Drained and waiting events begin with these. -/
def Begins (earlier drained : List Envelope) (first _second : EventQueue) : Prop :=
  earlier <+: drained ++ first.pending

private theorem accounted_begins (earlier : List Envelope) : Accounted (Begins earlier) where
  push := by
    intro drained first second now now' event h
    simp only [Begins, EventQueue.pending_push, ← List.append_assoc]
    exact h.trans (List.prefix_append _ _)
  drain := by
    intro drained first second h
    simp only [Begins, EventQueue.pending_drain, List.append_nil]
    exact h

/-! ## Delivery -/

section Delivery

variable {handle : Handle} {session : Session ε} {bridge : Bridge φ ε}

/-- A session is alike itself as far as its queue is related to itself. -/
theorem Serving.alike {Q : EventQueue → EventQueue → Prop}
    (serving : Serving handle session bridge) (h : Q session.events session.events) :
    Alike handle Q bridge bridge :=
  ⟨session, session, serving, serving, ⟨rfl, h, rfl, rfl⟩, rfl, rfl⟩

theorem delivered_numbered [Engine ε] (serving : Serving handle session bridge)
    (hnew : session.events = .empty) (actions : List Action) :
    (delivered handle actions bridge).map (·.seq) =
      (List.range (delivered handle actions bridge).length).map UInt64.ofNat := by
  have hstart : Numbered [] session.events session.events := by
    rw [hnew]
    exact ⟨rfl, rfl⟩
  obtain ⟨-, last, _, hlast, -, hlike⟩ :=
    serve_alike accounted_numbered actions (serving.alike hstart)
  rw [delivered, hlast.waiting]
  exact hlike.core.events.1

theorem delivered_prefix [Engine ε] (serving : Serving handle session bridge)
    (first rest : List Action) :
    delivered handle first bridge <+: delivered handle (first ++ rest) bridge := by
  have hnil : Begins [] [] session.events session.events := List.nil_prefix
  obtain ⟨-, between, _, hbetween, -⟩ :=
    serve_alike (accounted_begins []) first (serving.alike hnil)
  have hstart : Begins (delivered handle first bridge) (serve handle first bridge).drained
      between.events between.events := by
    rw [delivered, hbetween.waiting]
    exact List.prefix_rfl
  obtain ⟨-, last, _, hlast, -, hlike⟩ :=
    serve_alike (accounted_begins _) rest (hbetween.alike hstart)
  rw [delivered, delivered, drained_append, serve_append, hlast.waiting]
  exact hlike.core.events

/-- What a run shows is that of the run that makes its requests and never drains. -/
theorem serve_undrained [Engine ε] (serving : Serving handle session bridge)
    (actions : List Action) :
    (serve handle actions bridge).outcomes =
        (serve handle ((requests actions).map (.request .epoch)) bridge).outcomes ∧
      (delivered handle actions bridge).map content =
        (waiting handle (serve handle ((requests actions).map (.request .epoch)) bridge).bridge).map
          content ∧
      engine? handle (serve handle actions bridge).bridge =
        engine? handle (serve handle ((requests actions).map (.request .epoch)) bridge).bridge := by
  have hstart : SameEvents [] session.events session.events := ⟨rfl, rfl⟩
  obtain ⟨ho, last, last', hlast, hlast', hlike⟩ :=
    serve_alike accounted_sameEvents actions (serving.alike hstart)
  refine ⟨ho, ?_, ?_⟩
  · rw [delivered, hlast.waiting, hlast'.waiting]
    exact hlike.core.events.1
  · rw [hlast.engine?, hlast'.engine?]
    exact hlike.engine

/-- From its creation on, a session's events are delivered once each and in order, under the
numbers 0, 1, 2, ...: what is there to be seen after some actions stays, and only grows at its end.
An encoded drain gives the text of the batch that it delivers. Two runs that make the same requests,
each with drains of its own, get the same answers and the same events, and make the same calls to
the engine. -/
theorem delivery_in_order [Engine ε] [Factory φ ε] {options : EngineOptions}
    {start : Bridge φ (Recorded ε)} {handle : Handle}
    (created : (create options start).outcome = .ok handle) :
    (∀ actions, (delivered handle actions (create options start).state).map (·.seq) =
        (List.range (delivered handle actions (create options start).state).length).map
          UInt64.ofNat) ∧
      (∀ first rest, delivered handle first (create options start).state <+:
        delivered handle (first ++ rest) (create options start).state) ∧
      (∀ actions, ∀ drain ∈ (serve handle actions (create options start).state).drains,
        drain.Encoded) ∧
      ∀ actions others, requests actions = requests others →
        (serve handle actions (create options start).state).outcomes =
            (serve handle others (create options start).state).outcomes ∧
          (delivered handle actions (create options start).state).map content =
            (delivered handle others (create options start).state).map content ∧
          engine? handle (serve handle actions (create options start).state).bridge =
            engine? handle (serve handle others (create options start).state).bridge := by
  obtain ⟨session, serving, hnew⟩ := serving_create created
  refine ⟨delivered_numbered serving hnew, delivered_prefix serving,
    fun actions => encoded_serve handle actions _, ?_⟩
  intro actions others same
  obtain ⟨hao, had, hae⟩ := serve_undrained serving actions
  obtain ⟨hoo, hod, hoe⟩ := serve_undrained serving others
  rw [← same] at hoo hod hoe
  exact ⟨hao.trans hoo.symm, had.trans hod.symm, hae.trans hoe.symm⟩

end Delivery

def unused {ε : Type} (addressing : Addressing) (config : Registry.Config) :
    Bridge SimulatedFactory ε := ⟨.empty config, { addressing := addressing }⟩

def sampleBridge : Bridge SimulatedFactory (Recorded SimulatedEngine) :=
  ⟨.empty {}, { addressing := .unified }⟩

def joined (group : UInt32) : Action := .request .epoch (.invoke ⟨[.groupSelfJoin group], false⟩)

/-- Two notifications, drained in between or in the end. -/
theorem delivered_with_other_drains :
    (create {} sampleBridge).outcome = .ok ⟨0, 1⟩ ∧
      (delivered ⟨0, 1⟩ [joined 1, .drain, joined 2] (create {} sampleBridge).state).map content =
        [(0, .groupSelfJoin 1), (1, .groupSelfJoin 2)] ∧
      (delivered ⟨0, 1⟩ [joined 1, joined 2, .drainEncoded]
        (create {} sampleBridge).state).map content =
          [(0, .groupSelfJoin 1), (1, .groupSelfJoin 2)] := by
  have created : (create {} sampleBridge).outcome = .ok ⟨0, 1⟩ := by rfl
  obtain ⟨-, hsame, -⟩ := (delivery_in_order created).2.2.2
    [joined 1, joined 2, .drainEncoded] [joined 1, .drain, joined 2] rfl
  rw [hsame]
  exact ⟨created, by decide +kernel, by decide +kernel⟩

end Bridge

end Switchboard
