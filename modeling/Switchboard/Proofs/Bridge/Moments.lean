import Switchboard.Proofs.Bridge.Delivery
import Switchboard.Proofs.Session.Effects
/-!
# The moments of a run

The moments of all the requests of a run, one after the other, tell what the run did to a session
that has a transfer table. As long as they have an effect, it is what the caller was given, what the
engine was told about transfers, and the table that is left (`run_of_follow`). If they have none,
the session is disabled or its lock broken (`comes_serve`).
-/

namespace Switchboard

namespace Bridge

variable {φ ε : Type}

def table? (handle : Handle) (bridge : Bridge φ ε) : Option Transfer.Table :=
  (bridge.registry.occupant? handle).bind (·.session.transfers)

theorem Serving.table? {handle : Handle} {session : Session ε} {bridge : Bridge φ ε}
    (serving : Serving handle session bridge) :
    Bridge.table? handle bridge = session.transfers := by
  rw [Bridge.table?, serving.occupant]
  rfl

/-- The moments of the requests of a run. -/
def moments [Engine ε] (handle : Handle) : List Action → Bridge φ ε → List Moment
  | [], _ => []
  | .request now request :: rest, bridge =>
    let ran := Bridge.request now handle request bridge
    ((engine? handle bridge).map fun engine => request.moments engine ran.outcome).getD [] ++
      moments handle rest ran.state
  | .drain :: rest, bridge => moments handle rest (Bridge.drain handle bridge).state
  | .drainEncoded :: rest, bridge => moments handle rest (Bridge.drainEncoded handle bridge).state

structure Works (session : Session (Recorded ε)) (engine : Recorded ε) (table : Transfer.Table) :
    Prop where
  healthy : session.lockPoisoned = false
  able : session.violation = none
  engine : session.engine = some engine
  transfers : session.transfers = some table

/-- The session was disabled, or its lock is broken. -/
def Down (session : Session (Recorded ε)) : Prop :=
  session.violation.isSome = true ∨ session.lockPoisoned = true

theorem works_or_down {session : Session (Recorded ε)} {engine : Recorded ε}
    {table : Transfer.Table} (he : session.engine = some engine)
    (ht : session.transfers = some table) : Works session engine table ∨ Down session := by
  cases hl : session.lockPoisoned with
  | true => exact .inr (.inr hl)
  | false =>
    cases hv : session.violation with
    | none => exact .inl ⟨hl, hv, he, ht⟩
    | some violation => exact .inr (.inl (by rw [hv]; rfl))

section Hold

variable [Engine ε] {session : Session (Recorded ε)} {engine : Recorded ε} {table : Transfer.Table}

theorem hold_of_works (works : Works session engine table) (now : Timestamp) (request : Request) :
    let ran := Session.hold (request.perform now) session
    match follow (request.moments engine ran.outcome) table with
    | some effect => ∃ left, Works ran.state left effect.table ∧
        ran.state.events = session.events.pushAll now effect.events ∧
        left.transferCalls = engine.transferCalls ++ effect.calls
    | none => Down ran.state := by
  have hfollowed := HeldSession.followed_perform now request
    (show (⟨session.toCore, engine⟩ : HeldSession (Recorded ε)).transfers = some table
      from works.transfers) works.able
  simp only [Session.hold, works.healthy, works.able, works.engine, Bool.false_eq_true, if_false,
    Option.isSome_none]
  rcases hran : request.perform now ⟨session.toCore, engine⟩ with ⟨outcome, state, entries⟩
  rw [hran] at hfollowed
  dsimp only at hfollowed ⊢
  generalize follow (request.moments engine outcome) table = effect at hfollowed ⊢
  cases hfollowed with
  | shown ho hs =>
    refine ⟨state.engine, ⟨?_, hs.able, rfl, hs.transfers⟩, hs.events, hs.calls⟩
    cases outcome with
    | panic => exact absurd rfl ho
    | _ => rfl
  | disabled hv => exact .inl hv
  | panicked => exact .inr rfl

theorem hold_of_down (down : Down session) (now : Timestamp) (request : Request) :
    (Session.hold (request.perform now) session).state = session := by
  unfold Session.hold
  split
  · rfl
  · split
    · rfl
    · rename_i hl hv
      rcases down with h | h
      · exact absurd h hv
      · exact absurd h hl

theorem not_ok_of_down (down : Down session) (now : Timestamp) (request : Request)
    (reply : Reply) : (Session.hold (request.perform now) session).outcome ≠ .ok reply := by
  unfold Session.hold
  split
  · exact fun h => nomatch h
  · split
    · exact fun h => nomatch h
    · rename_i hl hv
      rcases down with h | h
      · exact absurd h hv
      · exact absurd h hl

omit [Engine ε] in
theorem drain_of_down (down : Down session) :
    Down (Session.drain session).state ∧
      taken (Session.drain session).outcome ++ (Session.drain session).state.events.pending =
        session.events.pending ∧
      (Session.drain session).state.transfers = session.transfers := by
  unfold Session.drain
  split
  · exact ⟨down, rfl, rfl⟩
  · exact ⟨down, List.append_nil _, rfl⟩

omit [Engine ε] in
theorem drain_of_works (works : Works session engine table) :
    (Session.drain session).outcome = .ok session.toCore.drain.1 ∧
      Works (Session.drain session).state engine table ∧
      (Session.drain session).state.events.pending = [] := by
  simp only [Session.drain, works.healthy, Bool.false_eq_true, if_false]
  exact ⟨trivial, ⟨rfl, works.able, works.engine, works.transfers⟩, rfl⟩

end Hold

/-! ## Runs -/

section Runs

variable [Engine ε] {handle : Handle} {bridge : Bridge φ (Recorded ε)}
  {session : Session (Recorded ε)} {engine : Recorded ε} {table : Transfer.Table}

theorem moments_drainEncoded (rest : List Action) :
    moments handle (.drainEncoded :: rest) bridge = moments handle (.drain :: rest) bridge := by
  simp only [moments, (drainEncoded_apply handle bridge).2]

/-- A session that is down stays so. Its events can be drained, and that is all. -/
theorem serve_of_down (actions : List Action) (serving : Serving handle session bridge)
    (down : Down session) :
    ∃ last, Serving handle last (serve handle actions bridge).bridge ∧ Down last ∧
      (serve handle actions bridge).drained ++ last.events.pending = session.events.pending ∧
      last.transfers = session.transfers := by
  induction actions generalizing session bridge with
  | nil => exact ⟨session, serving, down, rfl, rfl⟩
  | cons action rest ih =>
    have hdrain : ∃ last, Serving handle last (serve handle (.drain :: rest) bridge).bridge ∧
        Down last ∧
        (serve handle (.drain :: rest) bridge).drained ++ last.events.pending =
          session.events.pending ∧
        last.transfers = session.transfers := by
      obtain ⟨ho, hserving⟩ := serving.drain
      obtain ⟨hdown, hevents, htransfers⟩ := drain_of_down down
      obtain ⟨last, hlast, hstays, hdrained, hleft⟩ := ih hserving hdown
      refine ⟨last, hlast, hstays, ?_, hleft.trans htransfers⟩
      rw [← hevents, ← hdrained]
      rw [drained_drain, ho, List.append_assoc]
    cases action with
    | request now request =>
      have hserving := (serving.request now request).2
      rw [hold_of_down down] at hserving
      exact ih hserving down
    | drain => exact hdrain
    | drainEncoded =>
      rw [serve_drainEncoded]
      exact hdrain

/-- A drain gives out what waits, and whatever is given out or waits later comes after that. -/
theorem drained_of_drain (serving : Serving handle session bridge)
    (works : Works session engine table) {rest : List Action} {last : Session (Recorded ε)}
    {events : List Event}
    (h : ((serve handle rest (Bridge.drain handle bridge).state).drained ++
        last.events.pending).map (·.event) =
      (Session.drain session).state.events.pending.map (·.event) ++ events) :
    ((serve handle (.drain :: rest) bridge).drained ++ last.events.pending).map (·.event) =
      session.events.pending.map (·.event) ++ events := by
  obtain ⟨hbatch, -, hempty⟩ := drain_of_works works
  rw [hempty, List.map_nil, List.nil_append] at h
  rw [drained_drain, serving.drain.1, hbatch, List.append_assoc, List.map_append, h]
  rfl

/-- What a run that begins with this session has come to: the effect shows, or there is none and the
session is down. -/
def Comes (handle : Handle) (session : Session (Recorded ε)) (engine : Recorded ε)
    (served : Served φ (Recorded ε)) : Option Effect → Prop
  | some effect => ∃ last left, Serving handle last served.bridge ∧ Works last left effect.table ∧
      (served.drained ++ last.events.pending).map (·.event) =
        session.events.pending.map (·.event) ++ effect.events ∧
      left.transferCalls = engine.transferCalls ++ effect.calls
  | none => ∃ last, Serving handle last served.bridge ∧ Down last

theorem comes_serve (actions : List Action) (serving : Serving handle session bridge)
    (works : Works session engine table) :
    Comes handle session engine (serve handle actions bridge)
      (follow (moments handle actions bridge) table) := by
  induction actions generalizing session bridge engine table with
  | nil =>
    refine ⟨session, engine, serving, works, ?_, ?_⟩
    · exact (List.append_nil _).symm
    · exact (List.append_nil _).symm
  | cons action rest ih =>
    have hdrain : Comes handle session engine (serve handle (.drain :: rest) bridge)
        (follow (moments handle (.drain :: rest) bridge) table) := by
      have hrest := ih serving.drain.2 (drain_of_works works).2.1
      simp only [moments]
      cases hf : follow (moments handle rest (Bridge.drain handle bridge).state) table with
      | none =>
        rw [hf] at hrest
        exact hrest
      | some effect =>
        rw [hf] at hrest
        obtain ⟨last, left, hlast, hworks, hevents, hcalls⟩ := hrest
        exact ⟨last, left, hlast, hworks, drained_of_drain serving works hevents, hcalls⟩
    cases action with
    | request now request =>
      obtain ⟨ho, hserving⟩ := serving.request now request
      have hhold := hold_of_works works now request
      dsimp only at hhold
      simp only [moments, serving.engine?, works.engine, Option.map_some, Option.getD_some, ho,
        follow_append]
      generalize follow (request.moments engine
        (Session.hold (request.perform now) session).outcome) table = effect at hhold ⊢
      cases effect with
      | none =>
        obtain ⟨last, hlast, hdown, -⟩ := serve_of_down rest hserving hhold
        exact ⟨last, hlast, hdown⟩
      | some effect =>
        obtain ⟨left, hworks, hevents, hcalls⟩ := hhold
        have hrest := ih hserving hworks
        simp only [Option.bind_some]
        cases hf : follow (moments handle rest (Bridge.request now handle request bridge).state)
            effect.table with
        | none =>
          rw [hf] at hrest
          exact hrest
        | some more =>
          rw [hf] at hrest
          obtain ⟨last, left', hlast, hworks', hevents', hcalls'⟩ := hrest
          refine ⟨last, left', hlast, hworks', ?_, ?_⟩
          · rw [hevents, EventQueue.events_pushAll, List.append_assoc] at hevents'
            exact hevents'
          · rw [hcalls', hcalls, List.append_assoc]
            rfl
    | drain => exact hdrain
    | drainEncoded =>
      rw [serve_drainEncoded, moments_drainEncoded]
      exact hdrain

/-! ## From the creation on -/

private theorem transferCalls_subscribe {kinds : List NotificationKind} {asked left : Recorded ε}
    {went : Bool} (h : Session.subscribe kinds asked = (went, left)) :
    left.transferCalls = asked.transferCalls := by
  induction kinds generalizing asked with
  | nil =>
    cases h
    rfl
  | cons kind rest ih =>
    have hcalls := Recorded.transferCalls_perform (.register kind) asked
    rw [Session.subscribe] at h
    rcases hp : Engine.perform (.register kind) asked with ⟨answer, next⟩
    rw [hp] at h hcalls
    have hsame : next.transferCalls = asked.transferCalls := hcalls.trans (List.append_nil _)
    cases answer with
    | none =>
      cases h
      exact hsame
    | some value => exact (ih h).trans hsame

/-- A new session that has a transfer table works, and nothing has happened to it. -/
theorem works_of_create [Factory φ ε] {options : EngineOptions} {start : Bridge φ (Recorded ε)}
    (created : (create options start).outcome = .ok handle)
    (legacy : table? handle (create options start).state = some .empty) :
    ∃ session engine, Serving handle session (create options start).state ∧
      Works session engine .empty ∧ session.events = .empty ∧ engine.transferCalls = [] := by
  obtain ⟨settings, engine, factory, addressing, asked, left, hmade, ha, hs, serving⟩ :=
    opened_of_create created
  have hnew : engine.transferCalls = [] := by
    have hmap : (Factory.create (ε := ε) settings start.factory).1.map
        (fun inner => (⟨inner, []⟩ : Recorded ε)) = .ok engine := congrArg Prod.fst hmade
    obtain ⟨inner, -, rfl⟩ := Notification.map_ok_iff.mp hmap
    rfl
  have hasked := Recorded.transferCalls_perform .addressing engine
  rw [ha] at hasked
  have hcalls : left.transferCalls = [] := by
    rw [transferCalls_subscribe hs, hasked, hnew]
    rfl
  rw [table?, serving.occupant] at legacy
  cases addressing with
  | unified => cases legacy
  | legacy =>
    exact ⟨_, left, serving, ⟨rfl, rfl, rfl, rfl⟩, rfl, hcalls⟩

/-- What a run of a new session has come to, by the effect of its moments. -/
structure Shown (handle : Handle) (actions : List Action) (bridge : Bridge φ (Recorded ε))
    (effect : Effect) : Prop where
  delivered : (delivered handle actions bridge).map (·.event) = effect.events
  told : (engine? handle (serve handle actions bridge).bridge).map Recorded.transferCalls =
    some effect.calls
  table : table? handle (serve handle actions bridge).bridge = some effect.table

theorem run_of_follow [Factory φ ε] {options : EngineOptions} {start : Bridge φ (Recorded ε)}
    (created : (create options start).outcome = .ok handle)
    (legacy : table? handle (create options start).state = some .empty) {actions : List Action}
    {effect : Effect}
    (h : follow (moments handle actions (create options start).state) .empty = some effect) :
    Shown handle actions (create options start).state effect := by
  obtain ⟨session, engine, serving, works, hevents, hcalls⟩ := works_of_create created legacy
  have hcomes := comes_serve actions serving works
  rw [h] at hcomes
  obtain ⟨last, left, hlast, hworks, hdelivered, htold⟩ := hcomes
  constructor
  · rw [delivered, hlast.waiting, hdelivered, hevents]
    rfl
  · rw [hlast.engine?, hworks.engine, Option.map_some, htold, hcalls, List.nil_append]
  · rw [table?, hlast.occupant]
    exact hworks.transfers

end Runs

def legacyBridge : Bridge SimulatedFactory (Recorded SimulatedEngine) :=
  ⟨.empty {}, { addressing := .legacy }⟩

theorem create_legacyBridge : (create {} legacyBridge).outcome = .ok ⟨0, 1⟩ := by decide +kernel

theorem table?_legacyBridge : table? ⟨0, 1⟩ (create {} legacyBridge).state = some .empty := by
  decide +kernel

def friendKey : PublicKey := ⟨List.replicate 32 1, rfl⟩

def passing (notifications : List Notification) : Action :=
  .request .epoch (.invoke ⟨notifications, false⟩)

end Bridge

end Switchboard
