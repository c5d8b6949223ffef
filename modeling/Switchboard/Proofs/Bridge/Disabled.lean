import Switchboard.Proofs.Bridge.Delivery
import Switchboard.Proofs.Registry.Removal
import Switchboard.Proofs.Session.Built
/-!
# Disabled sessions

What becomes of a session after a contract violation: nothing can be asked of it any more, the
events that waited then are all there is to drain, and killing and finalizing it goes as for any
other session (`disabled_for_good`).
-/

namespace Switchboard

namespace Session

variable {ε α : Type} {session : Session ε} {violation : Violation}

/-- A session is disabled by the violation that an operation on it returns. -/
theorem hold_of_violation {operation : Held ε α} (honest : HeldSession.Honest operation)
    (h : (hold operation session).outcome = .error (.bridge (.contract violation))) :
    (hold operation session).state.violation = some violation ∧
      (hold operation session).state.lockPoisoned = false := by
  cases hl : session.lockPoisoned with
  | true => simp [hold, hl] at h
  | false =>
    cases hv : session.violation with
    | some earlier => simp [hold, hl, hv] at h
    | none =>
      cases he : session.engine with
      | none => simp [hold, hl, hv, he] at h
      | some engine =>
        simp only [hold, hl, hv, he, Bool.false_eq_true, if_false, Option.isSome_none] at h ⊢
        exact ⟨honest _ _ h, by rw [h]⟩

/-- Nobody gets hold of a disabled session. -/
theorem hold_of_disabled (operation : Held ε α) (hl : session.lockPoisoned = false)
    (hv : session.violation = some violation) :
    hold operation session = ⟨.error (.bridge (.poisoned session.handle)), session, []⟩ := by
  simp [hold, hl, hv]

theorem drain_of_healthy (hl : session.lockPoisoned = false) :
    (drain session).outcome = .ok ⟨session.events.pending⟩ ∧
      (drain session).state = { session with toCore := session.toCore.drain.2 } := by
  simp [drain, hl, Core.drain, EventQueue.drain]

end Session

namespace Bridge

variable {φ ε : Type}

/-- The handle reaches a session that was disabled by this violation, and its lock is healthy. -/
structure Disabled (handle : Handle) (violation : Violation) (session : Session ε)
    (bridge : Bridge φ ε) : Prop where
  serving : Serving handle session bridge
  violation : session.violation = some violation
  healthy : session.lockPoisoned = false

/-- A session is disabled by the violation that a request returns. -/
theorem disabled_of_returned [Engine ε] {now : Timestamp} {handle : Handle} {request : Request}
    {bridge : Bridge φ ε} {violation : Violation}
    (h : (Bridge.request now handle request bridge).outcome =
      .error (.bridge (.contract violation))) :
    ∃ session, Disabled handle violation session
      (Bridge.request now handle request bridge).state := by
  have hran : (Registry.withSession handle (request.perform now) bridge.registry).outcome =
      .error (.bridge (.contract violation)) := h
  cases hl : bridge.registry.lockPoisoned with
  | true =>
    simp only [Registry.withSession, Run.mapError, Run.bind_apply, Registry.active_of_broken hl,
      Run.andThen_error] at hran
    cases hran
  | false =>
    by_cases hs : bridge.registry.state? handle = some .active
    · obtain ⟨⟨_, session⟩, ho, rfl⟩ := Registry.occupant?_of_active hs
      have serving : Serving handle session bridge := ⟨hl, ho⟩
      obtain ⟨hout, hserving⟩ := serving.request now request
      obtain ⟨hv, hp⟩ := Session.hold_of_violation (HeldSession.honest_perform now request)
        (hout.symm.trans h)
      exact ⟨_, hserving, hv, hp⟩
    · rw [Registry.withSession_of_inactive hl hs] at hran
      cases hran

/-! ## What is left to do -/

def Action.isDrain : Action → Bool
  | .request _ _ => false
  | .drain => true
  | .drainEncoded => true

section Absorb

variable [Engine ε] {handle : Handle} {violation : Violation} {session : Session ε}
  {bridge : Bridge φ ε}

/-- No request does anything. -/
theorem Disabled.request (disabled : Disabled handle violation session bridge) (now : Timestamp)
    (request : Request) :
    Bridge.request now handle request bridge =
      ⟨.error (.bridge (.poisoned session.handle)), bridge, []⟩ := by
  have hhold := Session.hold_of_disabled (request.perform now) disabled.healthy disabled.violation
  simp only [Bridge.request, onRegistry, Run.onPart,
    Registry.withSession_of_active disabled.serving.healthy disabled.serving.occupant rfl, hhold,
    Registry.setOccupant_self disabled.serving.occupant]

omit [Engine ε] in
/-- A drain gives what waits, and leaves the session disabled. -/
theorem Disabled.drain (disabled : Disabled handle violation session bridge) :
    (Bridge.drain handle bridge).outcome = .ok ⟨session.events.pending⟩ ∧
      Disabled handle violation { session with toCore := session.toCore.drain.2 }
        (Bridge.drain handle bridge).state := by
  obtain ⟨hout, hserving⟩ := disabled.serving.drain
  obtain ⟨hbatch, hnext⟩ := Session.drain_of_healthy disabled.healthy
  rw [hnext] at hserving
  exact ⟨hout.trans hbatch, hserving, disabled.violation, disabled.healthy⟩

/-- Requests are refused, and what is drained and what still waits is what waited. -/
theorem serve_of_disabled (actions : List Action)
    (disabled : Disabled handle violation session bridge) :
    ∃ last, Disabled handle violation last (serve handle actions bridge).bridge ∧
      last.handle = session.handle ∧ last.engine = session.engine ∧
      (serve handle actions bridge).outcomes =
        (requests actions).map (fun _ => .error (.bridge (.poisoned session.handle))) ∧
      (serve handle actions bridge).drained ++ last.events.pending = session.events.pending ∧
      (actions.any Action.isDrain = true → last.events.pending = []) := by
  induction actions generalizing session bridge with
  | nil => exact ⟨session, disabled, rfl, rfl, rfl, rfl, fun h => nomatch h⟩
  | cons action rest ih =>
    have hdrain : ∃ last, Disabled handle violation last
          (serve handle (.drain :: rest) bridge).bridge ∧
        last.handle = session.handle ∧ last.engine = session.engine ∧
        (serve handle (.drain :: rest) bridge).outcomes =
          (requests rest).map (fun _ => .error (.bridge (.poisoned session.handle))) ∧
        (serve handle (.drain :: rest) bridge).drained ++ last.events.pending =
          session.events.pending ∧ last.events.pending = [] := by
      obtain ⟨hout, hnext⟩ := disabled.drain
      obtain ⟨last, hlast, hhandle, hengine, houtcomes, hdelivered, -⟩ := ih hnext
      obtain ⟨hrest, hnone⟩ := List.append_eq_nil_iff.mp hdelivered
      refine ⟨last, hlast, hhandle, hengine, houtcomes, ?_, hnone⟩
      rw [drained_drain, hout, hrest, hnone, List.append_nil, List.append_nil]
      rfl
    cases action with
    | request now request =>
      have hsame := disabled.request now request
      obtain ⟨last, hlast, hhandle, hengine, houtcomes, hdelivered, hnone⟩ := ih disabled
      simp only [serve, hsame]
      exact ⟨last, hlast, hhandle, hengine, congrArg _ houtcomes, hdelivered, hnone⟩
    | drain =>
      obtain ⟨last, hlast, hhandle, hengine, houtcomes, hdelivered, hnone⟩ := hdrain
      exact ⟨last, hlast, hhandle, hengine, houtcomes, hdelivered, fun _ => hnone⟩
    | drainEncoded =>
      obtain ⟨last, hlast, hhandle, hengine, houtcomes, hdelivered, hnone⟩ := hdrain
      rw [serve_drainEncoded]
      exact ⟨last, hlast, hhandle, hengine, houtcomes, hdelivered, fun _ => hnone⟩

end Absorb

/-! ## Removal -/

/-- Killing and then finalizing the session succeeds. The engine goes with the kill, and the slot is
vacated, so that it can be used again. -/
structure Removes (handle : Handle) (engine : ε) (bridge : Bridge φ ε) : Prop where
  killed : (Bridge.kill handle bridge).outcome = .ok ()
  released : (Bridge.kill handle bridge).state.registry.released =
    bridge.registry.released ++ [engine]
  finalized : (Bridge.finalize handle (Bridge.kill handle bridge).state).outcome = .ok ()
  state : (Bridge.finalize handle (Bridge.kill handle bridge).state).state =
    { bridge with registry := bridge.registry.vacate handle }

section Removal

variable {handle : Handle} {session : Session ε} {bridge : Bridge φ ε}

/-- It makes no difference to that whether the session is disabled. -/
theorem Serving.removes (serving : Serving handle session bridge)
    (hp : session.lockPoisoned = false) {engine : ε} (he : session.engine = some engine) :
    Removes handle engine bridge := by
  obtain ⟨hok, hkilled⟩ := Registry.kill_of_live serving.healthy serving.occupant (.inr rfl) hp
  obtain ⟨slot, hs, hg, -⟩ := Registry.occupant?_eq_some.mp serving.occupant
  have hfound : (Registry.kill handle bridge.registry).state.occupant? handle =
      some ⟨.killed, { session with engine := none, transfers := none }⟩ := by
    rw [hkilled]
    exact Registry.occupant?_setOccupant hs hg _
  have hhealthy : (Registry.kill handle bridge.registry).state.lockPoisoned = false := by
    rw [hkilled]
    exact (Registry.setOccupant_lockPoisoned _ _ _).trans serving.healthy
  obtain ⟨hok', hfinal⟩ := Registry.finalize_of_killed hhealthy hfound rfl
  have hreleased : (bridge.registry.vacate handle).released =
      bridge.registry.released ++ session.engine.toList :=
    Registry.released_vacate serving.occupant
  have hvacated : (Registry.finalize handle (Registry.kill handle bridge.registry).state).state =
      bridge.registry.vacate handle := by
    rw [hfinal, hkilled, Registry.vacate_replaced serving.occupant, Option.toList_none,
      List.append_nil, ← hreleased]
  constructor
  · exact hok
  · rw [← Option.toList_some, ← he]
    exact congrArg Registry.released hkilled
  · exact hok'
  · exact congrArg (fun registry => ({ bridge with registry := registry } : Bridge φ ε)) hvacated

/-- The bridge as it would be had the session not been disabled. -/
def enabled (handle : Handle) (bridge : Bridge φ ε) : Bridge φ ε :=
  match bridge.registry.occupant? handle with
  | some occupant =>
    { bridge with
      registry := bridge.registry.setOccupant handle
        { occupant with session := { occupant.session with violation := none } } }
  | none => bridge

private theorem Serving.enabled (serving : Serving handle session bridge) :
    Serving handle { session with violation := none } (enabled handle bridge) ∧
      (Bridge.enabled handle bridge).registry.vacate handle = bridge.registry.vacate handle := by
  have hbridge : Bridge.enabled handle bridge =
      { bridge with
        registry := bridge.registry.setOccupant handle
          ⟨.active, { session with violation := none }⟩ } := by
    simp only [Bridge.enabled, serving.occupant]
  rw [hbridge]
  refine ⟨serving.replace _, ?_⟩
  have hvacated : (bridge.registry.setOccupant handle
        ⟨.active, { session with violation := none }⟩).vacate handle =
      { bridge.registry.vacate handle with
        released := (bridge.registry.setOccupant handle
          ⟨.active, { session with violation := none }⟩).released ++ session.engine.toList } :=
    Registry.vacate_replaced serving.occupant _ _
  rw [hvacated, Registry.setOccupant_released, ← Registry.released_vacate serving.occupant]

end Removal

/-! ## For good -/

/-- What there is to a session that was disabled, after these actions: requests were and are refused
and change nothing, what was drained and what waits is what waited in the beginning, and the session
is killed and finalized as if it were not disabled. -/
structure Absorbed [Engine ε] (handle : Handle) (session : Session ε) (actions : List Action)
    (bridge : Bridge φ ε) : Prop where
  answers : (serve handle actions bridge).outcomes =
    (requests actions).map fun _ => .error (.bridge (.poisoned session.handle))
  untouched : ∀ now request,
    Bridge.request now handle request (serve handle actions bridge).bridge =
      ⟨.error (.bridge (.poisoned session.handle)), (serve handle actions bridge).bridge, []⟩
  engine : engine? handle (serve handle actions bridge).bridge = session.engine
  drainable : (Bridge.drain handle (serve handle actions bridge).bridge).outcome =
    .ok ⟨waiting handle (serve handle actions bridge).bridge⟩
  delivered : delivered handle actions bridge = session.events.pending
  drained : actions.any Action.isDrain = true →
    (serve handle actions bridge).drained = session.events.pending
  encoded : ∀ drain ∈ (serve handle actions bridge).drains, drain.Encoded
  removes : ∃ engine, session.engine = some engine ∧
    Removes handle engine (serve handle actions bridge).bridge ∧
    Removes handle engine (enabled handle (serve handle actions bridge).bridge)
  alike : (enabled handle (serve handle actions bridge).bridge).registry.vacate handle =
    (serve handle actions bridge).bridge.registry.vacate handle

section Absorbed

variable [Engine ε] {handle : Handle} {violation : Violation} {session : Session ε}
  {bridge : Bridge φ ε}

theorem Disabled.absorbed (disabled : Disabled handle violation session bridge)
    (tallied : bridge.registry.Tallied) (actions : List Action) :
    Absorbed handle session actions bridge := by
  obtain ⟨last, hlast, hhandle, hengine, houtcomes, hdelivered, hnone⟩ :=
    serve_of_disabled actions disabled
  have hwaits : waiting handle (serve handle actions bridge).bridge = last.events.pending :=
    hlast.serving.waiting
  obtain ⟨engine, he⟩ : ∃ engine, session.engine = some engine := by
    have hactive := tallied.engine_eq_none_iff disabled.serving.occupant
    cases he : session.engine with
    | some engine => exact ⟨engine, rfl⟩
    | none => exact absurd (hactive.mp he).1 (fun h => nomatch h)
  obtain ⟨hable, halike⟩ := hlast.serving.enabled
  exact
    { answers := houtcomes
      untouched := fun now request => hhandle ▸ hlast.request now request
      engine := hlast.serving.engine?.trans hengine
      drainable := by
        rw [hwaits]
        exact hlast.drain.1
      delivered := by
        rw [delivered, hwaits]
        exact hdelivered
      drained := by
        intro h
        rw [hnone h, List.append_nil] at hdelivered
        exact hdelivered
      encoded := encoded_serve handle actions bridge
      removes := ⟨engine, he, hlast.serving.removes hlast.healthy (hengine.trans he),
        hable.removes hlast.healthy (hengine.trans he)⟩
      alike := halike }

end Absorbed

/-- In every run, a session is disabled by each violation that a request returns. However it came
to be disabled, it is so for good: whatever is asked of it later is refused and changes nothing,
the events that waited are drained once each and in order, and no others, and it is killed and
finalized, and lets its engine go, as a session that was not disabled. -/
theorem disabled_for_good [Engine ε] (config : Registry.Config)
    (commands : List (Registry.Command ε)) {bridge : Bridge φ ε}
    (reached : bridge.registry = (Registry.performAll commands (.empty config)).registry)
    (handle : Handle) :
    (∀ now request violation,
        (Bridge.request now handle request bridge).outcome =
          .error (.bridge (.contract violation)) →
        ∃ session, Disabled handle violation session
            (Bridge.request now handle request bridge).state ∧
          ∀ actions, Absorbed handle session actions
            (Bridge.request now handle request bridge).state) ∧
      ∀ violation session, Disabled handle violation session bridge →
        ∀ actions, Absorbed handle session actions bridge := by
  have tallied : bridge.registry.Tallied := by
    rw [reached]
    exact (Registry.tallied_performAll commands (Registry.tallied_empty config)).1
  refine ⟨fun now request violation h => ?_, fun _ _ disabled => disabled.absorbed tallied⟩
  obtain ⟨session, disabled⟩ := disabled_of_returned h
  have hchange : Registry.Change bridge.registry
      (Bridge.request now handle request bridge).state.registry :=
    moves_onRegistry (Registry.change_withSession handle (request.perform now)) bridge
  exact ⟨session, disabled, disabled.absorbed (hchange.tallied tallied)⟩

def single : Bridge Unit (Recorded SimulatedEngine) :=
  ⟨(Registry.performAll [.add ⟨Registry.sampleEngine, []⟩] (.empty {})).registry, ()⟩

def misreport : Request := .invoke ⟨[.groupSelfJoin 1, .friendStatus 0 99], false⟩

/-- The event before the violation is drained, and that is all. -/
theorem disabled_by_unknown_status :
    (Bridge.request .epoch ⟨0, 1⟩ misreport single).outcome =
        .error (.bridge (.contract (.unknownValue "user_status" 99))) ∧
      ∃ session, Disabled ⟨0, 1⟩ (.unknownValue "user_status" 99) session
          (Bridge.request .epoch ⟨0, 1⟩ misreport single).state ∧
        Absorbed ⟨0, 1⟩ session [.request .epoch .iterate, .drain, .request .epoch .save]
          (Bridge.request .epoch ⟨0, 1⟩ misreport single).state ∧
        session.events.pending = [⟨0, .epoch, .groupSelfJoin 1⟩] := by
  have returned : (Bridge.request .epoch ⟨0, 1⟩ misreport single).outcome =
      .error (.bridge (.contract (.unknownValue "user_status" 99))) := by decide +kernel
  obtain ⟨session, disabled, absorbed⟩ := (disabled_for_good {}
    [.add ⟨Registry.sampleEngine, []⟩] (rfl : single.registry = _) ⟨0, 1⟩).1 _ _ _ returned
  refine ⟨returned, session, disabled, absorbed _, ?_⟩
  rw [← disabled.serving.waiting]
  decide +kernel

end Bridge

end Switchboard
