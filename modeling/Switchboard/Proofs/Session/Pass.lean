import Switchboard.Proofs.Run
import Switchboard.Proofs.Session.Translation
import Switchboard.Session.Request
import Switchboard.Simulation.SimulatedEngine
/-!
# What a pass delivers

A pass takes in the notifications up to the first that breaks the contract. If there is none, it
sees to the controls the engine is owed, and only an undocumented answer to one of these disables
the session then (`Settled`).
-/

namespace Switchboard

namespace HeldSession

variable {ε : Type}

/-! ## Intake -/

/-- What can be translated is taken in, and the intake goes on from there. -/
theorem receiveAll_of_translated (now : Timestamp) {held : HeldSession ε}
    {clean : List Notification} {events : List Event} {after : Option Transfer.Table}
    (h : Notification.Translated held.transfers clean events after) (rest : List Notification) :
    let reached : HeldSession ε :=
      { held with events := held.events.pushAll now events, transfers := after }
    (receiveAll now (clean ++ rest) held).outcome = (receiveAll now rest reached).outcome ∧
      (receiveAll now (clean ++ rest) held).state = (receiveAll now rest reached).state := by
  generalize ht : held.transfers = transfers at h
  induction h generalizing held with
  | nil =>
    subst ht
    exact ⟨rfl, rfl⟩
  | @cons _ between after notification clean events more hi _ ih =>
    have hreceive : receive now notification held =
        ⟨.ok none, { held with events := held.events.pushAll now events, transfers := between },
          held.traceEntry notification⟩ := by
      simp only [receive, ht, hi]
    simp only [List.cons_append, receiveAll, Run.bind_apply, hreceive, Run.andThen_ok,
      EventQueue.pushAll_append]
    exact ih rfl

theorem receiveAll_of_violates (now : Timestamp) {held : HeldSession ε} {violation : Violation}
    {notification : Notification} (h : notification.Violates held.transfers violation)
    (later : List Notification) :
    (receiveAll now (notification :: later) held).outcome = .ok (some violation) ∧
      (receiveAll now (notification :: later) held).state = held := by
  have hi := (Notification.interpret_error_iff _ _ _).mpr h
  simp only [receiveAll, Run.bind_apply, receive, hi, Run.andThen_ok, Run.pure_apply]
  exact ⟨trivial, trivial⟩

/-! ## Controls -/

section Controls

variable [Engine ε]

/-- Tell the engine one control. -/
abbrev told (control : Transfer.Outbound) (engine : ε) : Option (Reported Unit) × ε :=
  Engine.perform (.legacyFileControl control.friend control.side control.index control.control)
    engine

/-- The engine takes every control, or refuses it for a documented reason. -/
inductive Flushed : List Transfer.Outbound → ε → ε → Prop
  | nil (engine : ε) : Flushed [] engine engine
  | taken {control rest engine next last} :
    told control engine = (some (.ok ()), next) → Flushed rest next last →
    Flushed (control :: rest) engine last
  | refused {control rest engine next last code reason} :
    told control engine = (some (.error code), next) →
    Operation.fileControl.reason? code = some reason → Flushed rest next last →
    Flushed (control :: rest) engine last

/-- Controls are told until the engine answers one with a code that is not in the catalogue. -/
def Undocumented (controls : List Transfer.Outbound) (engine : ε) (code : UInt32) (left : ε) :
    Prop :=
  ∃ before control later reached, controls = before ++ control :: later ∧
    Flushed before engine reached ∧ told control reached = (some (.error code), left) ∧
    Operation.fileControl.reason? code = none

theorem Undocumented.cons {control : Transfer.Outbound} {controls : List Transfer.Outbound}
    {engine next left : ε} {code : UInt32} (h : Undocumented controls next code left)
    (hf : ∀ {list last}, Flushed list next last → Flushed (control :: list) engine last) :
    Undocumented (control :: controls) engine code left := by
  obtain ⟨before, culprit, later, reached, rfl, hb, ht, hr⟩ := h
  exact ⟨control :: before, culprit, later, reached, rfl, hf hb, ht, hr⟩

/-- Controls are told until the engine panics. -/
def Panicked (controls : List Transfer.Outbound) (engine left : ε) : Prop :=
  ∃ before control later reached, controls = before ++ control :: later ∧
    Flushed before engine reached ∧ told control reached = (none, left)

theorem Panicked.cons {control : Transfer.Outbound} {controls : List Transfer.Outbound}
    {engine next left : ε} (h : Panicked controls next left)
    (hf : ∀ {list last}, Flushed list next last → Flushed (control :: list) engine last) :
    Panicked (control :: controls) engine left := by
  obtain ⟨before, culprit, later, reached, rfl, hb, ht⟩ := h
  exact ⟨control :: before, culprit, later, reached, rfl, hf hb, ht⟩

/-- How telling the controls goes, with the outcome and the session after it. -/
inductive Tells (held : HeldSession ε) (controls : List Transfer.Outbound) :
    Outcome CallError Unit → HeldSession ε → Prop
  | flushed {last} : Flushed controls held.engine last →
    Tells held controls (.ok ()) { held with engine := last }
  | undocumented {code left} : Undocumented controls held.engine code left →
    Tells held controls
      (.error (.bridge (.contract (.unexpectedCode Operation.fileControl.name code))))
      { held with
        engine := left
        violation := some (.unexpectedCode Operation.fileControl.name code) }
  | panicked {left} : Panicked controls held.engine left →
    Tells held controls .panic { held with engine := left }

theorem tells_tell (controls : List Transfer.Outbound) (held : HeldSession ε) :
    Tells held controls (tell controls held).outcome (tell controls held).state := by
  induction controls generalizing held with
  | nil => exact .flushed (.nil held.engine)
  | cons control rest ih =>
    have hrest : ∀ next : ε, (∀ {list last}, Flushed list next last →
        Flushed (control :: list) held.engine last) → ∀ {outcome state},
        Tells { held with engine := next } rest outcome state →
        Tells held (control :: rest) outcome state := by
      intro next hf outcome state htells
      cases htells with
      | flushed h => exact .flushed (hf h)
      | undocumented h => exact .undocumented (h.cons hf)
      | panicked h => exact .panicked (h.cons hf)
    simp only [tell, Run.bind_apply, log, Run.andThen_ok, call]
    rcases ha : told control held.engine with ⟨answer, next⟩
    simp only [told] at ha
    rw [ha]
    cases answer with
    | none => exact .panicked ⟨[], control, rest, held.engine, rfl, .nil held.engine, ha⟩
    | some reported =>
      cases reported with
      | ok value => exact hrest next (.taken ha) (ih _)
      | error code =>
        simp only [Run.andThen_ok]
        cases hr : Operation.fileControl.reason? code with
        | some reason => exact hrest next (.refused ha hr) (ih _)
        | none =>
          exact .undocumented ⟨[], control, rest, held.engine, rfl, .nil held.engine, ha, hr⟩

end Controls

/-! ## Settling -/

/-- The controls the engine is owed. -/
def owed (transfers : Option Transfer.Table) : List Transfer.Outbound :=
  (transfers.map (·.outbound)).getD []

/-- The chunks the caller is asked for after a pass. -/
def requested (transfers : Option Transfer.Table) : List Event :=
  (transfers.map (·.requestChunks.1)).getD []

/-- The chunks a pass asks for, by how it ended. -/
def askedFor {α : Type} (transfers : Option Transfer.Table) : Outcome CallError α → List Event
  | .ok _ => requested transfers
  | _ => []

/-- Taking the controls leaves the chunks to be asked for. -/
theorem requested_takeOutbound (transfers : Option Transfer.Table) :
    requested (transfers.map (·.takeOutbound.2)) = requested transfers := by
  cases transfers <;> rfl

/-- How a pass without a violation ends that has reached this session, with its outcome and what it
leaves. -/
inductive Settled [Engine ε] {α : Type} (value : α) (now : Timestamp) (reached : Session.Core)
    (engine : ε) : Outcome CallError α → Session.Core → Prop
  | flushed {last : ε} (warned : Bool) :
    Flushed (owed reached.transfers) engine last →
    Settled value now reached engine (.ok value)
      { reached with
        events := reached.events.pushAll now (requested reached.transfers)
        transfers := reached.transfers.map (·.takeOutbound.2.requestChunks.2)
        warned := warned }
  | undocumented {code : UInt32} {left : ε} :
    Undocumented (owed reached.transfers) engine code left →
    Settled value now reached engine
      (.error (.bridge (.contract (.unexpectedCode Operation.fileControl.name code))))
      { reached with
        transfers := reached.transfers.map (·.takeOutbound.2)
        violation := some (.unexpectedCode Operation.fileControl.name code) }
  | panicked {left : ε} : Panicked (owed reached.transfers) engine left →
    Settled value now reached engine .panic
      { reached with transfers := reached.transfers.map (·.takeOutbound.2) }

/-- What follows the controls cannot fail. -/
theorem finish_apply (now : Timestamp) (held : HeldSession ε) :
    ∃ warned entries, (do requestChunks now; warnOfBacklog : Held ε Unit) held =
      ⟨.ok (),
        { held with
          events := held.events.pushAll now (requested held.transfers)
          transfers := held.transfers.map (·.requestChunks.2)
          warned := warned },
        entries⟩ := by
  have hwarn : ∀ other : HeldSession ε, ∃ warned entries,
      warnOfBacklog other = ⟨.ok (), { other with warned := warned }, entries⟩ := by
    intro other
    unfold warnOfBacklog
    split
    · exact ⟨true, _, rfl⟩
    · exact ⟨other.warned, [], rfl⟩
  simp only [Run.bind_apply, requestChunks, Run.modify_apply, Run.andThen_ok]
  cases ht : held.transfers with
  | none =>
    obtain ⟨warned, entries, hw⟩ := hwarn held
    refine ⟨warned, entries, ?_⟩
    simp [hw, requested, ht, EventQueue.pushAll]
  | some table =>
    obtain ⟨warned, entries, hw⟩ := hwarn
      { held with
        events := held.events.pushAll now table.requestChunks.1
        transfers := some table.requestChunks.2 }
    refine ⟨warned, entries, ?_⟩
    simp only [hw, requested, Option.map_some, Option.getD_some, List.nil_append]

variable [Engine ε]

theorem settled_settle (now : Timestamp) (held : HeldSession ε) :
    Settled () now held.toCore held.engine (settle now held).outcome
      (settle now held).state.toCore := by
  have htells := tells_tell (owed held.transfers)
    { held with transfers := held.transfers.map (·.takeOutbound.2) }
  simp only [owed] at htells
  simp only [settle, takeOutbound, Run.bind_apply, Run.andThen_ok]
  rcases hran : tell ((held.transfers.map (·.outbound)).getD [])
    { held with transfers := held.transfers.map (·.takeOutbound.2) } with ⟨outcome, state, entries⟩
  rw [hran] at htells ⊢
  cases htells with
  | @flushed last hf =>
    obtain ⟨warned, entries, hfinish⟩ := finish_apply now
      { held with transfers := held.transfers.map (·.takeOutbound.2), engine := last }
    simp only [Run.andThen_ok, hfinish]
    rw [requested_takeOutbound, Option.map_map]
    exact .flushed warned hf
  | undocumented hu => exact .undocumented hu
  | panicked hp => exact .panicked hp

/-- The chunks are asked for after everything else, and only by a pass that ends well. -/
theorem Settled.events {α : Type} {value : α} {now : Timestamp} {reached core : Session.Core}
    {engine : ε} {outcome : Outcome CallError α}
    (h : Settled value now reached engine outcome core) :
    core.events.pending.map (·.event) =
      reached.events.pending.map (·.event) ++ askedFor reached.transfers outcome := by
  cases h with
  | flushed => exact EventQueue.events_pushAll now _ _
  | undocumented => exact (List.append_nil _).symm
  | panicked => exact (List.append_nil _).symm

/-! ## Passes -/

theorem dispatch_of_violates (now : Timestamp) (held : HeldSession ε) {clean : List Notification}
    {events : List Event} {after : Option Transfer.Table} {notification : Notification}
    {violation : Violation} (h : Notification.Translated held.transfers clean events after)
    (hv : notification.Violates after violation) (later : List Notification) :
    (dispatch now ⟨clean ++ notification :: later, false⟩ held).outcome =
        .error (.bridge (.contract violation)) ∧
      (dispatch now ⟨clean ++ notification :: later, false⟩ held).state =
        { held with
          events := held.events.pushAll now events
          transfers := after
          violation := some violation } := by
  obtain ⟨ho, hs⟩ := receiveAll_of_translated now h (notification :: later)
  rw [(receiveAll_of_violates now hv later).1] at ho
  rw [(receiveAll_of_violates now hv later).2] at hs
  simp only [dispatch, Run.bind_apply, Run.andThen, ho, hs]
  exact ⟨rfl, rfl⟩

theorem dispatch_of_translated (now : Timestamp) (held : HeldSession ε) {clean : List Notification}
    {events : List Event} {after : Option Transfer.Table}
    (h : Notification.Translated held.transfers clean events after) :
    Settled () now
      { held.toCore with events := held.events.pushAll now events, transfers := after } held.engine
      (dispatch now ⟨clean, false⟩ held).outcome
      (dispatch now ⟨clean, false⟩ held).state.toCore := by
  obtain ⟨ho, hs⟩ := receiveAll_of_translated now h []
  rw [List.append_nil] at ho hs
  simp only [dispatch, Run.bind_apply, Run.andThen, ho, hs]
  exact settled_settle now
    { held with events := held.events.pushAll now events, transfers := after }

theorem Settled.andThen {α β : Type} {now : Timestamp} {reached : Session.Core} {engine : ε}
    {value : α} {ran : Ran (HeldSession ε) CallError α} (answer : β)
    (h : Settled value now reached engine ran.outcome ran.state.toCore) :
    Settled answer now reached engine (Run.andThen ran fun _ => pure answer).outcome
      (Run.andThen ran fun _ => pure answer).state.toCore := by
  obtain ⟨outcome, state, entries⟩ := ran
  generalize hc : state.toCore = core at h
  cases h with
  | flushed warned hf =>
    simp only [Run.andThen_ok, Run.pure_apply, hc]
    exact .flushed warned hf
  | undocumented hu =>
    simp only [Run.andThen_error, hc]
    exact .undocumented hu
  | panicked hp =>
    simp only [Run.andThen_panic, hc]
    exact .panicked hp

end HeldSession

namespace Session

variable {ε : Type}

private theorem hold_apply {α : Type} {session : Session ε} {engine : ε}
    (healthy : session.lockPoisoned = false) (able : session.violation = none)
    (owns : session.engine = some engine) (operation : Held ε α) :
    (hold operation session).outcome = (operation ⟨session.toCore, engine⟩).outcome ∧
      (hold operation session).state.toCore = (operation ⟨session.toCore, engine⟩).state.toCore ∧
      (hold operation session).state.engine =
        some (operation ⟨session.toCore, engine⟩).state.engine := by
  simp [hold, healthy, able, owns]

variable [Engine ε]

/-- The request makes the engine fire these notifications, without a panic, and leaves the engine
`fired`. -/
inductive Fires (engine : ε) : Request → List Notification → ε → Prop
  | iterate {notifications fired} :
    Engine.perform .iterate engine = (some ⟨notifications, false⟩, fired) →
    Fires engine .iterate notifications fired
  | invoke (notifications : List Notification) :
    Fires engine (.invoke ⟨notifications, false⟩) notifications engine

theorem perform_of_fires (now : Timestamp) {request : Request} {notifications : List Notification}
    {engine fired : ε} (fires : Fires engine request notifications fired) (core : Core) :
    let ran := Run.andThen (HeldSession.dispatch now ⟨notifications, false⟩ ⟨core, fired⟩)
      fun _ => pure Reply.done
    (request.perform now ⟨core, engine⟩).outcome = ran.outcome ∧
      (request.perform now ⟨core, engine⟩).state = ran.state := by
  cases fires with
  | iterate hi =>
    simp only [Request.perform, HeldSession.iterate, HeldSession.call, Run.bind_apply, hi,
      Run.andThen_ok]
    rcases HeldSession.dispatch now ⟨notifications, false⟩ ⟨core, fired⟩ with ⟨outcome, state, _⟩
    cases outcome <;> exact ⟨rfl, rfl⟩
  | invoke => exact ⟨rfl, rfl⟩

/-- If a pass without a violation disables the session, the engine answered a control with a code
that is not in the catalogue. -/
theorem undocumented_of_settled {α : Type} {now : Timestamp} {reached core : Core} {engine : ε}
    {value : α} {outcome : Outcome CallError α} {violation : Violation}
    (h : HeldSession.Settled value now reached engine outcome core)
    (able : reached.violation = none) (hv : core.violation = some violation) :
    ∃ code left, HeldSession.Undocumented (HeldSession.owed reached.transfers) engine code left ∧
      violation = .unexpectedCode Operation.fileControl.name code := by
  cases h with
  | flushed warned hf =>
    rw [show reached.violation = some violation from hv] at able
    cases able
  | @undocumented code left hu => exact ⟨code, left, hu, (Option.some.inj hv).symm⟩
  | panicked =>
    rw [show reached.violation = some violation from hv] at able
    cases able

/-- A pass delivers the translations of the notifications before the first violation, one event for
each and two for one that completes a file, after all that waited before it, and leaves the transfer
table that is reached then. The violation, if there is one, is what the pass fails with and disables
the session. If there is none, the engine is told what it is owed, the caller is asked for chunks,
and the session is disabled only by an undocumented answer of the engine. -/
theorem pass_delivers_until_violation (now : Timestamp) {session : Session ε} {request : Request}
    {notifications : List Notification} {engine fired : ε}
    (healthy : session.lockPoisoned = false) (able : session.violation = none)
    (owns : session.engine = some engine) (fires : Fires engine request notifications fired) :
    (∀ notification before block after,
      Notification.interpret notification before = .ok (block, after) →
        block.length = if notification.completes before then 2 else 1) ∧
    ∃ clean rest events transfers, notifications = clean ++ rest ∧
      Notification.Translated session.transfers clean events transfers ∧
      (∀ list more after, list <+: notifications →
        Notification.Translated session.transfers list more after → list <+: clean) ∧
      (∀ notification later, rest = notification :: later →
        ∃ violation, notification.Violates transfers violation ∧
          (hold (request.perform now) session).outcome = .error (.bridge (.contract violation)) ∧
          (hold (request.perform now) session).state.toCore =
            { session.toCore with
              events := session.events.pushAll now events
              transfers := transfers
              violation := some violation } ∧
          (hold (request.perform now) session).state.events.pending.map (·.event) =
            session.events.pending.map (·.event) ++ events ∧
          (hold (request.perform now) session).state.engine = some fired) ∧
      (rest = [] →
        HeldSession.Settled Reply.done now
          { session.toCore with
            events := session.events.pushAll now events
            transfers := transfers }
          fired (hold (request.perform now) session).outcome
          (hold (request.perform now) session).state.toCore ∧
        (hold (request.perform now) session).state.events.pending.map (·.event) =
          session.events.pending.map (·.event) ++ events ++
            HeldSession.askedFor transfers (hold (request.perform now) session).outcome ∧
        ∀ violation, (hold (request.perform now) session).state.violation = some violation →
          ∃ code left, HeldSession.Undocumented (HeldSession.owed transfers) fired code left ∧
            violation = .unexpectedCode Operation.fileControl.name code) := by
  obtain ⟨hho, hhc, hhe⟩ := hold_apply healthy able owns (request.perform now)
  obtain ⟨hpo, hps⟩ := perform_of_fires now fires session.toCore
  rw [hpo] at hho
  rw [hps] at hhc hhe
  obtain ⟨clean, rest, events, transfers, rfl, htr, hrest⟩ :=
    Notification.exists_translated notifications session.transfers
  refine ⟨fun _ _ _ _ => Notification.length_interpret, clean, rest, events, transfers, rfl, htr,
    ?_, ?_, ?_⟩
  · intro list more after hp hl
    rcases hrest with rfl | ⟨notification, later, violation, rfl, hv⟩
    · rwa [List.append_nil] at hp
    · exact htr.longest hv hl hp
  · rintro notification later rfl
    rcases hrest with hnil | ⟨found, others, violation, he, hv⟩
    · cases hnil
    · cases he
      obtain ⟨hdo, hds⟩ := HeldSession.dispatch_of_violates now
        ⟨session.toCore, fired⟩ htr hv later
      simp only [Run.andThen, hdo, hds] at hho hhc hhe
      refine ⟨violation, hv, hho, hhc, ?_, hhe⟩
      rw [hhc]
      exact EventQueue.events_pushAll now events session.events
  · rintro rfl
    rw [List.append_nil] at hho hhc
    have hsettled := (HeldSession.dispatch_of_translated now
      ⟨session.toCore, fired⟩ htr).andThen Reply.done
    rw [← hho, ← hhc] at hsettled
    refine ⟨hsettled, ?_, fun violation hv => undocumented_of_settled hsettled able hv⟩
    rw [hsettled.events, EventQueue.events_pushAll]

def sampleSession : Session SimulatedEngine :=
  opened ⟨0, 1⟩ { number := 1, addressing := .legacy, savedata := [] } .legacy 65536

def strayData : List Notification := [.groupSelfJoin 1, .legacyFileData 7 0 [1], .groupSelfJoin 2]

def strayPass : Ran (Session SimulatedEngine) CallError Reply :=
  hold (Request.perform .epoch (.invoke ⟨strayData, false⟩)) sampleSession

theorem pass_ends_at_missing_transfer :
    ∃ clean rest events transfers, strayData = clean ++ rest ∧
      Notification.Translated (some .empty) clean events transfers ∧
      (∀ list more after, list <+: strayData →
        Notification.Translated (some .empty) list more after → list <+: clean) ∧
      clean = [.groupSelfJoin 1] ∧ events = [.groupSelfJoin 1] ∧
      strayPass.outcome =
        .error (.bridge (.contract (.missingTransfer 7 (.unify .receive 0)))) ∧
      strayPass.state.events.pending = [⟨0, .epoch, .groupSelfJoin 1⟩] ∧
      strayPass.state.transfers = some .empty := by
  have healthy : sampleSession.lockPoisoned = false := rfl
  obtain ⟨-, clean, rest, events, transfers, he, htr, hmax, hviolates, -⟩ :=
    pass_delivers_until_violation .epoch healthy rfl rfl (.invoke strayData)
  have joins : Notification.Translated (some .empty) [.groupSelfJoin 1]
      ([.groupSelfJoin 1] ++ []) (some .empty) := .cons rfl (.nil _)
  have stray : Notification.interpret (.legacyFileData 7 0 [1]) (some .empty) =
      .error (.missingTransfer 7 (.unify .receive 0)) := rfl
  obtain ⟨later, rfl⟩ := hmax _ _ _ ⟨_, rfl⟩ joins
  cases later with
  | nil =>
    obtain rfl : [.legacyFileData 7 0 [1], .groupSelfJoin 2] = rest := (List.cons.inj he).2
    obtain ⟨_, -, -, -, pending, -⟩ := hviolates _ _ rfl
    exact ⟨_, _, events, transfers, he, htr, hmax, rfl, pending.symm, by rfl, by rfl, by rfl⟩
  | cons second later =>
    obtain rfl : .legacyFileData 7 0 [1] = second := (List.cons.inj (List.cons.inj he).2).1
    cases htr with
    | cons first htr =>
      cases first
      cases htr with
      | cons hi _ =>
        rw [stray] at hi
        cases hi

end Session

end Switchboard
