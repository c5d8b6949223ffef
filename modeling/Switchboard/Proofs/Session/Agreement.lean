import Switchboard.Proofs.Session.Parallel
/-!
# Sessions that differ in what waits

Nothing a session does looks at the events that wait, but for the warning about too many of them. So
two sessions that are alike but for their queues stay so under every request, whenever it is made
(`agree_perform`, `agree_hold`). What is known of the two queues is a parameter, a relation that
pushing the same event on both preserves, at the two times in question (`PushClosedAt`) or at any
(`PushClosed`).
-/

namespace Switchboard

namespace EventQueue

/-- Pushing one event on both queues preserves the relation, on the first at one time and on the
second at another. -/
def PushClosedAt (now now' : Timestamp) (Q : EventQueue → EventQueue → Prop) : Prop :=
  ∀ {first second : EventQueue} (event : Event), Q first second →
    Q (first.push now event) (second.push now' event)

/-- Pushing one event on both queues preserves the relation, at whatever times. -/
def PushClosed (Q : EventQueue → EventQueue → Prop) : Prop :=
  ∀ {first second : EventQueue} (now now' : Timestamp) (event : Event), Q first second →
    Q (first.push now event) (second.push now' event)

variable {Q : EventQueue → EventQueue → Prop} {now now' : Timestamp}

theorem PushClosed.closedAt (closed : PushClosed Q) : PushClosedAt now now' Q :=
  fun event h => closed now now' event h

theorem pushClosedAt_eq (now : Timestamp) : PushClosedAt now now (· = ·) :=
  fun event h => congrArg (push now event) h

theorem PushClosedAt.pushAll (closed : PushClosedAt now now' Q) (events : List Event)
    {first second : EventQueue} (h : Q first second) :
    Q (first.pushAll now events) (second.pushAll now' events) := by
  induction events generalizing first second with
  | nil => exact h
  | cons event rest ih => exact ih (closed event h)

end EventQueue

namespace Session

/-- Two sessions apart from engine and lock, alike but for queues that are related. When the last
warning about a backlog was given does not matter. -/
structure Core.Like (Q : EventQueue → EventQueue → Prop) (first second : Core) : Prop where
  handle : first.handle = second.handle
  events : Q first.events second.events
  transfers : first.transfers = second.transfers
  violation : first.violation = second.violation

end Session

namespace HeldSession

variable {ε α β : Type} {Q : EventQueue → EventQueue → Prop}

structure Like (Q : EventQueue → EventQueue → Prop) (first second : HeldSession ε) : Prop where
  core : first.toCore.Like Q second.toCore
  engine : first.engine = second.engine

/-- From sessions that are alike the two operations end alike, and leave such sessions. -/
abbrev Agree (Q : EventQueue → EventQueue → Prop) (first second : Held ε α) : Prop :=
  Run.Agree (Like Q) first second

/-! ## The small steps -/

theorem agree_call [Engine ε] (c : Call) : Agree (ε := ε) Q (call c) (call c) := by
  intro first second h
  simp only [call, h.engine]
  rcases Engine.perform c second.engine with ⟨answer, engine⟩
  cases answer with
  | none => exact ⟨rfl, h.core, rfl⟩
  | some value => exact ⟨rfl, h.core, rfl⟩

theorem agree_poison (violation : Violation) :
    Agree (ε := ε) (α := α) Q (poison violation) (poison violation) := by
  intro first second h
  exact ⟨rfl, ⟨h.core.handle, h.core.events, h.core.transfers, rfl⟩, h.engine⟩

theorem agree_updateTransfers (change : Transfer.Table → Transfer.Table) :
    Agree (ε := ε) Q (updateTransfers change) (updateTransfers change) := by
  intro first second h
  refine ⟨rfl, ⟨h.core.handle, h.core.events, ?_, h.core.violation⟩, h.engine⟩
  exact congrArg (Option.map change) h.core.transfers

variable {now now' : Timestamp}

private theorem agree_receive (closed : EventQueue.PushClosedAt now now' Q)
    (notification : Notification) :
    Agree (ε := ε) Q (receive now notification) (receive now' notification) := by
  intro first second h
  simp only [receive, h.core.transfers]
  cases notification.interpret second.transfers with
  | ok interpreted =>
    obtain ⟨events, transfers⟩ := interpreted
    have hevents := closed.pushAll events h.core.events
    exact ⟨rfl, ⟨h.core.handle, hevents, rfl, h.core.violation⟩, h.engine⟩
  | error violation => exact ⟨rfl, h⟩

private theorem agree_takeOutbound : Agree (ε := ε) Q takeOutbound takeOutbound := by
  intro first second h
  simp only [takeOutbound, h.core.transfers]
  exact ⟨trivial, ⟨h.core.handle, h.core.events, rfl, h.core.violation⟩, h.engine⟩

private theorem agree_requestChunks (closed : EventQueue.PushClosedAt now now' Q) :
    Agree (ε := ε) Q (requestChunks now) (requestChunks now') := by
  intro first second h
  simp only [requestChunks, Run.modify_apply, h.core.transfers]
  cases second.transfers with
  | none => exact ⟨trivial, h⟩
  | some table =>
    have hevents := closed.pushAll table.requestChunks.1 h.core.events
    exact ⟨trivial, ⟨h.core.handle, hevents, rfl, h.core.violation⟩, h.engine⟩

/-- The warning is given or not, and nothing but the log shows it. -/
theorem agree_warnOfBacklog : Agree (ε := ε) Q warnOfBacklog warnOfBacklog := by
  have hwarn : ∀ held : HeldSession ε, (warnOfBacklog held).outcome = .ok () ∧
      ∃ warned, (warnOfBacklog held).state = { held with warned := warned } := by
    intro held
    unfold warnOfBacklog
    split
    · exact ⟨rfl, true, rfl⟩
    · exact ⟨rfl, held.warned, rfl⟩
  intro first second h
  obtain ⟨hf, warned, hwf⟩ := hwarn first
  obtain ⟨hs, warned', hws⟩ := hwarn second
  rw [hf, hs, hwf, hws]
  exact ⟨rfl, ⟨h.core.handle, h.core.events, h.core.transfers, h.core.violation⟩, h.engine⟩

/-- Sessions that are alike go side by side, whatever they are told. -/
theorem parallel_like [Engine ε] (closed : EventQueue.PushClosedAt now now' Q) :
    ParallelTables (fun _ => True) (Like (ε := ε) Q) now now' where
  call c _ := agree_call c
  fires _ _ _ _ := trivial
  poison := agree_poison
  receive _ := agree_receive closed _
  takeOutbound := agree_takeOutbound
  requestChunks := agree_requestChunks closed
  warnOfBacklog := agree_warnOfBacklog
  transfers h := h.core.transfers
  updateTransfers := agree_updateTransfers

end HeldSession

/-! ## Whole requests -/

/-- Every request goes alike in sessions that are alike, also when it is made at another time. -/
theorem Request.agree_perform {ε : Type} [Engine ε] {Q : EventQueue → EventQueue → Prop}
    {now now' : Timestamp} (closed : EventQueue.PushClosedAt now now' Q) (request : Request) :
    HeldSession.Agree (ε := ε) Q (request.perform now) (request.perform now') :=
  (HeldSession.parallel_like closed).perform request fun _ _ => trivial

namespace Session

variable {ε α : Type} {Q : EventQueue → EventQueue → Prop}

structure Like (Q : EventQueue → EventQueue → Prop) (first second : Session ε) : Prop where
  core : first.toCore.Like Q second.toCore
  engine : first.engine = second.engine
  lockPoisoned : first.lockPoisoned = second.lockPoisoned

private theorem lifts_like : Lifts (Like (ε := ε) Q) (HeldSession.Like Q) where
  lockPoisoned h := h.lockPoisoned
  violation h := h.core.violation
  handle h := h.core.handle
  held {first second} h := by
    cases hs : second.engine with
    | none => exact .inl ⟨h.engine.trans hs, rfl⟩
    | some engine => exact .inr ⟨engine, engine, h.engine.trans hs, rfl, h.core, rfl⟩
  back broken h := ⟨h.core, congrArg some h.engine, rfl⟩

theorem agree_hold {operation operation' : Held ε α}
    (h : HeldSession.Agree Q operation operation') :
    Run.Agree (Like Q) (hold operation) (hold operation') := lifts_like.hold h

end Session

end Switchboard
