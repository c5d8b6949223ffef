import Switchboard.Event
import Switchboard.Time.Timestamp
/-!
# The event queue

Events wait in the order they were pushed, each under a sequence number of its own, until a drain
takes them all. Numbers go on counting across drains.
-/

namespace Switchboard

/-- An event with its sequence number and the time it was pushed at. -/
structure Envelope where
  seq : UInt64
  timestamp : Timestamp
  event : Event
  deriving DecidableEq, Repr

/-- The events of one drain, in order. -/
structure Batch where
  envelopes : List Envelope
  deriving DecidableEq, Repr

namespace Batch

def length (batch : Batch) : Nat := batch.envelopes.length

def isEmpty (batch : Batch) : Bool := batch.envelopes.isEmpty

/-- The events without their envelopes. -/
def events (batch : Batch) : List Event := batch.envelopes.map (·.event)

end Batch

structure EventQueue where
  nextSeq : UInt64
  /-- The waiting events, the one pushed last first. -/
  newestFirst : List Envelope
  /-- How many events wait. -/
  length : Nat
  length_eq : length = newestFirst.length
  deriving DecidableEq, Repr

namespace EventQueue

def empty : EventQueue := ⟨0, [], 0, rfl⟩

def pending (queue : EventQueue) : List Envelope := queue.newestFirst.reverse

def isEmpty (queue : EventQueue) : Bool := queue.newestFirst.isEmpty

/-- Append an event under the next sequence number. -/
def push (now : Timestamp) (event : Event) (queue : EventQueue) : EventQueue where
  nextSeq := queue.nextSeq + 1
  newestFirst := ⟨queue.nextSeq, now, event⟩ :: queue.newestFirst
  length := queue.length + 1
  length_eq := by rw [List.length_cons, queue.length_eq]

def pushAll (now : Timestamp) (events : List Event) (queue : EventQueue) : EventQueue :=
  events.foldl (fun queue event => queue.push now event) queue

def drain (queue : EventQueue) : Batch × EventQueue :=
  (⟨queue.pending⟩, ⟨queue.nextSeq, [], 0, rfl⟩)

theorem pushAll_append (now : Timestamp) (first second : List Event) (queue : EventQueue) :
    queue.pushAll now (first ++ second) = (queue.pushAll now first).pushAll now second := by
  rw [pushAll, List.foldl_append]
  rfl

theorem pending_push (now : Timestamp) (event : Event) (queue : EventQueue) :
    (queue.push now event).pending = queue.pending ++ [⟨queue.nextSeq, now, event⟩] := by
  simp [pending, push]

/-- What was pushed waits after what waited before. -/
theorem events_pushAll (now : Timestamp) (events : List Event) (queue : EventQueue) :
    (queue.pushAll now events).pending.map (·.event) = queue.pending.map (·.event) ++ events := by
  induction events generalizing queue with
  | nil => exact (List.append_nil _).symm
  | cons event rest ih =>
    have pushed : queue.pushAll now (event :: rest) = (queue.push now event).pushAll now rest := rfl
    rw [pushed, ih, pending_push, List.map_append, List.append_assoc]
    rfl

theorem length_pending (queue : EventQueue) : queue.pending.length = queue.length := by
  rw [pending, List.length_reverse, queue.length_eq]

theorem pending_drain (queue : EventQueue) : queue.drain.2.pending = [] := rfl

end EventQueue

end Switchboard
