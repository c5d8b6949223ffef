import Switchboard.Proofs.Bridge.Codes
import Switchboard.Proofs.Bridge.Moments
import Switchboard.Proofs.Session.Closing
/-!
# Passes that succeed

A request that succeeds has run on a session that can be used, and leaves it so (`usable_of_ok`). If
it is a pass of a session that has a transfer table, its moments are its notifications and its end,
and their effect shows (`effect_of_pass`).
-/

namespace Switchboard

namespace Bridge

variable {φ ε : Type} {handle : Handle}

/-- The session that can be used behind a handle is the one that is found there. -/
theorem Serving.eq_of_usable {session : Session ε} {bridge : Bridge φ ε}
    (serving : Serving handle session bridge) {held : HeldSession ε}
    (usable : bridge.registry.Usable handle held) :
    session = ⟨held.toCore, some held.engine, false⟩ :=
  congrArg Registry.Occupant.session
    (Option.some.inj (serving.occupant.symm.trans usable.occupant))

/-- The table of a session that can be used. -/
theorem transfers_of_usable {bridge : Bridge φ ε} {held : HeldSession ε}
    (usable : bridge.registry.Usable handle held) {table : Transfer.Table}
    (ht : table? handle bridge = some table) : held.transfers = some table := by
  rw [table?, usable.occupant] at ht
  exact ht

section Passes

variable [Engine ε]

/-- A request that succeeds leaves a session that can be used. -/
theorem usable_of_ok {bridge : Bridge φ ε} {now : Timestamp} {request : Request} {reply : Reply}
    (succeeded : (Bridge.request now handle request bridge).outcome = .ok reply) :
    ∃ held, bridge.registry.Usable handle held ∧
      (request.perform now held).outcome = .ok reply ∧
      (Bridge.request now handle request bridge).state.registry.Usable handle
        (request.perform now held).state := by
  by_cases h : ∃ held, bridge.registry.Usable handle held
  · obtain ⟨held, usable⟩ := h
    have hran := (request_of_usable usable now request).1.symm.trans succeeded
    have hviolation := (HeldSession.built_request now request).violation_eq held
    rw [hran, usable.able] at hviolation
    refine ⟨held, usable, hran, usable_request usable ?_ hviolation⟩
    intro hpanic
    cases hran.symm.trans hpanic
  · exact absurd succeeded
      ((request_of_unusable (fun held usable => h ⟨held, usable⟩) now request).1 reply)

theorem moments_of_fires {engine fired : ε} {request : Request} {notifications : List Notification}
    (fires : Session.Fires engine request notifications fired)
    (outcome : Outcome CallError Reply) :
    request.moments engine outcome = notifications.map .noticed ++ [.passed outcome] := by
  cases fires with
  | iterate hi => rw [Request.moments, hi, Option.map_some, Option.getD_some]
  | invoke => rfl

/-- What a pass that succeeds was and came to: the notifications it took in, and the effect of its
moments on the session with this table. -/
theorem effect_of_pass {bridge : Bridge φ (Recorded ε)} {session : Session (Recorded ε)}
    (serving : Serving handle session bridge) {table : Transfer.Table}
    (ht : session.transfers = some table) {now : Timestamp} {request : Request}
    (pass : request = .iterate ∨ ∃ fired, request = .invoke fired) {reply : Reply}
    (succeeded : (Bridge.request now handle request bridge).outcome = .ok reply) :
    ∃ engine notifications fired effect last left, Works session engine table ∧
      Session.Fires engine request notifications fired ∧
      follow (notifications.map .noticed ++ [.passed (.ok reply)]) table = some effect ∧
      Serving handle last (Bridge.request now handle request bridge).state ∧
      Works last left effect.table ∧ last.events = session.events.pushAll now effect.events ∧
      left.transferCalls = engine.transferCalls ++ effect.calls := by
  obtain ⟨held, usable, hran, after⟩ := usable_of_ok succeeded
  obtain rfl := serving.eq_of_usable usable
  obtain ⟨notifications, fired, fires⟩ := HeldSession.fires_of_ok pass hran
  have hworks : Works ⟨held.toCore, some held.engine, false⟩ held.engine table :=
    ⟨rfl, usable.able, rfl, ht⟩
  obtain ⟨ho, hserving⟩ := serving.request now request
  have hhold := hold_of_works hworks now request
  dsimp only at hhold
  rw [← ho, succeeded, moments_of_fires fires] at hhold
  cases hf : follow (notifications.map .noticed ++ [.passed (.ok reply)]) table with
  | none =>
    rw [hf, hserving.eq_of_usable after] at hhold
    rcases hhold with hdisabled | hbroken
    · rw [show (request.perform now held).state.violation = none from after.able] at hdisabled
      cases hdisabled
    · cases hbroken
  | some effect =>
    rw [hf] at hhold
    obtain ⟨left, hleft, hevents, hcalls⟩ := hhold
    exact ⟨held.engine, notifications, fired, effect, _, left, hworks, fires, hf, hserving, hleft,
      hevents, hcalls⟩

end Passes

end Bridge

end Switchboard
