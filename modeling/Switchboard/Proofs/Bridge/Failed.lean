import Switchboard.Proofs.Bridge.Moments
import Switchboard.Proofs.Registry.Handles
import Switchboard.Proofs.Session.Atomic
import Switchboard.Proofs.Session.Refusals
import Switchboard.Simulation.FaultyEngine
/-!
# Failed requests

What a request that fails leaves of its session. Either the request did not get hold of the session,
and the bridge stays as it is, or it ran on it and did all or nothing (`failed_request_atomic`).
-/

namespace Switchboard

private theorem CallError.violation?_eq_some {cause : CallError} {violation : Violation} :
    cause.violation? = some violation ↔ cause = .bridge (.contract violation) := by
  cases cause with
  | failed failure => simp [CallError.violation?]
  | bridge error => cases error <;> simp [CallError.violation?]

namespace Bridge

variable {φ ε : Type}

def core? (handle : Handle) (bridge : Bridge φ ε) : Option Session.Core :=
  (bridge.registry.occupant? handle).map (·.session.toCore)

/-- What a request that failed leaves of its session: its events, with the number of the next, and
its transfers. It was disabled if it broke the contract, and for nothing else. -/
structure Undone (handle : Handle) (cause : CallError) (before after : Bridge φ ε) : Prop where
  events : (core? handle after).map (·.events) = (core? handle before).map (·.events)
  transfers : (core? handle after).map (·.transfers) = (core? handle before).map (·.transfers)
  disabled_iff : ∀ violation, cause = .bridge (.contract violation) ↔
    (core? handle before).bind (·.violation) = none ∧
      (core? handle after).bind (·.violation) = some violation

section Request

variable [Engine ε] {handle : Handle} {held : HeldSession ε} {bridge : Bridge φ ε}

private theorem undone_of_usable (usable : bridge.registry.Usable handle held) (now : Timestamp)
    {request : Request} (hi : request ≠ .iterate) (hd : ∀ fired, request ≠ .invoke fired)
    {cause : CallError}
    (failed : (Bridge.request now handle request bridge).outcome = .error cause) :
    Undone handle cause bridge (Bridge.request now handle request bridge).state := by
  obtain ⟨hout, -, broken, -, hstate⟩ :=
    Registry.withSession_of_usable usable (request.perform now)
  have hran : (request.perform now held).outcome = .error cause := hout.symm.trans failed
  obtain ⟨slot, hs, hg, -⟩ := Registry.occupant?_eq_some.mp usable.occupant
  have hbefore : core? handle bridge = some held.toCore := by
    rw [core?, usable.occupant]
    rfl
  have hafter : core? handle (Bridge.request now handle request bridge).state =
      some (request.perform now held).state.toCore := by
    simp only [core?, Bridge.request, onRegistry, Run.onPart]
    rw [hstate, Registry.occupant?_setOccupant hs hg]
    rfl
  obtain ⟨hevents, htransfers⟩ := (HeldSession.atomic_perform now hi hd).same
    fun value h => by rw [hran] at h; cases h
  have hviolation := (HeldSession.built_request now request).violation_eq held
  rw [hran, usable.able] at hviolation
  simp only [HeldSession.verdict, Option.or_none] at hviolation
  constructor
  · rw [hbefore, hafter]
    exact congrArg some hevents
  · rw [hbefore, hafter]
    exact congrArg some htransfers
  · intro violation
    rw [hbefore, hafter, Option.bind_some, Option.bind_some, usable.able, hviolation,
      CallError.violation?_eq_some]
    exact (and_iff_right rfl).symm

/-- A request that is no pass and fails changes neither the events nor the transfers, and disables
the session exactly if it returns a violation. What the bridge refuses on its own account leaves
everything as it is, also an engine that records its calls. -/
theorem failed_request_atomic (bridge : Bridge φ ε) (handle : Handle) (now : Timestamp)
    {request : Request} (hi : request ≠ .iterate) (hd : ∀ fired, request ≠ .invoke fired)
    {cause : CallError}
    (failed : (Bridge.request now handle request bridge).outcome = .error cause) :
    Undone handle cause bridge (Bridge.request now handle request bridge).state ∧
      ∀ (held : HeldSession ε) (operation : Operation) (reason : Reason),
        bridge.registry.Usable handle held → request.Refused held.transfers operation reason →
        cause = .failed ⟨operation, reason⟩ ∧
          (Bridge.request now handle request bridge).state = bridge := by
  constructor
  · by_cases h : ∃ held, bridge.registry.Usable handle held
    · obtain ⟨held, usable⟩ := h
      exact undone_of_usable usable now hi hd failed
    · obtain ⟨error, hn, hran⟩ := Registry.withSession_of_unusable
        (fun held usable => h ⟨held, usable⟩) (request.perform now)
      have hsame : Bridge.request now handle request bridge =
          ⟨.error (.bridge error), bridge, []⟩ := by
        rw [Bridge.request, onRegistry, Run.onPart, hran]
      rw [hsame] at failed ⊢
      cases failed
      refine ⟨rfl, rfl, fun violation => ⟨fun he => ?_, fun both => ?_⟩⟩
      · cases he
        exact absurd rfl (hn violation)
      · obtain ⟨hbefore, hafter⟩ := both
        rw [hbefore] at hafter
        cases hafter
  · intro held operation reason usable refused
    obtain ⟨hout, -, broken, hbroken, hstate⟩ :=
      Registry.withSession_of_usable usable (request.perform now)
    have hrefused := HeldSession.perform_of_refused now refused
    rw [hrefused] at hout hbroken hstate
    have hcause : Outcome.error cause = .error (.failed ⟨operation, reason⟩) :=
      failed.symm.trans hout
    cases hcause
    refine ⟨rfl, ?_⟩
    simp only [Bridge.request, onRegistry, Run.onPart]
    rw [hstate, hbroken (by simp)]
    simp only [Registry.setOccupant_self usable.occupant]

end Request

/-- A session in which two events wait and a file is under way. Its engine takes files for sending
under a number that does not fit into eight bits. -/
def strained : Bridge Unit FaultyEngine where
  registry := (Registry.performAll
    [.add ⟨Registry.sampleEngine, { fileNumber := some 300 }⟩,
      .use ⟨0, 1⟩ (Request.perform .epoch (.friendAddNorequest friendKey)),
      .use ⟨0, 1⟩ (Request.perform .epoch
        (.invoke ⟨[.friendTyping 0 true, .legacyFileSendRequest 0 7 5 []], false⟩))]
    (Registry.empty {})).registry
  factory := ()

/-- The number disables the session, and the events and the file are still there. -/
theorem strained_undone :
    (Bridge.request .epoch ⟨0, 1⟩ (.fileSend 0 0 4 []) strained).outcome =
        .error (.bridge (.contract (.indexOutOfRange 300))) ∧
      Undone ⟨0, 1⟩ (.bridge (.contract (.indexOutOfRange 300))) strained
        (Bridge.request .epoch ⟨0, 1⟩ (.fileSend 0 0 4 []) strained).state ∧
      (core? ⟨0, 1⟩ strained).map (·.events.nextSeq) = some 2 := by
  have failed : (Bridge.request .epoch ⟨0, 1⟩ (.fileSend 0 0 4 []) strained).outcome =
      .error (.bridge (.contract (.indexOutOfRange 300))) := by
    decide +kernel
  have hi : Request.fileSend 0 0 4 [] ≠ .iterate := fun h => nomatch h
  have hd : ∀ fired, Request.fileSend 0 0 4 [] ≠ .invoke fired := fun _ h => nomatch h
  exact ⟨failed, (failed_request_atomic strained ⟨0, 1⟩ .epoch hi hd failed).1, by decide +kernel⟩

end Bridge

end Switchboard
