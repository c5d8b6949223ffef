import Switchboard.Proofs.ErrorLog
import Switchboard.Proofs.Session.Built
/-!
# Errors that sessions log

A request logs an error only where it disables the session, and then fails at once with the
violation it logged (`Built.reports`). The operations that registries ask of sessions on their own
account log no error and return no violation.
-/

namespace Switchboard

namespace HeldSession

variable {ε α : Type} [Engine ε] {may : Call → Prop} {warns : Prop}

theorem Built.reports {operation : Held ε α} (built : Built may warns operation)
    (held : HeldSession ε) : (operation held).Reports CallError.violation? := by
  induction built generalizing held with
  | bind _ _ hf hn => exact .bind (hf held) fun value => hn value _
  | call _ =>
    simp only [HeldSession.call]
    split <;> exact rfl
  | log message fields hl =>
    exact List.filter_eq_nil_iff.mpr fun entry hm => by
      rw [List.mem_singleton.mp hm]
      simpa using hl.1
  | poison violation => exact ⟨_, rfl, List.mem_cons_of_mem _ List.mem_cons_self⟩
  | receive now notification =>
    have htrace : Log.errors (held.traceEntry notification) = [] := by
      rw [traceEntry]
      split <;> rfl
    simp only [HeldSession.receive]
    split <;> exact htrace
  | warnOfBacklog _ =>
    simp only [HeldSession.warnOfBacklog]
    split <;> exact rfl
  | _ => exact rfl

end HeldSession

namespace Session

variable {ε : Type}

theorem quiet_drain (session : Session ε) : (drain session).Quiet BridgeError.violation? := by
  rw [drain]
  split <;> exact ⟨rfl, rfl⟩

theorem quiet_release (session : Session ε) : (release session).Quiet BridgeError.violation? := by
  rw [release]
  split
  · exact ⟨rfl, rfl⟩
  · refine ⟨rfl, ?_⟩
    dsimp only
    split
    · split <;> rfl
    · rfl

theorem quiet_subscribeAll [Engine ε] (session : Session ε) :
    (subscribeAll session).Quiet BridgeError.violation? := by
  rw [subscribeAll]
  split
  · exact ⟨rfl, rfl⟩
  · split
    · exact ⟨rfl, rfl⟩
    · split <;> exact ⟨rfl, rfl⟩

end Session

end Switchboard
