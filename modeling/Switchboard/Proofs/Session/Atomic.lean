import Switchboard.Proofs.Session.Built
/-!
# All or nothing

A request that is no pass pushes no event and changes no transfer unless it is answered
(`Atomic`, `atomic_perform`): it changes the transfers last, when nothing can fail any more.
-/

namespace Switchboard

namespace HeldSession

variable {ε α β : Type}

/-- If the operation gives no value, it has pushed no event and left the transfers alone, and if it
does, it has not disabled the session. -/
def Atomic (operation : Held ε α) : Prop :=
  ∀ held,
    match (operation held).outcome with
    | .ok _ => (operation held).state.violation = held.violation
    | _ => (operation held).state.events = held.events ∧
        (operation held).state.transfers = held.transfers

theorem Atomic.same {operation : Held ε α} (atomic : Atomic operation) {held : HeldSession ε}
    (h : ∀ value, (operation held).outcome ≠ .ok value) :
    (operation held).state.events = held.events ∧
      (operation held).state.transfers = held.transfers := by
  have hatomic := atomic held
  cases ho : (operation held).outcome with
  | ok value => exact absurd ho (h value)
  | _ =>
    rw [ho] at hatomic
    exact hatomic

/-! ## Requests -/

private theorem atomic_get {next : HeldSession ε → Held ε α} (h : ∀ held, Atomic (next held)) :
    Atomic (Run.get >>= next) :=
  fun held => h held held

theorem Atomic.map {operation : Held ε α} (h : Atomic operation) (answer : α → β) :
    Atomic (do return answer (← operation)) := by
  intro held
  have hheld := h held
  rcases hran : operation held with ⟨outcome, state, entries⟩
  rw [hran] at hheld
  simp only [Run.bind_apply, hran]
  cases outcome <;> exact hheld

variable [Engine ε]

theorem Asks.atomic {operation : Held ε α} (asks : Asks (fun _ => True) operation) :
    Atomic operation := by
  intro held
  have hcore := asks.still held
  have built : Built (fun _ => True) False _ := asks.built
  have hviolation := built.violation_eq held
  cases ho : (operation held).outcome with
  | ok value => rw [hviolation, ho]; rfl
  | error cause => exact ⟨congrArg (·.events) hcore, congrArg (·.transfers) hcore⟩
  | panic => exact ⟨congrArg (·.events) hcore, congrArg (·.transfers) hcore⟩

/-- The engine may be asked before. -/
theorem atomic_asked {first : Held ε α} {next : α → Held ε β} (asks : Asks (fun _ => True) first)
    (hn : ∀ value, Atomic (next value)) : Atomic (first >>= next) := by
  intro held
  have hcore := asks.still held
  have built : Built (fun _ => True) False _ := asks.built
  have hviolation := built.violation_eq held
  simp only [Run.bind_apply]
  rcases hran : first held with ⟨outcome, state, entries⟩
  rw [hran] at hcore hviolation
  have hevents : state.events = held.events := congrArg (·.events) hcore
  have htransfers : state.transfers = held.transfers := congrArg (·.transfers) hcore
  cases outcome with
  | ok value =>
    have hnext := hn value state
    rw [hviolation, hevents, htransfers] at hnext
    exact hnext
  | error cause => exact ⟨hevents, htransfers⟩
  | panic => exact ⟨hevents, htransfers⟩

omit [Engine ε] in
/-- What cannot fail may come last. -/
theorem atomic_updateTransfers (change : Transfer.Table → Transfer.Table) :
    Atomic (updateTransfers (ε := ε) change) := fun _ => rfl

private theorem atomic_fileSend (friend kind : UInt32) (size : UInt64) (name : Bytes) :
    Atomic (ε := ε) (fileSend friend kind size name) := by
  refine atomic_asked (asks_reported trivial) fun number =>
    atomic_get fun held => ?_
  split
  · exact Asks.atomic (.pure _)
  · split
    · exact Asks.atomic (.poison _)
    · exact fun _ => rfl

private theorem atomic_fileControl (friend : UInt32) (file : FileId) (control : FileControl) :
    Atomic (ε := ε) (fileControl friend file control) := by
  refine atomic_get fun held => ?_
  split
  · exact Asks.atomic (asks_reported trivial)
  · split
    · exact Asks.atomic (.refuse _ _)
    · exact atomic_asked (asks_reported trivial) fun _ =>
        atomic_updateTransfers _

private theorem atomic_fileSendChunk (friend : UInt32) (file : FileId) (position : UInt64)
    (data : Bytes) : Atomic (ε := ε) (fileSendChunk friend file position data) := by
  refine atomic_get fun held => ?_
  split
  · exact Asks.atomic (asks_reported trivial)
  · dsimp only
    split
    · exact Asks.atomic (.refuse _ _)
    · split
      · exact atomic_updateTransfers _
      · exact atomic_asked (asks_reported trivial) fun _ =>
          atomic_updateTransfers _

/-- Requests that are no passes do all or nothing. -/
theorem atomic_perform (now : Timestamp) {request : Request} (hi : request ≠ .iterate)
    (hd : ∀ fired, request ≠ .invoke fired) : Atomic (ε := ε) (request.perform now) := by
  cases request with
  | iterate => exact absurd rfl hi
  | invoke fired => exact absurd rfl (hd fired)
  | fileSend friend kind size name => exact (atomic_fileSend friend kind size name).map _
  | fileControl friend file control => exact (atomic_fileControl friend file control).map _
  | fileSendChunk friend file position data =>
    exact (atomic_fileSendChunk friend file position data).map _
  | _ => exact Asks.atomic (asks_perform (fun _ _ => trivial) now rfl)

end HeldSession

end Switchboard
