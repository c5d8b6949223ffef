import Switchboard.Error
import Switchboard.Proofs.Run
/-!
# What is logged as an error

A run that returns a violation should log one error, which names that violation, and a run that ends
in any other way none (`Ran.Reports`). This passes from step to step. It does not pass through an
attempt: what follows one may end in another way than what was attempted, so there nothing may have
been logged as an error (`Ran.Quiet`).
-/

namespace Switchboard

def BridgeError.violation? : BridgeError → Option Violation
  | .contract violation => some violation
  | _ => none

@[simp] theorem CallError.violation?_bridge (error : BridgeError) :
    CallError.violation? (.bridge error) = error.violation? := by
  cases error <;> rfl

/-- The violation an operation returned, if `carried` tells what its errors carry. -/
def Outcome.violation? {ε α : Type} (carried : ε → Option Violation) :
    Outcome ε α → Option Violation
  | .error cause => carried cause
  | _ => none

namespace Log

def errors (log : List Entry) : List Entry := log.filter fun entry => entry.level = .error

/-- The log tells of this violation as an error, and of nothing else. -/
def Tells (log : List Entry) : Option Violation → Prop
  | none => errors log = []
  | some violation =>
    ∃ entry, errors log = [entry] ∧ ("violation", .text violation.details) ∈ entry.fields

private theorem errors_append {first : List Entry} (hf : errors first = []) (second : List Entry) :
    errors (first ++ second) = errors second := by
  rw [errors, List.filter_append, ← errors, hf, List.nil_append, errors]

theorem Tells.append {first second : List Entry} {violation : Option Violation}
    (hf : errors first = []) (hs : Tells second violation) : Tells (first ++ second) violation := by
  cases violation with
  | none => exact (errors_append hf second).trans hs
  | some violation =>
    obtain ⟨entry, hone, hnamed⟩ := hs
    exact ⟨entry, (errors_append hf second).trans hone, hnamed⟩

end Log

namespace Ran

variable {σ ε δ α β : Type}

/-- The violation that was returned is logged as an error, and nothing else is. -/
def Reports (carried : ε → Option Violation) (ran : Ran σ ε α) : Prop :=
  Log.Tells ran.log (ran.outcome.violation? carried)

/-- No violation was returned, and nothing logged as an error. -/
structure Quiet (carried : ε → Option Violation) (ran : Ran σ ε α) : Prop where
  outcome : ran.outcome.violation? carried = none
  log : Log.errors ran.log = []

section

variable {carried : ε → Option Violation} {first : Run σ ε α} {next : α → Run σ ε β} {state : σ}

theorem Quiet.reports {ran : Ran σ ε α} (quiet : ran.Quiet carried) : ran.Reports carried := by
  rw [Reports, quiet.outcome]
  exact quiet.log

theorem Reports.bind (hf : (first state).Reports carried)
    (hn : ∀ value, (next value (first state).state).Reports carried) :
    ((first >>= next) state).Reports carried := by
  rw [Run.bind_apply]
  generalize first state = ran at hf hn ⊢
  obtain ⟨outcome, middle, entries⟩ := ran
  cases outcome with
  | ok value => exact Log.Tells.append hf (hn value)
  | error cause => exact hf
  | panic => exact hf

theorem Quiet.bind (hf : (first state).Quiet carried)
    (hn : ∀ value, (next value (first state).state).Quiet carried) :
    ((first >>= next) state).Quiet carried := by
  rw [Run.bind_apply]
  generalize first state = ran at hf hn ⊢
  obtain ⟨outcome, middle, entries⟩ := ran
  cases outcome with
  | ok value => exact ⟨(hn value).outcome, (Log.errors_append hf.log _).trans (hn value).log⟩
  | error cause => exact ⟨hf.outcome, hf.log⟩
  | panic => exact ⟨rfl, hf.log⟩

/-- What follows an attempt has two cases. -/
theorem Quiet.attempt_bind {carried' : δ → Option Violation} {next : Except ε α → Run σ δ β}
    (hf : (first state).Quiet carried)
    (hok : ∀ value, (next (.ok value) (first state).state).Quiet carried')
    (herror : ∀ cause, carried cause = none →
      (next (.error cause) (first state).state).Quiet carried') :
    ((Run.attempt first >>= next) state).Quiet carried' := by
  rw [Run.bind_apply, Run.attempt]
  generalize first state = ran at hf hok herror ⊢
  obtain ⟨outcome, middle, entries⟩ := ran
  cases outcome with
  | ok value => exact ⟨(hok value).outcome, (Log.errors_append hf.log _).trans (hok value).log⟩
  | error cause =>
    have hafter := herror cause hf.outcome
    exact ⟨hafter.outcome, (Log.errors_append hf.log _).trans hafter.log⟩
  | panic => exact ⟨rfl, hf.log⟩

theorem Reports.mapError {carried' : δ → Option Violation} (hf : (first state).Reports carried)
    {change : ε → δ} (hc : ∀ cause, carried' (change cause) = carried cause) :
    (first.mapError change state).Reports carried' := by
  rw [Reports] at hf ⊢
  rw [Run.mapError]
  generalize first state = ran at hf ⊢
  obtain ⟨outcome, middle, entries⟩ := ran
  cases outcome with
  | ok value => exact hf
  | error cause =>
    rw [Outcome.violation?, ← hc cause] at hf
    exact hf
  | panic => exact hf

end

end Ran

end Switchboard
