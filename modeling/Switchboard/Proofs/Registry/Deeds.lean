import Switchboard.Guard
import Switchboard.Proofs.Registry.Tally
/-!
# Runs of a registry with guards

A run may also drop and close guards (`Deed`, `doAll`). A guard does nothing but kill and finalize,
so what holds of all kills and finalizes holds of it (`moves_drop`, `moves_close`), and a run with
guards leads where commands lead that bring the same engines and issue the same handles
(`exists_commands_doAll`).
-/

namespace Switchboard

namespace Guard

open Registry

variable {ε : Type}

section Moves

variable {R : Registry ε → Registry ε → Prop} (refl : ∀ registry, R registry registry)
  (trans : ∀ {first second third}, R first second → R second third → R first third)
  (killed : ∀ handle, Run.Moves R (kill handle : Op ε Unit))
  (finalized : ∀ handle, Run.Moves R (finalize handle : Op ε Unit))
include refl trans killed finalized

private theorem moves_finish (guard : Guard) : Run.Moves R (guard.finish : Op ε Unit) := by
  refine Run.Moves.bind (R := R) trans refl fun current => ?_
  split
  · exact Run.Moves.bind (R := R) trans (killed guard.handle) fun _ => finalized guard.handle
  · exact finalized guard.handle

theorem moves_drop (guard : Guard) : Run.Moves R (guard.drop : Op ε Unit) := by
  refine Run.Moves.bind (R := R) trans refl fun current => ?_
  split
  · refine Run.Moves.attempt_bind (R := R) trans (killed guard.handle) (fun _ => ?_) fun _ => ?_
    · exact Run.Moves.attempt_bind (R := R) trans (finalized guard.handle) (fun _ => refl)
        fun _ => refl
    · refine Run.Moves.bind (R := R) trans refl fun _ => ?_
      exact Run.Moves.attempt_bind (R := R) trans (finalized guard.handle) (fun _ => refl)
        fun _ => refl
  · exact Run.Moves.attempt_bind (R := R) trans (finalized guard.handle) (fun _ => refl)
      fun _ => refl

theorem moves_close (guard : Guard) : Run.Moves R (guard.close : Op ε Unit) := by
  have hdrop := moves_drop refl trans killed finalized guard
  have hend : ∀ finished : Except BridgeError Unit, Run.Moves R (do
      guard.drop; Run.ofExcept finished : Op ε Unit) := fun finished =>
    Run.Moves.bind (R := R) trans hdrop fun _ => by cases finished <;> exact refl
  exact Run.Moves.attempt_bind (R := R) trans (moves_finish refl trans killed finalized guard)
    (fun _ => hend _) fun _ => hend _

end Moves

end Guard

namespace Registry

variable {ε : Type} [Engine ε]

/-! ## Runs with guards -/

/-- What may be done to a registry, with guards beside the commands. -/
inductive Deed (ε : Type) where
  | ask (command : Command ε)
  | close (guard : Guard)
  | drop (guard : Guard)

def Deed.perform : Deed ε → Run (Registry ε) CallError Answer
  | .ask command => command.perform
  | .close guard => do guard.close.mapError .bridge; return .done
  | .drop guard => do guard.drop.mapError .bridge; return .done

def Deed.brings : Deed ε → Bool
  | .ask command => command.brings
  | _ => false

/-- Do one deed after the other. Neither an error nor a panic ends the run. -/
def doAll : List (Deed ε) → Registry ε → History ε
  | [], registry => ⟨[], registry⟩
  | deed :: rest, registry =>
    let ran := deed.perform registry
    let after := doAll rest ran.state
    ⟨ran.outcome :: after.outcomes, after.registry⟩

/-- Commands that bring nothing lead from one registry to the other. -/
def Leads (first second : Registry ε) : Prop :=
  ∃ commands : List (Command ε), (performAll commands first).registry = second ∧
    (performAll commands first).issued = [] ∧ commands.countP Command.brings = 0

theorem Leads.refl (registry : Registry ε) : Leads registry registry := ⟨[], rfl, rfl, rfl⟩

theorem Leads.trans {first second third : Registry ε} (h₁ : Leads first second)
    (h₂ : Leads second third) : Leads first third := by
  obtain ⟨earlier, rfl, hissued, hbrings⟩ := h₁
  obtain ⟨later, rfl, hissued', hbrings'⟩ := h₂
  refine ⟨earlier ++ later, by rw [performAll_append], ?_, ?_⟩
  · rw [History.issued, performAll_append, List.filterMap_append]
    exact List.append_eq_nil_iff.mpr ⟨hissued, hissued'⟩
  · rw [List.countP_append, hbrings, hbrings']

/-- A command other than adding leads where its operation leads. -/
theorem leads_of_perform (command : Command ε) (h : ∀ engine, command ≠ .add engine)
    {registry next : Registry ε} (hn : (command.perform registry).state = next) :
    Leads registry next := by
  refine ⟨[command], hn, ?_, ?_⟩
  · simp only [History.issued, performAll, List.filterMap_cons, (change_perform h registry).2]
    rfl
  · cases command with
    | add engine => exact absurd rfl (h engine)
    | _ => rfl

private theorem leads_kill (handle : Handle) : Run.Moves Leads (kill handle : Op ε Unit) := by
  intro registry
  refine leads_of_perform (.kill handle) (fun _ h => nomatch h) ?_
  simp only [Command.perform, Run.mapError, Run.bind_apply, Run.andThen]
  cases (kill handle registry).outcome <;> rfl

private theorem leads_finalize (handle : Handle) :
    Run.Moves Leads (finalize handle : Op ε Unit) := by
  intro registry
  refine leads_of_perform (.finalize handle) (fun _ h => nomatch h) ?_
  simp only [Command.perform, Run.mapError, Run.bind_apply, Run.andThen]
  cases (finalize handle registry).outcome <;> rfl

/-- A guard issues no handle and brings no engine. -/
theorem leads_perform {deed : Deed ε} {run : Op ε Unit} (hmoves : Run.Moves Leads run)
    (hp : deed.perform = (do run.mapError .bridge; return .done)) (registry : Registry ε) :
    Leads registry (deed.perform registry).state ∧
      issued? (deed.perform registry).outcome = none := by
  have hleads := hmoves registry
  simp only [hp, Run.mapError, Run.bind_apply, Run.andThen]
  cases (run registry).outcome <;> exact ⟨hleads, rfl⟩

/-- What a deed does, commands could have done. -/
theorem exists_commands (deed : Deed ε) (registry : Registry ε) :
    ∃ commands : List (Command ε),
      (performAll commands registry).registry = (deed.perform registry).state ∧
      (performAll commands registry).issued = (issued? (deed.perform registry).outcome).toList ∧
      commands.countP Command.brings = deed.brings.toNat := by
  have hleads : (Leads registry (deed.perform registry).state ∧
      issued? (deed.perform registry).outcome = none) → deed.brings = false →
      ∃ commands : List (Command ε),
        (performAll commands registry).registry = (deed.perform registry).state ∧
        (performAll commands registry).issued = (issued? (deed.perform registry).outcome).toList ∧
        commands.countP Command.brings = deed.brings.toNat := by
    rintro ⟨⟨commands, hreached, hissued, hcount⟩, hnone⟩ hbrings
    exact ⟨commands, hreached, by rw [hissued, hnone]; rfl, by rw [hcount, hbrings]; rfl⟩
  cases deed with
  | ask command =>
    refine ⟨[command], rfl, ?_, ?_⟩
    · simp only [History.issued, performAll, Deed.perform, List.filterMap_cons, List.filterMap_nil]
      cases issued? (command.perform registry).outcome <;> rfl
    · cases hb : command.brings <;> simp [Deed.brings, hb]
  | close guard =>
    have hmoves : Run.Moves Leads (guard.close : Op ε Unit) :=
      guard.moves_close .refl .trans leads_kill leads_finalize
    exact hleads (leads_perform hmoves rfl registry) rfl
  | drop guard =>
    have hmoves : Run.Moves Leads (guard.drop : Op ε Unit) :=
      guard.moves_drop .refl .trans leads_kill leads_finalize
    exact hleads (leads_perform hmoves rfl registry) rfl

/-- And so for a run. -/
theorem exists_commands_doAll (deeds : List (Deed ε)) (registry : Registry ε) :
    ∃ commands : List (Command ε),
      (performAll commands registry).registry = (doAll deeds registry).registry ∧
      (performAll commands registry).issued = (doAll deeds registry).issued ∧
      commands.countP Command.brings = deeds.countP Deed.brings := by
  induction deeds generalizing registry with
  | nil => exact ⟨[], rfl, rfl, rfl⟩
  | cons deed rest ih =>
    obtain ⟨now, hreached, hissued, hcount⟩ := exists_commands deed registry
    obtain ⟨later, hlast, hissued', hcount'⟩ := ih (deed.perform registry).state
    refine ⟨now ++ later, ?_, ?_, ?_⟩
    · rw [performAll_append, hreached, hlast, doAll]
    · rw [History.issued] at hissued hissued' ⊢
      rw [performAll_append, List.filterMap_append, hissued, hreached, hissued']
      simp only [History.issued, doAll, List.filterMap_cons]
      cases issued? (deed.perform registry).outcome <;> rfl
    · rw [List.countP_append, hcount, hcount', List.countP_cons, Nat.add_comm]
      cases deed.brings <;> rfl

end Registry

end Switchboard
