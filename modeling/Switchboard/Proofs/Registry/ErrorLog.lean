import Switchboard.Proofs.Registry.Shutdown
import Switchboard.Proofs.Session.ErrorLog
/-!
# Errors that the registry logs

Only one operation of the registry logs an error on its own account: to kill a session that was
killed. Finalizing, shutting down and guards kill sessions too, but look at their state before, so
they log no error and return no violation. In a shutdown the state is that of the snapshot, which
has to be true still when the session's turn comes (`quiet_shutdownEach`).
-/

namespace Switchboard

namespace Registry

variable {ε α : Type}

/-! ## Locking, adding and draining -/

private theorem quiet_lock (registry : Registry ε) :
    (lock registry).Quiet BridgeError.violation? := by
  rw [lock]
  split <;> exact ⟨rfl, rfl⟩

private theorem quiet_onSession {handle : Handle} {occupant : Occupant ε}
    {operation : Run (Session ε) BridgeError α}
    (h : (operation occupant.session).Quiet BridgeError.violation?) (registry : Registry ε) :
    (onSession handle occupant operation registry).Quiet BridgeError.violation? :=
  ⟨h.outcome, h.log⟩

private theorem quiet_active (handle : Handle) (registry : Registry ε) :
    (active handle registry).Quiet BridgeError.violation? := by
  refine .bind (quiet_lock registry) fun _ => .bind ⟨rfl, rfl⟩ fun registry => ?_
  cases registry.occupant? handle with
  | none => exact ⟨rfl, rfl⟩
  | some occupant =>
    dsimp only
    split <;> exact ⟨rfl, rfl⟩

theorem quiet_drain (handle : Handle) (registry : Registry ε) :
    (drain handle registry).Quiet BridgeError.violation? :=
  .bind (quiet_active handle registry) fun occupant =>
    quiet_onSession (Session.quiet_drain occupant.session) _

section Add

variable [Engine ε]

private theorem quiet_moveIn (engine : ε) (registry : Registry ε) :
    (moveIn engine registry).Quiet BridgeError.violation? := by
  rw [moveIn]
  split
  · exact ⟨rfl, rfl⟩
  · split
    · exact ⟨rfl, rfl⟩
    · split <;> exact ⟨rfl, rfl⟩

theorem quiet_add (engine : ε) (registry : Registry ε) :
    (add engine registry).Quiet BridgeError.violation? := by
  refine .attempt_bind (quiet_lock registry) (fun _ => ?_) fun cause hc => ?_
  · refine .bind (quiet_moveIn engine _) fun handle => .bind ⟨rfl, rfl⟩ fun registry => ?_
    cases registry.occupant? handle with
    | none => exact ⟨rfl, rfl⟩
    | some occupant =>
      exact .bind (quiet_onSession (Session.quiet_subscribeAll occupant.session) _) fun _ =>
        .bind ⟨rfl, rfl⟩ fun _ => .bind ⟨rfl, rfl⟩ fun _ => ⟨rfl, rfl⟩
  · exact .bind ⟨rfl, rfl⟩ fun _ => ⟨hc, rfl⟩

end Add

/-! ## Removing -/

section Remove

variable {handle : Handle} {registry : Registry ε}

private theorem quiet_kill (h : ∀ occupant, registry.occupant? handle = some occupant →
    occupant.state ≠ .killed) : (kill handle registry).Quiet BridgeError.violation? := by
  cases hl : registry.lockPoisoned with
  | true =>
    rw [kill_of_broken hl]
    exact ⟨rfl, rfl⟩
  | false =>
    simp only [kill, Run.bind_apply, lock_of_healthy hl, Run.get_apply, Run.andThen_silent]
    cases ho : registry.occupant? handle with
    | none => exact ⟨rfl, rfl⟩
    | some occupant =>
      have hrelease : ∀ middle, (onSession handle { occupant with state := .killed }
          Session.release middle).Quiet BridgeError.violation? :=
        quiet_onSession (Session.quiet_release occupant.session)
      cases hs : occupant.state with
      | created | active =>
        simp only [hs]
        exact .bind ⟨rfl, rfl⟩ fun _ => .bind (hrelease _) fun _ =>
          .bind ⟨rfl, rfl⟩ fun _ => ⟨rfl, rfl⟩
      | killed => exact absurd hs (h occupant ho)
      | finalized =>
        simp only [hs]
        exact ⟨rfl, rfl⟩

/-- To kill a session twice is the one error of the registry itself. -/
theorem reports_kill (handle : Handle) (registry : Registry ε) :
    (kill handle registry).Reports BridgeError.violation? := by
  by_cases h : ∃ occupant, registry.occupant? handle = some occupant ∧ occupant.state = .killed
  · obtain ⟨occupant, ho, hs⟩ := h
    cases hl : registry.lockPoisoned with
    | true =>
      rw [kill_of_broken hl]
      exact rfl
    | false =>
      simp only [kill, Run.bind_apply, lock_of_healthy hl, Run.get_apply, Run.andThen_silent, ho,
        hs]
      exact ⟨_, rfl, List.mem_cons_of_mem _ List.mem_cons_self⟩
  · exact (quiet_kill fun occupant ho hs => h ⟨occupant, ho, hs⟩).reports

private theorem quiet_reclaim (handle : Handle) (registry : Registry ε) :
    (reclaim handle registry).Quiet BridgeError.violation? := by
  refine .bind ⟨rfl, rfl⟩ fun _ => ?_
  split
  · exact .bind ⟨rfl, rfl⟩ fun _ => ⟨rfl, rfl⟩
  · exact ⟨rfl, rfl⟩

private theorem quiet_finalize (handle : Handle) (registry : Registry ε) :
    (finalize handle registry).Quiet BridgeError.violation? := by
  cases hl : registry.lockPoisoned with
  | true =>
    rw [finalize_of_broken hl]
    exact ⟨rfl, rfl⟩
  | false =>
    simp only [finalize, Run.bind_apply, lock_of_healthy hl, Run.get_apply, Run.andThen_silent]
    cases ho : registry.occupant? handle with
    | none =>
      dsimp only
      split <;> exact ⟨rfl, rfl⟩
    | some occupant =>
      by_cases hs : occupant.state = .killed
      · simp only [hs, ne_eq, not_true, if_false]
        exact quiet_reclaim handle registry
      · simp only [hs, ne_eq, not_false_eq_true, if_true]
        refine .bind ⟨rfl, rfl⟩ fun _ => .bind (quiet_kill fun other hfound => ?_) fun _ =>
          quiet_reclaim handle _
        cases ho.symm.trans hfound
        exact hs

end Remove

/-! ## Shutdown -/

private theorem quiet_shutdownOne {handle : Handle} {state : Lifecycle} {registry : Registry ε}
    (h : state ≠ .killed → (kill handle registry).Quiet BridgeError.violation?) :
    (shutdownOne handle state registry).Quiet BridgeError.violation? := by
  by_cases hk : state = .killed
  · simp only [shutdownOne, hk, ne_eq, not_true, if_false]
    exact .attempt_bind (quiet_finalize handle _) (fun _ => ⟨rfl, rfl⟩)
      fun _ _ => .bind ⟨rfl, rfl⟩ fun _ => ⟨rfl, rfl⟩
  · simp only [shutdownOne, hk, ne_eq, not_false_eq_true, if_true]
    refine .attempt_bind (h hk) (fun _ => ?_) fun _ _ => .bind ⟨rfl, rfl⟩ fun _ => ?_
    · exact .attempt_bind (quiet_finalize handle _) (fun _ => ⟨rfl, rfl⟩)
        fun _ _ => .bind ⟨rfl, rfl⟩ fun _ => ⟨rfl, rfl⟩
    · exact .attempt_bind (quiet_finalize handle _) (fun _ => ⟨rfl, rfl⟩)
        fun _ _ => .bind ⟨rfl, rfl⟩ fun _ => ⟨rfl, rfl⟩

/-- Each session is in the state of the snapshot when its turn comes. -/
theorem quiet_shutdownEach {sessions : List (Handle × Lifecycle)} {registry : Registry ε}
    (sound : registry.Sound) (hl : registry.lockPoisoned = false)
    (present : Present sessions registry) :
    (shutdownEach sessions registry).Quiet BridgeError.violation? := by
  induction sessions generalizing registry with
  | nil => exact ⟨rfl, rfl⟩
  | cons session rest ih =>
    obtain ⟨handle, state⟩ := session
    obtain ⟨occupant, ho, rfl⟩ := present.found _ List.mem_cons_self
    obtain ⟨hrest, -⟩ := present.rest sound ho
    have hhealthy : (registry.vacate handle).lockPoisoned = false := by
      rw [vacate_lockPoisoned, hl]
    have hone : (shutdownOne handle occupant.state registry).Quiet BridgeError.violation? := by
      refine quiet_shutdownOne fun hk => quiet_kill fun other hfound => ?_
      cases ho.symm.trans hfound
      exact hk
    refine .bind hone fun gone => .bind ?_ fun _ => ⟨rfl, rfl⟩
    rw [(shutdownOne_vacates sound hl ho).2]
    exact ih (sound_vacate sound ho) hhealthy hrest

/-- With the registry's lock broken nothing is killed. -/
theorem quiet_shutdownEach_of_broken (sessions : List (Handle × Lifecycle)) {registry : Registry ε}
    (hl : registry.lockPoisoned = true) :
    (shutdownEach sessions registry).Quiet BridgeError.violation? := by
  induction sessions generalizing registry with
  | nil => exact ⟨rfl, rfl⟩
  | cons session rest ih =>
    obtain ⟨handle, state⟩ := session
    have hone : (shutdownOne handle state registry).Quiet BridgeError.violation? := by
      refine quiet_shutdownOne fun _ => ?_
      rw [kill_of_broken hl]
      exact ⟨rfl, rfl⟩
    have hchange : Change registry (shutdownOne handle state registry).state :=
      moves_shutdownOne .refl .trans change_kill change_finalize handle state registry
    exact .bind hone fun gone =>
      .bind (ih (hchange.upkeep.lockPoisoned_eq.trans hl)) fun _ => ⟨rfl, rfl⟩

private theorem quiet_shutdown {registry : Registry ε}
    (stocked : registry.lockPoisoned = false → registry.Tallied ∧ registry.Stocked) :
    (shutdown registry).Quiet BridgeError.violation? := by
  have heach : (shutdownEach registry.handles registry).Quiet BridgeError.violation? := by
    cases hl : registry.lockPoisoned with
    | true => exact quiet_shutdownEach_of_broken registry.handles hl
    | false =>
      obtain ⟨tallied, hstocked⟩ := stocked hl
      exact quiet_shutdownEach tallied.sound hl (present_handles hstocked.length_le)
  rw [shutdown, Run.bind_apply, Run.get_apply, Run.andThen_silent]
  refine .bind heach fun reclaimed => ?_
  split
  · exact .bind ⟨rfl, rfl⟩ fun _ => ⟨rfl, rfl⟩
  · exact ⟨rfl, rfl⟩

end Registry

/-! ## Guards -/

namespace Guard

open Registry

variable {ε : Type}

/-- A guard kills only a session that is active. -/
theorem quiet_kill_of_active {handle : Handle} {registry : Registry ε}
    (h : registry.state? handle = some .active) :
    (kill handle registry).Quiet BridgeError.violation? := by
  refine quiet_kill fun other hfound hk => ?_
  rw [state?_of_occupant hfound, hk] at h
  cases h

private theorem quiet_finish (guard : Guard) (registry : Registry ε) :
    (guard.finish registry).Quiet BridgeError.violation? := by
  rw [finish, Run.bind_apply, Run.get_apply, Run.andThen_silent]
  split
  · rename_i h
    exact .bind (quiet_kill_of_active h) fun _ => quiet_finalize guard.handle _
  · exact quiet_finalize guard.handle registry

private theorem quiet_drop (guard : Guard) (registry : Registry ε) :
    (guard.drop registry).Quiet BridgeError.violation? := by
  rw [drop, Run.bind_apply, Run.get_apply, Run.andThen_silent]
  split
  · rename_i h
    refine .attempt_bind (quiet_kill_of_active h) (fun _ => ?_)
      fun _ _ => .bind ⟨rfl, rfl⟩ fun _ => ?_
    · exact .attempt_bind (quiet_finalize guard.handle _) (fun _ => ⟨rfl, rfl⟩)
        fun _ _ => ⟨rfl, rfl⟩
    · exact .attempt_bind (quiet_finalize guard.handle _) (fun _ => ⟨rfl, rfl⟩)
        fun _ _ => ⟨rfl, rfl⟩
  · exact .attempt_bind (quiet_finalize guard.handle _) (fun _ => ⟨rfl, rfl⟩)
      fun _ _ => ⟨rfl, rfl⟩

private theorem quiet_close (guard : Guard) (registry : Registry ε) :
    (guard.close registry).Quiet BridgeError.violation? :=
  .attempt_bind (quiet_finish guard registry)
    (fun _ => .bind (quiet_drop guard _) fun _ => ⟨rfl, rfl⟩)
    fun _ hc => .bind (quiet_drop guard _) fun _ => ⟨hc, rfl⟩

end Guard

namespace Registry

variable {ε : Type} [Engine ε]

/-- Whatever is asked of the registry, or done to it by a guard, reports its violation. An operation
that is run on a session ends as it ends there, and logs what it logs there. -/
structure Reporting (registry : Registry ε) : Prop where
  add : ∀ engine, (add engine registry).Reports BridgeError.violation?
  drain : ∀ handle, (drain handle registry).Reports BridgeError.violation?
  kill : ∀ handle, (kill handle registry).Reports BridgeError.violation?
  finalize : ∀ handle, (finalize handle registry).Reports BridgeError.violation?
  shutdown : (shutdown registry).Reports BridgeError.violation?
  close : ∀ guard : Guard, (guard.close registry).Reports BridgeError.violation?
  drop : ∀ guard : Guard, (guard.drop registry).Reports BridgeError.violation?
  withSession : ∀ {α : Type} (handle : Handle) (operation : Held ε α),
    (∃ held, registry.Usable handle held ∧
      (withSession handle operation registry).outcome = (operation held).outcome ∧
      (withSession handle operation registry).log = (operation held).log) ∨
    (∀ held, ¬ registry.Usable handle held) ∧
      (withSession handle operation registry).Quiet CallError.violation?

theorem reporting {registry : Registry ε}
    (stocked : registry.lockPoisoned = false → registry.Tallied ∧ registry.Stocked) :
    registry.Reporting where
  add := fun engine => (quiet_add engine registry).reports
  drain := fun handle => (quiet_drain handle registry).reports
  kill := fun handle => reports_kill handle registry
  finalize := fun handle => (quiet_finalize handle registry).reports
  shutdown := (quiet_shutdown stocked).reports
  close := fun guard => (guard.quiet_close registry).reports
  drop := fun guard => (guard.quiet_drop registry).reports
  withSession := by
    intro α handle operation
    by_cases h : ∃ held, registry.Usable handle held
    · obtain ⟨held, usable⟩ := h
      obtain ⟨hout, hlog, -⟩ := withSession_of_usable usable operation
      exact .inl ⟨held, usable, hout, hlog⟩
    · have unusable : ∀ held, ¬ registry.Usable handle held := fun held usable => h ⟨held, usable⟩
      obtain ⟨error, hn, hran⟩ := withSession_of_unusable unusable operation
      refine .inr ⟨unusable, ?_⟩
      rw [hran]
      refine ⟨?_, rfl⟩
      cases error with
      | contract violation => exact absurd rfl (hn violation)
      | _ => rfl

/-- A caller that only takes the steps requests are put together from passes every error on. -/
theorem Reporting.built {α : Type} {registry : Registry ε} (reporting : registry.Reporting)
    (handle : Handle) {may : Call → Prop} {warns : Prop}
    {operation : Held ε α} (built : HeldSession.Built may warns operation) :
    (Registry.withSession handle operation registry).Reports CallError.violation? := by
  rcases reporting.withSession handle operation with ⟨held, -, hout, hlog⟩ | ⟨-, quiet⟩
  · rw [Ran.Reports, hout, hlog]
    exact built.reports held
  · exact quiet.reports

end Registry

end Switchboard
