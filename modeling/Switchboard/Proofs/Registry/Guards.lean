import Switchboard.Proofs.Registry.Shutdown
/-!
# Guards over whole runs

Whatever became of the session of a guard, the drop of the guard vacates its slot (`drop_vacates`),
and so does closing it: where the first attempt stops at the broken lock of the session, the session
counts as killed, and the drop that follows does the rest (`close_vacates`). This takes a handle
that was issued. A session whose engine panicked while it was added is only created; its handle was
issued to nobody, and one drop would not be enough for it.
-/

namespace Switchboard

namespace Registry

variable {ε : Type}

/-! ## A session that is gone -/

private theorem vacate_of_absent {registry : Registry ε} {handle : Handle}
    (ho : registry.occupant? handle = none) : registry.vacate handle = registry := by
  simp only [vacate, ho]
  cases registry.slot? handle <;> rfl

/-- The session of the handle is gone now, if it was not before, its engine was released, and the
other sessions are as they were. -/
structure Gone (handle : Handle) (registry next : Registry ε) : Prop where
  state : next.state? handle = some .finalized
  absent : next.occupant? handle = none
  released : next.released =
    registry.released ++ ((registry.occupant? handle).bind (·.session.engine)).toList
  live : next.live + (registry.occupant? handle).isSome.toNat = registry.live
  unchanged : registry.occupant? handle = none → next = registry
  others : ∀ other, other ≠ handle → Same other next registry

private theorem gone_vacate {registry : Registry ε} {handle : Handle} (tallied : registry.Tallied)
    (known : registry.state? handle ≠ none) : Gone handle registry (registry.vacate handle) := by
  cases ho : registry.occupant? handle with
  | none =>
    have hfinalized : registry.state? handle = some .finalized := by
      simp only [state?, ho] at known ⊢
      cases hi : registry.wasIssued handle with
      | true => rfl
      | false => simp [hi] at known
    rw [vacate_of_absent ho]
    exact
      { state := hfinalized
        absent := ho
        released := by simp [ho]
        live := by simp [ho]
        unchanged := fun _ => rfl
        others := fun _ _ => ⟨rfl, rfl⟩ }
  | some occupant =>
    obtain ⟨slot, hs, -, -⟩ := occupant?_eq_some.mp ho
    have hcount := occupied_vacate ho
    rw [← tallied.live_eq, ← (tallied.vacate ho).live_eq] at hcount
    exact
      { state := by rw [state?_vacate ho hs (tallied.sound.slot hs), if_pos rfl]
        absent := by rw [occupant?_vacate ho, if_pos rfl]
        released := by rw [released_vacate ho, ho, Option.bind_some]
        live := by rw [ho]; exact hcount
        unchanged := fun hnone => by rw [ho] at hnone; cases hnone
        others := fun _ hne => same_vacate tallied.sound ho hne }

end Registry

namespace Guard

open Registry

variable {ε : Type} {registry : Registry ε} {guard : Guard}

/-! ## One guard -/

/-- The states a session may be in whose handle was issued. -/
theorem active_or_killed {handle : Handle} {occupant : Occupant ε} (sound : registry.Sound)
    (handed : registry.HandedOut handle) (ho : registry.occupant? handle = some occupant) :
    occupant.state = .active ∨ occupant.state = .killed := by
  by_cases hk : occupant.state = .killed
  · exact .inr hk
  · exact .inl ((sound.live_of_not_killed ho hk).resolve_left (handed.ne_created ho))

private theorem wasIssued_of_handedOut {handle : Handle} (handed : registry.HandedOut handle)
    (ho : registry.occupant? handle = none) : registry.wasIssued handle = true := by
  have hknown := handed.known
  simp only [state?, ho] at hknown
  cases hi : registry.wasIssued handle with
  | true => rfl
  | false => simp [hi] at hknown

theorem drop_vacates (tallied : registry.Tallied) (hl : registry.lockPoisoned = false)
    (handed : registry.HandedOut guard.handle) :
    (guard.drop registry).outcome = .ok () ∧
      (guard.drop registry).state = registry.vacate guard.handle := by
  cases ho : registry.occupant? guard.handle with
  | none =>
    have hissued := wasIssued_of_handedOut handed ho
    obtain ⟨hok, hsame⟩ := finalize_of_finalized hl ho hissued
    have hs : registry.state? guard.handle = some .finalized := by simp [state?, ho, hissued]
    simp [drop, hs, Run.attempt, hok, hsame, vacate_of_absent ho]
  | some occupant =>
    have hs := state?_of_occupant ho
    rcases active_or_killed tallied.sound handed ho with ha | hk
    · obtain ⟨hok, hvacated⟩ := finalize_kill hl ho (.inr ha)
      rw [ha] at hs
      cases hkilled : (kill guard.handle registry).outcome with
      | ok => simp [drop, hs, Run.attempt, hkilled, hok, hvacated]
      | error cause => simp [drop, hs, Run.attempt, hkilled, hok, hvacated, Registry.log]
      | panic => exact absurd hkilled (kill_ne_panic _ _)
    · obtain ⟨hok, hvacated⟩ := finalize_of_killed hl ho hk
      rw [hk] at hs
      simp [drop, hs, Run.attempt, hok, hvacated]

/-- The session of the handle is active, but its lock is broken. -/
def Stuck (registry : Registry ε) (handle : Handle) : Prop :=
  ∃ occupant, registry.occupant? handle = some occupant ∧ occupant.state = .active ∧
    occupant.session.lockPoisoned = true

private theorem finish_of_stuck (hl : registry.lockPoisoned = false)
    (stuck : Stuck registry guard.handle) :
    (guard.finish registry).outcome = .error (.lockPoisoned .session) ∧
      (guard.finish registry).state = (kill guard.handle registry).state := by
  obtain ⟨occupant, ho, ha, hp⟩ := stuck
  have hs : registry.state? guard.handle = some .active := by rw [state?_of_occupant ho, ha]
  have hstopped := (kill_of_live_broken hl ho (.inr ha) hp).1
  simp [finish, hs, Run.andThen, hstopped]

private theorem finish_vacates (tallied : registry.Tallied) (hl : registry.lockPoisoned = false)
    (handed : registry.HandedOut guard.handle) (loose : ¬ Stuck registry guard.handle) :
    (guard.finish registry).outcome = .ok () ∧
      (guard.finish registry).state = registry.vacate guard.handle := by
  cases ho : registry.occupant? guard.handle with
  | none =>
    have hissued := wasIssued_of_handedOut handed ho
    obtain ⟨hok, hsame⟩ := finalize_of_finalized hl ho hissued
    have hs : registry.state? guard.handle = some .finalized := by simp [state?, ho, hissued]
    simp [finish, hs, hok, hsame, vacate_of_absent ho]
  | some occupant =>
    have hs := state?_of_occupant ho
    rcases active_or_killed tallied.sound handed ho with ha | hk
    · rw [ha] at hs
      have hp : occupant.session.lockPoisoned = false := by
        cases hp : occupant.session.lockPoisoned with
        | true => exact absurd ⟨occupant, ho, ha, hp⟩ loose
        | false => rfl
      have hkilled := (kill_of_live hl ho (.inr ha) hp).1
      obtain ⟨hok, hvacated⟩ := finalize_kill hl ho (.inr ha)
      simp [finish, hs, Run.andThen, hkilled, hok, hvacated]
    · obtain ⟨hok, hvacated⟩ := finalize_of_killed hl ho hk
      rw [hk] at hs
      simp [finish, hs, hok, hvacated]

/-- The close of a guard fails at a broken lock, and leaves its drop to vacate the slot. -/
theorem close_of_stuck (tallied : registry.Tallied) (hl : registry.lockPoisoned = false)
    (handed : registry.HandedOut guard.handle) (stuck : Stuck registry guard.handle) :
    (guard.close registry).outcome = .error (.lockPoisoned .session) ∧
      (guard.close registry).state = registry.vacate guard.handle := by
  obtain ⟨hstopped, hkilled⟩ := finish_of_stuck hl stuck
  obtain ⟨occupant, ho, ha, -⟩ := stuck
  have hchange : Change registry (kill guard.handle registry).state := change_kill _ registry
  obtain ⟨hok, hvacated⟩ := drop_vacates (hchange.tallied tallied) (healthy_kill hl)
    (hchange.handedOut tallied.sound handed)
  rw [(vacate_kill hl ho (.inr ha)).2] at hvacated
  simp [close, Run.attempt, Run.andThen, hstopped, hkilled, hok, hvacated, Run.ofExcept]

theorem close_vacates (tallied : registry.Tallied) (hl : registry.lockPoisoned = false)
    (handed : registry.HandedOut guard.handle) (loose : ¬ Stuck registry guard.handle) :
    (guard.close registry).outcome = .ok () ∧
      (guard.close registry).state = registry.vacate guard.handle := by
  obtain ⟨hfinished, hvacated⟩ := finish_vacates tallied hl handed loose
  have hgone := (gone_vacate tallied handed.known).absent
  have hagain : (guard.drop (registry.vacate guard.handle)).outcome = .ok () ∧
      (guard.drop (registry.vacate guard.handle)).state = registry.vacate guard.handle := by
    cases ho : registry.occupant? guard.handle with
    | none =>
      rw [vacate_of_absent ho]
      have hdrop := drop_vacates tallied hl handed
      rwa [vacate_of_absent ho] at hdrop
    | some occupant =>
      have hhealthy : (registry.vacate guard.handle).lockPoisoned = false := by
        rw [vacate_lockPoisoned, hl]
      have hdrop := drop_vacates (tallied.vacate ho) hhealthy (handed.vacate tallied.sound ho)
      rwa [vacate_of_absent hgone] at hdrop
  simp [close, Run.attempt, Run.andThen, hfinished, hvacated, hagain, Run.ofExcept]

end Guard

namespace Registry

variable {ε : Type} [Engine ε]

/-- In every run that leaves the lock of the registry healthy, a guard on a handle that was issued
reclaims its session, whatever became of it before. A drop does so quietly. A close ends the same
way, and fails if it met the session active and its lock broken. -/
theorem guard_always_reclaims (config : Config) (deeds : List (Deed ε))
    (hl : (doAll deeds (empty config)).registry.lockPoisoned = false) (guard : Guard)
    (issued : guard.handle ∈ (doAll deeds (empty config)).issued) :
    Gone guard.handle (doAll deeds (empty config)).registry
        (guard.drop (doAll deeds (empty config)).registry).state ∧
      (guard.drop (doAll deeds (empty config)).registry).outcome = .ok () ∧
      (guard.close (doAll deeds (empty config)).registry).state =
        (guard.drop (doAll deeds (empty config)).registry).state ∧
      ((guard.close (doAll deeds (empty config)).registry).outcome = .ok () ∧
          ¬ Guard.Stuck (doAll deeds (empty config)).registry guard.handle ∨
        (guard.close (doAll deeds (empty config)).registry).outcome =
            .error (.lockPoisoned .session) ∧
          Guard.Stuck (doAll deeds (empty config)).registry guard.handle) ∧
      (guard.drop (doAll deeds (empty config)).registry).state.holding +
          (guard.drop (doAll deeds (empty config)).registry).state.released.length =
        deeds.countP Deed.brings := by
  obtain ⟨commands, hreached, hissued, hbrings⟩ := exists_commands_doAll deeds (empty config)
  rw [← hreached] at hl ⊢
  rw [← hissued] at issued
  rw [← hbrings]
  obtain ⟨tallied, hengines⟩ := tallied_performAll commands (tallied_empty config)
  have handed := (handedOut_performAll commands (tallied_empty config)).2 guard.handle issued
  generalize (performAll commands (empty config)).registry = registry at *
  obtain ⟨hok, hvacated⟩ := Guard.drop_vacates tallied hl handed
  have hchange : Change registry (guard.drop registry).state :=
    guard.moves_drop .refl .trans change_kill change_finalize registry
  have hcount := hchange.engineCount_eq
  have hnone : (empty config : Registry ε).engineCount = 0 := rfl
  rw [hengines, hnone, Nat.zero_add] at hcount
  refine ⟨hvacated ▸ gone_vacate tallied handed.known, hok, ?_, ?_, hcount⟩
  · by_cases stuck : Guard.Stuck registry guard.handle
    · rw [hvacated, (Guard.close_of_stuck tallied hl handed stuck).2]
    · rw [hvacated, (Guard.close_vacates tallied hl handed stuck).2]
  · by_cases stuck : Guard.Stuck registry guard.handle
    · exact .inr ⟨(Guard.close_of_stuck tallied hl handed stuck).1, stuck⟩
    · exact .inl ⟨(Guard.close_vacates tallied hl handed stuck).1, stuck⟩

/-- After a panic a close fails, and reclaims the session nevertheless. The session next to it
stays. -/
theorem panicked_guard_reclaims :
    (Guard.close ⟨⟨0, 1⟩⟩ (doAll (.ask (.add sampleEngine) :: panicked.map .ask)
        (empty {})).registry).outcome = .error (.lockPoisoned .session) ∧
      Gone ⟨0, 1⟩ (doAll (.ask (.add sampleEngine) :: panicked.map .ask) (empty {})).registry
        (Guard.close ⟨⟨0, 1⟩⟩ (doAll (.ask (.add sampleEngine) :: panicked.map .ask)
          (empty {})).registry).state ∧
      (Guard.close ⟨⟨0, 1⟩⟩ (doAll (.ask (.add sampleEngine) :: panicked.map .ask)
        (empty {})).registry).state.live = 1 := by
  obtain ⟨hgone, -, hsame, hclose, -⟩ := guard_always_reclaims {}
    (.ask (.add sampleEngine) :: panicked.map .ask) (by decide +kernel) ⟨⟨0, 1⟩⟩
    (by decide +kernel)
  refine ⟨?_, by rw [hsame]; exact hgone, by decide +kernel⟩
  decide +kernel

end Registry

end Switchboard
