import Switchboard.Proofs.Registry.Handles
import Switchboard.Proofs.Registry.Tally
/-!
# Removal over whole runs

What killing and finalizing achieve in every run. A finalize does all it is there for
(`Reclaims`) unless the session was not killed before and its lock is broken: then it stops after
the session counts as killed, with the engine still in its slot (`Stops`), and the next finalize
does the rest. So a killed session is without its engine exactly if its lock is healthy.
-/

namespace Switchboard

namespace Registry

variable {ε : Type}

/-! ## Finalizing -/

/-- A finalize that did all of it: nobody lives under the handle any more, the engine is gone, and
the next session moves into the slot, unless its generations are used up. -/
structure Reclaims (handle : Handle) (occupant : Occupant ε) (registry : Registry ε)
    (ran : Ran (Registry ε) BridgeError Unit) : Prop where
  outcome : ran.outcome = .ok ()
  state : ran.state.state? handle = some .finalized
  released : ran.state.released = registry.released ++ occupant.session.engine.toList
  live : ran.state.live + 1 = registry.live
  reusable : handle.generation ≠ lastGeneration →
    ran.state.claim?.map Prod.fst = some ⟨handle.slot, handle.generation + 1⟩
  retired : handle.generation = lastGeneration →
    ran.state.free = registry.free ∧ ∃ slot, ran.state.slot? handle = some slot ∧ slot.retired

/-- A finalize that got stuck at the broken lock of the session: the session counts as killed, its
engine stays, and only another finalize reclaims the slot. -/
structure Stops (handle : Handle) (occupant : Occupant ε) (registry : Registry ε)
    (ran : Ran (Registry ε) BridgeError Unit) : Prop where
  outcome : ran.outcome = .error (.lockPoisoned .session)
  state : ran.state.state? handle = some .killed
  released : ran.state.released = registry.released
  live : ran.state.live = registry.live
  again : Reclaims handle occupant ran.state (finalize handle ran.state)

section Finalize

variable {registry : Registry ε} {handle : Handle} {occupant : Occupant ε}

private theorem Tallied.live_pos (tallied : registry.Tallied)
    (ho : registry.occupant? handle = some occupant) : 0 < registry.live := by
  have hcount := occupied_vacate ho
  rw [tallied.live_eq]
  omega

/-- Vacating a slot does all that finalizing is there for. -/
theorem reclaims_of_vacate (tallied : registry.Tallied)
    (ho : registry.occupant? handle = some occupant)
    {ran : Ran (Registry ε) BridgeError Unit}
    (h : ran.outcome = .ok () ∧ ran.state = registry.vacate handle) :
    Reclaims handle occupant registry ran := by
  obtain ⟨hok, hran⟩ := h
  obtain ⟨slot, hs, hg, -⟩ := occupant?_eq_some.mp ho
  have hlt := (List.getElem?_eq_some_iff.mp hs).1
  have hvacate : registry.vacate handle =
      { registry with
        slots := registry.slots.set handle.slot.toNat slot.vacated
        free := if slot.generation = lastGeneration then registry.free
          else handle.slot :: registry.free
        live := registry.live - 1
        released := registry.released ++ occupant.session.engine.toList } := by
    simp only [vacate, hs, ho]
  constructor
  · exact hok
  · rw [hran, state?_vacate ho hs (tallied.sound.slot hs), if_pos rfl]
  · rw [hran, hvacate]
  · have hpos := tallied.live_pos ho
    rw [hran, hvacate]
    exact Nat.sub_add_cancel hpos
  · intro hl
    rw [hran, hvacate]
    simp [claim?, hg, hl, hlt, Slot.vacated]
  · intro hl
    refine ⟨by simp [hran, hvacate, hg, hl], slot.vacated, ?_, by simp [Slot.vacated, hg, hl]⟩
    rw [hran, slot?_vacate ho, if_pos rfl, hs]
    rfl

theorem finalize_reclaims (tallied : registry.Tallied) (hl : registry.lockPoisoned = false)
    (ho : registry.occupant? handle = some occupant)
    (h : occupant.state = .killed ∨ occupant.session.lockPoisoned = false) :
    Reclaims handle occupant registry (finalize handle registry) := by
  by_cases hk : occupant.state = .killed
  · exact reclaims_of_vacate tallied ho (finalize_of_killed hl ho hk)
  · have hp : occupant.session.lockPoisoned = false := h.resolve_left hk
    have hs := tallied.sound.live_of_not_killed ho hk
    obtain ⟨hok, hkilled⟩ := kill_of_live hl ho hs hp
    obtain ⟨slot, hslot, hg, -⟩ := occupant?_eq_some.mp ho
    have hstep : Change registry (kill handle registry).state := change_kill handle registry
    have hfound : (kill handle registry).state.occupant? handle =
        some ⟨.killed, { occupant.session with engine := none, transfers := none }⟩ := by
      rw [hkilled]
      exact occupant?_setOccupant hslot hg _
    have hfinal := finalize_of_not_killed hl ho hk
    rw [hok] at hfinal
    have hrest := reclaims_of_vacate (hstep.tallied tallied) hfound hfinal
    have hlive : (kill handle registry).state.live = registry.live := by
      rw [hkilled]
      exact setOccupant_live_eq _ _ _
    have hfree : (kill handle registry).state.free = registry.free := by
      rw [hkilled]
      exact setOccupant_free _ _ _
    refine ⟨hrest.outcome, hrest.state, ?_, hlive ▸ hrest.live, hrest.reusable,
      hfree ▸ hrest.retired⟩
    rw [hrest.released, hkilled]
    exact List.append_nil _

theorem finalize_stops (tallied : registry.Tallied) (hl : registry.lockPoisoned = false)
    (ho : registry.occupant? handle = some occupant) (hk : occupant.state ≠ .killed)
    (hp : occupant.session.lockPoisoned = true) :
    Stops handle occupant registry (finalize handle registry) := by
  have hs := tallied.sound.live_of_not_killed ho hk
  obtain ⟨slot, hslot, hg, -⟩ := occupant?_eq_some.mp ho
  obtain ⟨herror, hkilled⟩ := kill_of_live_broken hl ho hs hp
  obtain ⟨hout, hstate⟩ := finalize_of_not_killed hl ho hk
  rw [herror] at hout hstate
  have hnext : (finalize handle registry).state =
      registry.setOccupant handle { occupant with state := .killed } := hstate.trans hkilled
  have htallied : (finalize handle registry).state.Tallied :=
    (change_finalize handle registry).tallied tallied
  have hfound : (finalize handle registry).state.occupant? handle =
      some { occupant with state := .killed } := by
    rw [hnext]
    exact occupant?_setOccupant hslot hg _
  have hhealthy : (finalize handle registry).state.lockPoisoned = false := by
    rw [hnext, setOccupant_lockPoisoned, hl]
  have hagain := finalize_reclaims htallied hhealthy hfound (.inl rfl)
  exact
    { outcome := hout
      state := state?_of_occupant hfound
      released := by rw [hnext, setOccupant_released]
      live := by rw [hnext, setOccupant_live_eq]
      again := ⟨hagain.outcome, hagain.state, hagain.released, hagain.live, hagain.reusable,
        hagain.retired⟩ }

end Finalize

/-- In every run, as long as the lock of the registry is healthy, one finalize reclaims the slot of
a session that was killed or whose lock is healthy; for any other session it takes two. -/
theorem finalize_reclaims_unless_broken [Engine ε] (config : Config) (commands : List (Command ε))
    {handle : Handle} {occupant : Occupant ε}
    (hl : (performAll commands (empty config)).registry.lockPoisoned = false)
    (ho : (performAll commands (empty config)).registry.occupant? handle = some occupant) :
    (occupant.state = .killed ∨ occupant.session.lockPoisoned = false →
        Reclaims handle occupant (performAll commands (empty config)).registry
          (finalize handle (performAll commands (empty config)).registry)) ∧
      (occupant.state ≠ .killed → occupant.session.lockPoisoned = true →
        Stops handle occupant (performAll commands (empty config)).registry
          (finalize handle (performAll commands (empty config)).registry)) := by
  have tallied := (tallied_performAll commands (tallied_empty config)).1
  exact ⟨finalize_reclaims tallied hl ho, finalize_stops tallied hl ho⟩

/-! ### A session whose lock is broken -/

/-- A session whose first pass panics in the middle. -/
def panicked : List (Command SimulatedEngine) :=
  [.add sampleEngine, .use ⟨0, 1⟩ (Request.perform .epoch (.invoke ⟨[], true⟩))]

/-- The first finalize stops, though it was asked for by the only handle there is. -/
theorem finalize_stops_after_panic :
    ∃ occupant, (performAll panicked (empty {})).registry.occupant? ⟨0, 1⟩ = some occupant ∧
      Stops ⟨0, 1⟩ occupant (performAll panicked (empty {})).registry
        (finalize ⟨0, 1⟩ (performAll panicked (empty {})).registry) := by
  have hfound : ((performAll panicked (empty {})).registry.occupant? ⟨0, 1⟩).any (fun occupant =>
      occupant.state = .active ∧ occupant.session.lockPoisoned = true) = true := by
    decide +kernel
  cases ho : (performAll panicked (empty {})).registry.occupant? ⟨0, 1⟩ with
  | none =>
    rw [ho] at hfound
    cases hfound
  | some occupant =>
    rw [ho, Option.any_some] at hfound
    obtain ⟨hk, hp⟩ := of_decide_eq_true hfound
    refine ⟨occupant, rfl, ?_⟩
    refine (finalize_reclaims_unless_broken {} panicked (by decide +kernel) ho).2 ?_ hp
    rw [hk]
    decide

/-- So not every finalize succeeds. -/
theorem not_finalize_always_reclaims :
    (performAll panicked (empty {})).registry.lockPoisoned = false ∧
      (performAll panicked (empty {})).registry.state? ⟨0, 1⟩ = some .active ∧
      (finalize ⟨0, 1⟩ (performAll panicked (empty {})).registry).outcome =
        .error (.lockPoisoned .session) ∧
      (finalize ⟨0, 1⟩ (performAll panicked (empty {})).registry).state.state? ⟨0, 1⟩ =
        some .killed ∧
      (finalize ⟨0, 1⟩ (performAll panicked (empty {})).registry).state.live = 1 := by
  decide +kernel

/-! ## Killed sessions -/

/-- In every run a killed session is without its engine exactly if its lock is healthy. No engine
gets lost on the way: each is held by a session or was released. -/
theorem killed_released_iff [Engine ε] (config : Config) (commands : List (Command ε))
    {handle : Handle}
    (hs : (performAll commands (empty config)).registry.state? handle = some .killed) :
    (∃ occupant, (performAll commands (empty config)).registry.occupant? handle = some occupant ∧
        (occupant.session.engine = none ↔ occupant.session.lockPoisoned = false)) ∧
      (performAll commands (empty config)).registry.holding +
          (performAll commands (empty config)).registry.released.length =
        commands.countP Command.brings := by
  obtain ⟨tallied, hcount⟩ := tallied_performAll commands (tallied_empty config)
  have hnone : (empty config : Registry ε).engineCount = 0 := rfl
  rw [hnone, Nat.zero_add] at hcount
  refine ⟨?_, hcount⟩
  cases ho : (performAll commands (empty config)).registry.occupant? handle with
  | none =>
    simp only [state?, ho] at hs
    split at hs <;> cases hs
  | some occupant =>
    rw [state?_of_occupant ho] at hs
    have hkilled : occupant.state = .killed := Option.some.inj hs
    have hengine := tallied.engine_eq_none_iff ho
    rw [hkilled] at hengine
    exact ⟨occupant, rfl, hengine.trans (and_iff_right rfl)⟩

/-- A healthy session that is killed lets its engine go, and there it is among the released. -/
theorem killed_released_after_kill :
    (∃ occupant,
        (performAll [.add sampleEngine, .kill ⟨0, 1⟩] (empty {})).registry.occupant? ⟨0, 1⟩ =
          some occupant ∧ occupant.session.engine = none) ∧
      (performAll [.add sampleEngine, .kill ⟨0, 1⟩] (empty {})).registry.released.length = 1 := by
  refine ⟨?_, by decide +kernel⟩
  have hkilled : (performAll [.add sampleEngine, .kill ⟨0, 1⟩] (empty {})).registry.state?
      ⟨0, 1⟩ = some .killed := by decide +kernel
  have hhealthy : ((performAll [.add sampleEngine, .kill ⟨0, 1⟩] (empty {})).registry.occupant?
      ⟨0, 1⟩).all (·.session.lockPoisoned = false) = true := by decide +kernel
  obtain ⟨⟨occupant, ho, hiff⟩, -⟩ := killed_released_iff {} _ hkilled
  rw [ho, Option.all_some, decide_eq_true_eq] at hhealthy
  exact ⟨occupant, ho, hiff.mpr hhealthy⟩

/-- After a panic a killed session keeps its engine. -/
theorem not_killed_always_released :
    (performAll (panicked ++ [.kill ⟨0, 1⟩]) (empty {})).registry.state? ⟨0, 1⟩ = some .killed ∧
      ((performAll (panicked ++ [.kill ⟨0, 1⟩]) (empty {})).registry.occupant? ⟨0, 1⟩).any
        (·.session.engine.isSome) = true ∧
      (performAll (panicked ++ [.kill ⟨0, 1⟩]) (empty {})).registry.released = [] := by
  decide +kernel

end Registry

end Switchboard
