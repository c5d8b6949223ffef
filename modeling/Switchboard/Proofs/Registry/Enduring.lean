import Switchboard.Proofs.Registry.Capacity
/-!
# Whatever panics

What holds of every run, whichever engine or operation panics in it. A handle that was issued was
unknown before, and from then on shows a session that is more than created, or one that is gone
(`handedOut_performAll`); so no handle is issued twice (`nodup_issued`). A broken lock of the
registry stays broken, and as long as it is healthy every slot is in use, free or retired
(`stocked_performAll`).
-/

namespace Switchboard

namespace Registry

variable {ε : Type}

/-! ## Issued handles -/

/-- The handle shows a session that was more than created, or is gone. -/
def HandedOut (registry : Registry ε) (handle : Handle) : Prop :=
  ∃ state, registry.state? handle = some state ∧ state ≠ .created

theorem HandedOut.known {registry : Registry ε} {handle : Handle}
    (handed : registry.HandedOut handle) : registry.state? handle ≠ none := by
  obtain ⟨state, hs, -⟩ := handed
  rw [hs]
  exact Option.some_ne_none state

/-- Whoever lives under the handle was more than created. -/
theorem HandedOut.ne_created {registry : Registry ε} {handle : Handle} {occupant : Occupant ε}
    (handed : registry.HandedOut handle) (ho : registry.occupant? handle = some occupant) :
    occupant.state ≠ .created := by
  obtain ⟨state, hs, hn⟩ := handed
  rw [state?_of_occupant ho] at hs
  rwa [Option.some.inj hs]

theorem HandedOut.replace {registry : Registry ε} {handle other : Handle}
    {occupant next : Occupant ε} (handed : registry.HandedOut other)
    (ho : registry.occupant? handle = some occupant) (hn : next.state ≠ .created) :
    (registry.setOccupant handle next).HandedOut other := by
  obtain ⟨slot, hs, hg, -⟩ := occupant?_eq_some.mp ho
  rw [HandedOut, state?_setOccupant hs hg]
  split
  · exact ⟨next.state, rfl, hn⟩
  · exact handed

theorem HandedOut.vacate {registry : Registry ε} {handle other : Handle} {occupant : Occupant ε}
    (handed : registry.HandedOut other) (sound : registry.Sound)
    (ho : registry.occupant? handle = some occupant) :
    (registry.vacate handle).HandedOut other := by
  obtain ⟨slot, hs, -, -⟩ := occupant?_eq_some.mp ho
  rw [HandedOut, state?_vacate ho hs (sound.slot hs)]
  split
  · exact ⟨.finalized, rfl, by decide⟩
  · exact handed

theorem Change.handedOut {first second : Registry ε} (change : Change first second)
    (sound : first.Sound) {handle : Handle} (handed : first.HandedOut handle) :
    second.HandedOut handle := by
  induction change with
  | refl => exact handed
  | used ho ha _ => exact handed.replace ho (by simp [ha])
  | @killed registry other occupant ho _ _ =>
    let next : Occupant ε := ⟨.killed, { occupant.session with engine := none, transfers := none }⟩
    have hreplaced : (registry.setOccupant other next).HandedOut handle :=
      handed.replace ho fun h => nomatch h
    exact hreplaced
  | kept ho _ _ => exact handed.replace ho fun h => nomatch h
  | vacated ho _ => exact handed.vacate sound ho
  | trans h₁ _ ih₁ ih₂ => exact ih₂ (h₁.upkeep.sound sound) (ih₁ sound handed)

/-- A session that moves in leaves the other handles as they are. -/
theorem HandedOut.admitted {registry ready : Registry ε} {handle other : Handle}
    (handed : registry.HandedOut other) (sound : registry.Sound)
    (claimed : Claimed registry handle ready) (occupant : Occupant ε) (live : Nat) :
    (ready.admitted handle occupant live).HandedOut other := by
  have hne : other ≠ handle := by
    rintro rfl
    exact handed.known (claimed.unknown sound)
  rw [HandedOut, state?_admitted claimed sound, if_neg hne]
  split
  · exact ⟨.finalized, rfl, by decide⟩
  · exact handed

section Step

variable [Engine ε]

theorem Added.handedOut {engine : ε} {registry next : Registry ε}
    {outcome : Outcome BridgeError Handle} (added : Added engine registry outcome next)
    (sound : registry.Sound) {handle : Handle} (handed : registry.HandedOut handle) :
    next.HandedOut handle := by
  cases added with
  | refused => exact handed
  | @unanswered _ ready _ claimed =>
    have hready : ready.HandedOut handle := by
      rw [HandedOut, claimed.state? sound]
      split
      · exact ⟨.finalized, rfl, by decide⟩
      · exact handed
    exact hready
  | unsubscribed _ claimed => exact handed.admitted sound claimed _ _
  | active _ claimed => exact handed.admitted sound claimed _ _

theorem handedOut_perform (command : Command ε) {registry : Registry ε} (sound : registry.Sound)
    {handle : Handle} (handed : registry.HandedOut handle) :
    (command.perform registry).state.HandedOut handle := by
  by_cases hadd : ∃ engine, command = .add engine
  · obtain ⟨engine, rfl⟩ := hadd
    rw [state_perform_add]
    exact (added_add engine registry).handedOut sound handed
  · have hchange := (change_perform (fun engine e => hadd ⟨engine, e⟩) registry).1
    exact hchange.handedOut sound handed

/-- The handle a command issues was unknown before, and its session is active. -/
theorem state?_of_issued {command : Command ε} {registry : Registry ε} (sound : registry.Sound)
    {handle : Handle} (hi : issued? (command.perform registry).outcome = some handle) :
    registry.state? handle = none ∧
      (command.perform registry).state.state? handle = some .active := by
  by_cases hadd : ∃ engine, command = .add engine
  · obtain ⟨engine, rfl⟩ := hadd
    have hadded := added_add engine registry
    rw [state_perform_add]
    simp only [Command.perform, Run.mapError, Run.bind_apply, Run.andThen] at hi
    generalize (Registry.add engine registry).outcome = outcome,
      (Registry.add engine registry).state = next at hadded hi ⊢
    cases hadded with
    | refused => cases hi
    | unanswered => cases hi
    | unsubscribed => cases hi
    | active _ claimed =>
      cases hi
      exact ⟨claimed.unknown sound, by rw [state?_admitted claimed sound, if_pos rfl]⟩
  · rw [(change_perform (fun engine e => hadd ⟨engine, e⟩) registry).2] at hi
    cases hi

private theorem mem_issued_cons {command : Command ε} {rest : List (Command ε)}
    {registry : Registry ε} {handle : Handle} :
    handle ∈ (performAll (command :: rest) registry).issued ↔
      issued? (command.perform registry).outcome = some handle ∨
        handle ∈ (performAll rest (command.perform registry).state).issued := by
  simp only [History.issued, performAll, List.filterMap_cons]
  cases issued? (command.perform registry).outcome with
  | none => simp
  | some other => simp [eq_comm]

/-- What was handed out stays so, and what a run issues is handed out after it. -/
theorem handedOut_performAll (commands : List (Command ε)) {registry : Registry ε}
    (tallied : registry.Tallied) :
    (∀ handle, registry.HandedOut handle →
        (performAll commands registry).registry.HandedOut handle) ∧
      ∀ handle ∈ (performAll commands registry).issued,
        (performAll commands registry).registry.HandedOut handle := by
  induction commands generalizing registry with
  | nil => exact ⟨fun _ handed => handed, fun _ hm => nomatch hm⟩
  | cons command rest ih =>
    obtain ⟨hkept, hissued⟩ := ih (tallied_perform command tallied).1
    refine ⟨fun handle handed => hkept handle (handedOut_perform command tallied.sound handed), ?_⟩
    intro handle hm
    rcases mem_issued_cons.mp hm with hnow | hlater
    · exact hkept handle ⟨.active, (state?_of_issued tallied.sound hnow).2, by decide⟩
    · exact hissued handle hlater

/-- A handle that was handed out is not issued again. -/
theorem issued_not_handedOut (commands : List (Command ε)) {registry : Registry ε}
    (tallied : registry.Tallied) {handle : Handle} (handed : registry.HandedOut handle) :
    handle ∉ (performAll commands registry).issued := by
  induction commands generalizing registry with
  | nil => exact fun hm => nomatch hm
  | cons command rest ih =>
    intro hm
    rcases mem_issued_cons.mp hm with hnow | hlater
    · exact handed.known (state?_of_issued tallied.sound hnow).1
    · exact ih (tallied_perform command tallied).1
        (handedOut_perform command tallied.sound handed) hlater

/-- No handle is issued twice. -/
theorem nodup_issued (commands : List (Command ε)) {registry : Registry ε}
    (tallied : registry.Tallied) : (performAll commands registry).issued.Nodup := by
  induction commands generalizing registry with
  | nil => exact List.nodup_nil
  | cons command rest ih =>
    have htallied := (tallied_perform command tallied).1
    have hrest := ih htallied
    simp only [History.issued, performAll, List.filterMap_cons]
    cases hi : issued? (command.perform registry).outcome with
    | none => exact hrest
    | some handle =>
      have handed : (command.perform registry).state.HandedOut handle :=
        ⟨.active, (state?_of_issued tallied.sound hi).2, by decide⟩
      exact List.nodup_cons.mpr ⟨issued_not_handedOut rest htallied handed, hrest⟩

end Step

/-! ## The lock -/

section Lock

variable [Engine ε]

theorem Added.healthy {engine : ε} {registry next : Registry ε}
    {outcome : Outcome BridgeError Handle} (added : Added engine registry outcome next)
    (healthy : next.lockPoisoned = false) : registry.lockPoisoned = false := by
  cases added with
  | refused => exact healthy
  | unanswered => cases healthy
  | unsubscribed hl => exact hl
  | active hl => exact hl

/-- No command mends the lock. -/
theorem healthy_perform (command : Command ε) {registry : Registry ε}
    (healthy : (command.perform registry).state.lockPoisoned = false) :
    registry.lockPoisoned = false := by
  by_cases hadd : ∃ engine, command = .add engine
  · obtain ⟨engine, rfl⟩ := hadd
    rw [state_perform_add] at healthy
    exact (added_add engine registry).healthy healthy
  · have hchange := (change_perform (fun engine e => hadd ⟨engine, e⟩) registry).1
    exact hchange.upkeep.lockPoisoned_eq.symm.trans healthy

theorem healthy_performAll (commands : List (Command ε)) {registry : Registry ε}
    (healthy : (performAll commands registry).registry.lockPoisoned = false) :
    registry.lockPoisoned = false := by
  induction commands generalizing registry with
  | nil => exact healthy
  | cons command rest ih => exact healthy_perform command (ih healthy)

/-- As long as the lock is healthy, every slot is in use, free or retired. -/
theorem stocked_performAll (commands : List (Command ε)) {registry : Registry ε}
    (tallied : registry.Tallied)
    (healthy : (performAll commands registry).registry.lockPoisoned = false)
    (stocked : registry.Stocked) : (performAll commands registry).registry.Stocked := by
  induction commands generalizing registry with
  | nil => exact stocked
  | cons command rest ih =>
    exact ih (tallied_perform command tallied).1 healthy
      (stocked_perform tallied stocked (.inr (healthy_performAll rest healthy)))

end Lock

end Registry

end Switchboard
