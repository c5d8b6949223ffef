import Switchboard.Proofs.Registry.Command
/-!
# Tallies

What the counter of a registry and its list of released engines are worth in every run, panics
included: the counter is the number of occupied slots, a session is without its engine exactly if it
was killed with a healthy lock, and every engine that was added is held by a session or released
(`tallied_performAll`).
-/

namespace Switchboard

namespace Registry

variable {ε : Type}

/-- How many slots somebody lives in. -/
def occupied (registry : Registry ε) : Nat := registry.slots.countP (·.occupant.isSome)

def Slot.hasEngine (slot : Slot ε) : Bool := slot.occupant.any (·.session.engine.isSome)

/-- How many engines the sessions hold. -/
def holding (registry : Registry ε) : Nat := registry.slots.countP Slot.hasEngine

/-! ## Counting slots -/

section Count

variable {registry ready : Registry ε} {handle : Handle} {slot : Slot ε} {occupant : Occupant ε}

theorem countP_set_slot (hs : registry.slot? handle = some slot) (next : Slot ε)
    (p : Slot ε → Bool) :
    (registry.slots.set handle.slot.toNat next).countP p + (p slot).toNat =
      registry.slots.countP p + (p next).toNat := by
  obtain ⟨hlt, hget⟩ := List.getElem?_eq_some_iff.mp hs
  have hone : ∀ answer : Bool, (if answer = true then 1 else 0) = answer.toNat := by decide
  have hle : (p slot).toNat ≤ registry.slots.countP p := by
    cases hp : p slot with
    | false => exact Nat.zero_le _
    | true => exact List.countP_pos_iff.mpr ⟨slot, hget ▸ List.getElem_mem hlt, hp⟩
  rw [List.countP_set hlt, hget, hone, hone]
  omega

theorem slots_setOccupant (hs : registry.slot? handle = some slot) (next : Occupant ε) :
    (registry.setOccupant handle next).slots =
      registry.slots.set handle.slot.toNat { slot with occupant := some next } := by
  simp only [setOccupant, hs]

theorem slots_vacate (ho : registry.occupant? handle = some occupant)
    (hs : registry.slot? handle = some slot) :
    (registry.vacate handle).slots = registry.slots.set handle.slot.toNat slot.vacated := by
  simp only [vacate, hs, ho]

private theorem Slot.occupant_vacated (slot : Slot ε) : slot.vacated.occupant = none := by
  unfold vacated
  split <;> rfl

/-- A new occupant in the place of another. -/
theorem occupied_replace (ho : registry.occupant? handle = some occupant) (next : Occupant ε) :
    (registry.setOccupant handle next).occupied = registry.occupied := by
  obtain ⟨slot, hs, -, hin⟩ := occupant?_eq_some.mp ho
  have hcount := countP_set_slot hs { slot with occupant := some next } (·.occupant.isSome)
  simp only [hin, Option.isSome_some] at hcount
  rw [occupied, slots_setOccupant hs]
  exact Nat.add_right_cancel hcount

private theorem holding_replace (ho : registry.occupant? handle = some occupant)
    (next : Occupant ε) :
    (registry.setOccupant handle next).holding + occupant.session.engine.isSome.toNat =
      registry.holding + next.session.engine.isSome.toNat := by
  obtain ⟨slot, hs, -, hin⟩ := occupant?_eq_some.mp ho
  have hcount := countP_set_slot hs { slot with occupant := some next } Slot.hasEngine
  simp only [Slot.hasEngine, hin, Option.any_some] at hcount
  rw [holding, slots_setOccupant hs]
  exact hcount

theorem occupied_vacate (ho : registry.occupant? handle = some occupant) :
    (registry.vacate handle).occupied + 1 = registry.occupied := by
  obtain ⟨slot, hs, -, hin⟩ := occupant?_eq_some.mp ho
  have hcount := countP_set_slot hs slot.vacated (·.occupant.isSome)
  simp only [hin, slot.occupant_vacated, Option.isSome_some, Option.isSome_none] at hcount
  rw [occupied, slots_vacate ho hs]
  exact hcount

private theorem holding_vacate (ho : registry.occupant? handle = some occupant) :
    (registry.vacate handle).holding + occupant.session.engine.isSome.toNat =
      registry.holding := by
  obtain ⟨slot, hs, -, hin⟩ := occupant?_eq_some.mp ho
  have hcount := countP_set_slot hs slot.vacated Slot.hasEngine
  simp only [Slot.hasEngine, hin, slot.occupant_vacated, Option.any_some, Option.any_none] at hcount
  rw [holding, slots_vacate ho hs]
  exact hcount

/-- Whatever does not hold of a fresh slot is counted alike while a slot is claimed. -/
theorem Claimed.countP_eq (claimed : Claimed registry handle ready) {p : Slot ε → Bool}
    (hp : p Slot.fresh = false) : ready.slots.countP p = registry.slots.countP p := by
  cases claimed with
  | freed => rfl
  | fresh => simp [List.countP_append, hp]

private theorem countP_admitted (claimed : Claimed registry handle ready) (sound : registry.Sound)
    {p : Slot ε → Bool} (hp : ∀ slot : Slot ε, slot.occupant = none → p slot = false)
    (occupant : Occupant ε) (live : Nat) :
    ∃ slot : Slot ε, slot.occupant = some occupant ∧
      (ready.admitted handle occupant live).slots.countP p =
        registry.slots.countP p + (p slot).toNat := by
  obtain ⟨slot, hs, -⟩ := claimed.slot?
  have hcount := countP_set_slot hs { slot with occupant := some occupant } p
  rw [hp slot (claimed.vacant sound hs).empty, claimed.countP_eq (hp _ rfl)] at hcount
  refine ⟨{ slot with occupant := some occupant }, rfl, ?_⟩
  rw [admitted]
  dsimp only
  rw [slots_setOccupant hs]
  exact hcount

end Count

private theorem length_toList (engine : Option ε) : engine.toList.length = engine.isSome.toNat := by
  cases engine <;> rfl

/-! ## What holds in every run -/

structure Tallied (registry : Registry ε) : Prop where
  sound : registry.Sound
  live_eq : registry.live = registry.occupied
  /-- Only a kill takes the engine of a session, and not if the session's lock is broken. -/
  engine_eq_none_iff : ∀ {handle occupant}, registry.occupant? handle = some occupant →
    (occupant.session.engine = none ↔
      occupant.state = .killed ∧ occupant.session.lockPoisoned = false)

/-- The engines that are held or gone. -/
def engineCount (registry : Registry ε) : Nat := registry.holding + registry.released.length

theorem tallied_empty (config : Config) : (empty config : Registry ε).Tallied where
  sound := sound_empty config
  live_eq := rfl
  engine_eq_none_iff := fun h => nomatch h

/-- Another occupant as far as the tallies go. -/
theorem Tallied.replace {registry : Registry ε} {handle : Handle} {occupant next : Occupant ε}
    (tallied : registry.Tallied) (ho : registry.occupant? handle = some occupant)
    (hn : next.state ≠ .finalized)
    (hengine : next.session.engine = none ↔
      next.state = .killed ∧ next.session.lockPoisoned = false) :
    (registry.setOccupant handle next).Tallied where
  sound := sound_setOccupant tallied.sound ho hn
  live_eq := by
    rw [setOccupant_live_eq, occupied_replace ho, tallied.live_eq]
  engine_eq_none_iff := by
    intro other found hf
    obtain ⟨slot, hs, hg, -⟩ := occupant?_eq_some.mp ho
    rw [occupant?_setOccupant_eq hs hg] at hf
    split at hf
    · cases hf
      exact hengine
    · exact tallied.engine_eq_none_iff hf

theorem Tallied.vacate {registry : Registry ε} {handle : Handle} {occupant : Occupant ε}
    (tallied : registry.Tallied) (ho : registry.occupant? handle = some occupant) :
    (registry.vacate handle).Tallied where
  sound := sound_vacate tallied.sound ho
  live_eq := by
    obtain ⟨slot, hs, -, -⟩ := occupant?_eq_some.mp ho
    have hlive : (registry.vacate handle).live = registry.live - 1 := by
      simp only [Registry.vacate, hs, ho]
    have hcount := occupied_vacate ho
    have := tallied.live_eq
    omega
  engine_eq_none_iff := by
    intro other found hf
    rw [occupant?_vacate ho] at hf
    split at hf
    · cases hf
    · exact tallied.engine_eq_none_iff hf

theorem Change.tallied {first second : Registry ε} (h : Change first second)
    (tallied : first.Tallied) : second.Tallied := by
  induction h with
  | refl => exact tallied
  | used ho hs used =>
    have hactive := tallied.engine_eq_none_iff ho
    refine tallied.replace ho (by simp [hs]) ?_
    rw [← Option.not_isSome_iff_eq_none, used.engine_isSome, Option.not_isSome_iff_eq_none, hactive]
    simp [hs]
  | killed ho hs hp =>
    rename_i registry handle occupant
    let next : Occupant ε := ⟨.killed, { occupant.session with engine := none, transfers := none }⟩
    have hreplaced := tallied.replace ho (fun h => nomatch h : next.state ≠ .finalized)
      ⟨fun _ => ⟨rfl, hp⟩, fun _ => rfl⟩
    exact ⟨⟨hreplaced.sound.slot, hreplaced.sound.free_nodup, hreplaced.sound.free_vacant⟩,
      hreplaced.live_eq, hreplaced.engine_eq_none_iff⟩
  | kept ho hs hp =>
    have hlive := tallied.engine_eq_none_iff ho
    refine tallied.replace ho (by simp) ?_
    simpa [hp] using hlive
  | vacated ho _ => exact tallied.vacate ho
  | trans _ _ ih₁ ih₂ => exact ih₂ (ih₁ tallied)

/-- No engine is lost, and none comes out of nowhere. -/
theorem Change.engineCount_eq {first second : Registry ε} (h : Change first second) :
    second.engineCount = first.engineCount := by
  induction h with
  | refl => rfl
  | @used registry handle occupant next ho _ used =>
    have hcount := holding_replace ho { occupant with session := next }
    rw [used.engine_isSome] at hcount
    rw [engineCount, engineCount, setOccupant_released, Nat.add_right_cancel hcount]
  | @killed registry handle occupant ho =>
    have hcount := holding_replace ho
      ⟨.killed, { occupant.session with engine := none, transfers := none }⟩
    have hgone := length_toList occupant.session.engine
    simp only [Option.isSome_none, Bool.toNat_false] at hcount
    have hheld : ({ registry.setOccupant handle
        ⟨.killed, { occupant.session with engine := none, transfers := none }⟩ with
        released := registry.released ++ occupant.session.engine.toList } : Registry ε).holding =
      (registry.setOccupant handle
        ⟨.killed, { occupant.session with engine := none, transfers := none }⟩).holding := rfl
    simp only [engineCount, hheld, List.length_append]
    omega
  | @kept registry handle occupant ho =>
    have hcount := holding_replace ho { occupant with state := .killed }
    rw [engineCount, engineCount, setOccupant_released, Nat.add_right_cancel hcount]
  | @vacated registry handle occupant ho =>
    have hcount := holding_vacate ho
    have hgone := length_toList occupant.session.engine
    simp only [engineCount, released_vacate ho, List.length_append]
    omega
  | trans _ _ ih₁ ih₂ => exact ih₂.trans ih₁

/-! ## Adding -/

section Adding

variable {registry ready : Registry ε} {handle : Handle}

/-- A slot may be claimed without anybody moving in. -/
theorem Tallied.claimed (tallied : registry.Tallied) (claimed : Claimed registry handle ready) :
    ready.Tallied where
  sound := by
    obtain ⟨hnodup, hfree⟩ := claimed.free tallied.sound
    exact ⟨claimed.sound_slot tallied.sound, hnodup, fun index hi => (hfree index hi).2⟩
  live_eq := by
    rw [claimed.live_eq, tallied.live_eq]
    exact (claimed.countP_eq rfl).symm
  engine_eq_none_iff := by
    intro other occupant ho
    rw [claimed.occupant?] at ho
    exact tallied.engine_eq_none_iff ho

/-- A new session has its engine, and is not killed. -/
theorem Tallied.admitted (tallied : registry.Tallied) (claimed : Claimed registry handle ready)
    {occupant : Occupant ε} (hs : occupant.state = .created ∨ occupant.state = .active)
    (he : occupant.session.engine.isSome = true) :
    (ready.admitted handle occupant (registry.live + 1)).Tallied where
  sound := by
    refine sound_admitted claimed tallied.sound (fun h => ?_) _
    rcases hs with hs | hs <;> rw [h] at hs <;> cases hs
  live_eq := by
    obtain ⟨slot, hin, hcount⟩ := countP_admitted claimed tallied.sound
      (p := (·.occupant.isSome)) (fun slot h => by rw [h]; rfl) occupant (registry.live + 1)
    rw [hin] at hcount
    rw [occupied, hcount, ← occupied, ← tallied.live_eq]
    rfl
  engine_eq_none_iff := by
    intro other found hf
    rw [occupant?_admitted_eq claimed] at hf
    split at hf
    · cases hf
      rw [← Option.not_isSome_iff_eq_none, he]
      rcases hs with hs | hs <;> simp [hs]
    · exact tallied.engine_eq_none_iff hf

private theorem engineCount_admitted (sound : registry.Sound)
    (claimed : Claimed registry handle ready) {occupant : Occupant ε}
    (he : occupant.session.engine.isSome = true) (live : Nat) :
    (ready.admitted handle occupant live).engineCount = registry.engineCount + 1 := by
  obtain ⟨slot, hin, hcount⟩ := countP_admitted claimed sound (p := Slot.hasEngine)
    (fun slot h => by rw [Slot.hasEngine, h]; rfl) occupant live
  have hhas : slot.hasEngine = true := by rw [Slot.hasEngine, hin, Option.any_some, he]
  have hreleased : (ready.admitted handle occupant live).released = registry.released := by
    cases claimed <;> exact setOccupant_released _ _ _
  rw [hhas] at hcount
  rw [engineCount, engineCount, holding, hcount, hreleased, ← holding]
  exact Nat.add_right_comm _ _ _

variable [Engine ε] {engine : ε} {outcome : Outcome BridgeError Handle} {next : Registry ε}

theorem Added.tallied (added : Added engine registry outcome next) (tallied : registry.Tallied) :
    next.Tallied := by
  cases added with
  | refused => exact ⟨⟨tallied.sound.slot, tallied.sound.free_nodup, tallied.sound.free_vacant⟩,
      tallied.live_eq, tallied.engine_eq_none_iff⟩
  | unanswered claimed =>
    have hready := tallied.claimed claimed
    exact ⟨⟨hready.sound.slot, hready.sound.free_nodup, hready.sound.free_vacant⟩,
      hready.live_eq, hready.engine_eq_none_iff⟩
  | unsubscribed _ claimed => exact tallied.admitted claimed (.inl rfl) rfl
  | active _ claimed => exact tallied.admitted claimed (.inr rfl) rfl

/-- Whether the engine is taken in or turned away, there is one more to account for. -/
theorem Added.engineCount_eq (added : Added engine registry outcome next)
    (sound : registry.Sound) : next.engineCount = registry.engineCount + 1 := by
  cases added with
  | refused =>
    rw [engineCount, engineCount, List.length_append, ← Nat.add_assoc]
    rfl
  | @unanswered _ ready left claimed =>
    have hheld : ready.holding = registry.holding := claimed.countP_eq rfl
    have hreleased : ready.released = registry.released := by cases claimed <;> rfl
    rw [engineCount, engineCount, ← hheld, ← hreleased, List.length_append, ← Nat.add_assoc]
    rfl
  | unsubscribed _ claimed => exact engineCount_admitted sound claimed rfl _
  | active _ claimed => exact engineCount_admitted sound claimed rfl _

end Adding

/-! ## Runs -/

/-- The command brings an engine. -/
def Command.brings : Command ε → Bool
  | .add _ => true
  | _ => false

variable [Engine ε]

theorem tallied_perform (command : Command ε) {registry : Registry ε}
    (tallied : registry.Tallied) :
    (command.perform registry).state.Tallied ∧
      (command.perform registry).state.engineCount =
        registry.engineCount + command.brings.toNat := by
  by_cases hadd : ∃ engine, command = .add engine
  · obtain ⟨engine, rfl⟩ := hadd
    have hadded := added_add engine registry
    rw [state_perform_add]
    exact ⟨hadded.tallied tallied, hadded.engineCount_eq tallied.sound⟩
  · have hchange := (change_perform (fun engine e => hadd ⟨engine, e⟩) registry).1
    have hbrings : command.brings = false := by
      cases command with
      | add engine => exact absurd ⟨engine, rfl⟩ hadd
      | _ => rfl
    rw [hbrings]
    exact ⟨hchange.tallied tallied, hchange.engineCount_eq⟩

theorem tallied_performAll (commands : List (Command ε)) {registry : Registry ε}
    (tallied : registry.Tallied) :
    (performAll commands registry).registry.Tallied ∧
      (performAll commands registry).registry.engineCount =
        registry.engineCount + commands.countP Command.brings := by
  induction commands generalizing registry with
  | nil => exact ⟨tallied, rfl⟩
  | cons command rest ih =>
    obtain ⟨hstep, hcount⟩ := tallied_perform command tallied
    obtain ⟨hrest, hcount'⟩ := ih hstep
    refine ⟨hrest, ?_⟩
    rw [performAll, hcount', hcount, List.countP_cons]
    cases command.brings with
    | true => simp only [Bool.toNat_true, if_true]; omega
    | false => simp only [Bool.toNat_false, reduceCtorEq, if_false]; omega

end Registry

end Switchboard
