import Switchboard.Registry
/-!
# What handles show

The state a handle shows depends on its slot alone (`state?_eq`). Putting an occupant in the place
of another changes it for one handle, the one the occupant is reached by (`state?_setOccupant`);
vacating a slot makes that handle a finalized one and leaves all others as they were
(`state?_vacate`).
-/

namespace Switchboard

namespace Registry

variable {ε : Type}

/-! ## One slot -/

namespace Slot

/-- What a handle of this generation shows while its slot looks like this. -/
def stateAt (generation : UInt32) (slot : Slot ε) : Option Lifecycle :=
  if generation < slot.generation then some .finalized
  else if generation = slot.generation then
    match slot.occupant with
    | some occupant => some occupant.state
    | none => if slot.retired then some .finalized else none
  else none

/-- Slots start at generation 1, a retired one is empty, and nobody in a slot is finalized. -/
structure Sound (slot : Slot ε) : Prop where
  generation_pos : 0 < slot.generation
  retired_empty : slot.retired = true → slot.occupant = none
  present : ∀ occupant, slot.occupant = some occupant → occupant.state ≠ .finalized

structure Vacant (slot : Slot ε) : Prop where
  empty : slot.occupant = none
  in_use : slot.retired = false

theorem sound_fresh : (fresh : Slot ε).Sound where
  generation_pos := show (0 : UInt32) < 1 by decide
  retired_empty := fun _ => rfl
  present := fun _ h => nomatch h

theorem vacant_fresh : (fresh : Slot ε).Vacant := ⟨rfl, rfl⟩

private theorem toNat_succ_generation {slot : Slot ε} (h : slot.generation ≠ lastGeneration) :
    (slot.generation + 1).toNat = slot.generation.toNat + 1 := by
  have hlt := slot.generation.toNat_lt
  have hne : slot.generation.toNat ≠ 4294967295 := fun e => h (UInt32.toNat.inj e)
  rw [UInt32.toNat_add]
  exact Nat.mod_eq_of_lt (by simp; omega)

/-- A vacated slot is vacant, unless its generations are used up. -/
theorem vacant_vacated {slot : Slot ε} (h : slot.generation ≠ lastGeneration)
    (hr : slot.retired = false) : slot.vacated.Vacant := by
  simp only [vacated, h, if_false]
  exact ⟨rfl, hr⟩

theorem sound_vacated (slot : Slot ε) : slot.vacated.Sound := by
  by_cases hl : slot.generation = lastGeneration
  · simp only [vacated, hl, if_true]
    exact ⟨show 0 < lastGeneration by decide, fun _ => rfl, fun _ e => nomatch e⟩
  · simp only [vacated, hl, if_false]
    refine ⟨?_, fun _ => rfl, fun _ e => nomatch e⟩
    rw [UInt32.lt_iff_toNat_lt, toNat_succ_generation hl]
    simp

theorem sound_setOccupant {slot : Slot ε} {occupant next : Occupant ε} (h : slot.Sound)
    (ho : slot.occupant = some occupant) (hn : next.state ≠ .finalized) :
    ({ slot with occupant := some next } : Slot ε).Sound := by
  refine ⟨h.generation_pos, fun hr => ?_, fun _ e => ?_⟩
  · rw [h.retired_empty hr] at ho
    cases ho
  · cases e
    exact hn

theorem Sound.in_use {slot : Slot ε} {occupant : Occupant ε} (h : slot.Sound)
    (ho : slot.occupant = some occupant) : slot.retired = false := by
  cases hr : slot.retired with
  | false => rfl
  | true =>
    rw [h.retired_empty hr] at ho
    cases ho

private theorem stateAt_occupied {slot : Slot ε} {occupant : Occupant ε}
    (h : slot.occupant = some occupant) (generation : UInt32) :
    slot.stateAt generation =
      if generation < slot.generation then some .finalized
      else if generation = slot.generation then some occupant.state else none := by
  simp only [stateAt, h]

theorem stateAt_vacant {slot : Slot ε} (h : slot.Vacant) (generation : UInt32) :
    slot.stateAt generation = if generation < slot.generation then some .finalized else none := by
  simp only [stateAt, h.empty, h.in_use]
  split
  · rfl
  · split <;> rfl

/-- Vacating a slot finalizes the generation it had, and no other. -/
theorem stateAt_vacated {slot : Slot ε} {occupant : Occupant ε} (h : slot.Sound)
    (ho : slot.occupant = some occupant) (generation : UInt32) :
    slot.vacated.stateAt generation =
      if generation = slot.generation then some .finalized else slot.stateAt generation := by
  have hr := h.in_use ho
  rw [stateAt_occupied ho]
  by_cases hl : slot.generation = lastGeneration
  · simp only [vacated, hl, if_true, stateAt]
    split
    · split <;> rfl
    · split <;> simp_all
  · have hs := toNat_succ_generation hl
    rw [stateAt_vacant (vacant_vacated hl hr)]
    simp only [vacated, hl, if_false, UInt32.lt_iff_toNat_lt, hs, ← UInt32.toNat_inj]
    by_cases he : generation.toNat = slot.generation.toNat
    · simp [he]
    · by_cases hg : generation.toNat < slot.generation.toNat
      · simp [he, hg, show generation.toNat < slot.generation.toNat + 1 by omega]
      · simp [he, hg, show ¬ generation.toNat < slot.generation.toNat + 1 by omega]

end Slot

/-! ## Looking slots up -/

theorem occupant?_eq_some {registry : Registry ε} {handle : Handle} {occupant : Occupant ε} :
    registry.occupant? handle = some occupant ↔
      ∃ slot, registry.slot? handle = some slot ∧ slot.generation = handle.generation ∧
        slot.occupant = some occupant := by
  unfold occupant?
  cases registry.slot? handle with
  | none => simp
  | some slot =>
    by_cases h : slot.generation = handle.generation
    · simp [h]
    · simp [h]

theorem state?_eq (registry : Registry ε) (handle : Handle) :
    registry.state? handle = (registry.slot? handle).bind (·.stateAt handle.generation) := by
  unfold state? occupant? wasIssued Slot.stateAt
  cases registry.slot? handle with
  | none => simp
  | some slot =>
    by_cases he : slot.generation = handle.generation
    · have hn : ¬ handle.generation < slot.generation := by
        rw [he]; exact UInt32.lt_irrefl _
      cases ho : slot.occupant <;> simp [he, ho]
    · have hne : ¬ handle.generation = slot.generation := fun e => he e.symm
      by_cases hl : handle.generation < slot.generation
      · simp [he, hl]
      · simp [he, hl, hne]

theorem state?_of_occupant {registry : Registry ε} {handle : Handle} {occupant : Occupant ε}
    (h : registry.occupant? handle = some occupant) :
    registry.state? handle = some occupant.state := by
  simp only [state?, h]

theorem occupant?_of_active {registry : Registry ε} {handle : Handle}
    (h : registry.state? handle = some .active) :
    ∃ occupant, registry.occupant? handle = some occupant ∧ occupant.state = .active := by
  cases ho : registry.occupant? handle with
  | some occupant =>
    rw [state?_of_occupant ho] at h
    exact ⟨occupant, rfl, Option.some.inj h⟩
  | none =>
    simp only [state?, ho] at h
    split at h <;> cases h

theorem handle_eq_iff {a b : Handle} : a = b ↔ a.slot = b.slot ∧ a.generation = b.generation := by
  cases a
  cases b
  simp

/-! ## Another occupant -/

theorem slot?_setOccupant (handle other : Handle) (occupant : Occupant ε) (registry : Registry ε) :
    (registry.setOccupant handle occupant).slot? other =
      if other.slot = handle.slot then
        (registry.slot? handle).map ({ · with occupant := some occupant })
      else registry.slot? other := by
  unfold setOccupant
  cases hs : registry.slot? handle with
  | none =>
    by_cases he : other.slot = handle.slot
    · simpa [slot?, he] using hs
    · simp [he]
  | some slot =>
    have hlt := (List.getElem?_eq_some_iff.mp hs).1
    by_cases he : other.slot = handle.slot
    · simp [slot?, he, hlt]
    · have hne : handle.slot.toNat ≠ other.slot.toNat := fun e => he (UInt32.toNat.inj e).symm
      simp [slot?, he, List.getElem?_set_ne hne]

theorem occupant?_setOccupant {handle : Handle} {slot : Slot ε} {registry : Registry ε}
    (hs : registry.slot? handle = some slot) (hg : slot.generation = handle.generation)
    (occupant : Occupant ε) :
    (registry.setOccupant handle occupant).occupant? handle = some occupant := by
  rw [occupant?_eq_some]
  refine ⟨{ slot with occupant := some occupant }, ?_, hg, rfl⟩
  rw [slot?_setOccupant, if_pos rfl, hs]
  rfl

theorem setOccupant_setOccupant (handle : Handle) (first second : Occupant ε)
    (registry : Registry ε) :
    (registry.setOccupant handle first).setOccupant handle second =
      registry.setOccupant handle second := by
  have hs := slot?_setOccupant handle handle first registry
  rw [if_pos rfl] at hs
  unfold setOccupant at hs ⊢
  cases h : registry.slot? handle with
  | none => simp [h]
  | some slot =>
    simp only [h, Option.map_some] at hs ⊢
    simp only [hs, List.set_set]

/-- Putting an occupant where it is. -/
theorem setOccupant_self {handle : Handle} {occupant : Occupant ε} {registry : Registry ε}
    (ho : registry.occupant? handle = some occupant) :
    registry.setOccupant handle occupant = registry := by
  obtain ⟨slot, hs, -, hin⟩ := occupant?_eq_some.mp ho
  obtain ⟨hlt, hget⟩ := List.getElem?_eq_some_iff.mp hs
  have hslot : ({ slot with occupant := some occupant } : Slot ε) =
      registry.slots[handle.slot.toNat] := by rw [hget, ← hin]
  simp only [setOccupant, hs, hslot, List.set_getElem_self]

section Fields

variable (handle : Handle) (occupant : Occupant ε) (registry : Registry ε)

@[simp] theorem setOccupant_free : (registry.setOccupant handle occupant).free = registry.free := by
  unfold setOccupant; split <;> rfl

@[simp] theorem setOccupant_lockPoisoned :
    (registry.setOccupant handle occupant).lockPoisoned = registry.lockPoisoned := by
  unfold setOccupant; split <;> rfl

@[simp] theorem setOccupant_released :
    (registry.setOccupant handle occupant).released = registry.released := by
  unfold setOccupant; split <;> rfl

@[simp] theorem setOccupant_live_eq :
    (registry.setOccupant handle occupant).live = registry.live := by
  unfold setOccupant; split <;> rfl

@[simp] theorem setOccupant_config :
    (registry.setOccupant handle occupant).config = registry.config := by
  unfold setOccupant; split <;> rfl

@[simp] theorem length_slots_setOccupant :
    (registry.setOccupant handle occupant).slots.length = registry.slots.length := by
  unfold setOccupant; split <;> simp

@[simp] theorem vacate_lockPoisoned :
    (registry.vacate handle).lockPoisoned = registry.lockPoisoned := by
  unfold vacate; split <;> rfl

@[simp] theorem vacate_config : (registry.vacate handle).config = registry.config := by
  unfold vacate; split <;> rfl

@[simp] theorem length_slots_vacate :
    (registry.vacate handle).slots.length = registry.slots.length := by
  unfold vacate; split <;> simp

end Fields

/-- Another occupant changes what one handle shows, the one it is reached by. -/
theorem state?_setOccupant {handle : Handle} {slot : Slot ε} {registry : Registry ε}
    (hs : registry.slot? handle = some slot) (hg : slot.generation = handle.generation)
    (next : Occupant ε) (other : Handle) :
    (registry.setOccupant handle next).state? other =
      if other = handle then some next.state else registry.state? other := by
  by_cases hne : other = handle
  · rw [if_pos hne, hne]
    exact state?_of_occupant (occupant?_setOccupant hs hg next)
  · rw [if_neg hne, state?_eq, state?_eq, slot?_setOccupant]
    by_cases he : other.slot = handle.slot
    · have hs' : registry.slot? other = some slot := by simpa [slot?, he] using hs
      have hng : other.generation ≠ slot.generation :=
        fun e => hne (handle_eq_iff.mpr ⟨he, e.trans hg⟩)
      rw [if_pos he, hs, hs']
      simp only [Option.map_some, Option.bind_some, Slot.stateAt, hng, if_false]
    · rw [if_neg he]

/-- Another occupant is found under one handle. -/
theorem occupant?_setOccupant_eq {handle : Handle} {slot : Slot ε} {registry : Registry ε}
    (hs : registry.slot? handle = some slot) (hg : slot.generation = handle.generation)
    (next : Occupant ε) (other : Handle) :
    (registry.setOccupant handle next).occupant? other =
      if other = handle then some next else registry.occupant? other := by
  by_cases hne : other = handle
  · rw [if_pos hne, hne]
    exact occupant?_setOccupant hs hg next
  · rw [if_neg hne]
    by_cases he : other.slot = handle.slot
    · have hs' : registry.slot? other = some slot := by simpa [slot?, he] using hs
      have hng : slot.generation ≠ other.generation :=
        fun e => hne (handle_eq_iff.mpr ⟨he, e.symm.trans hg⟩)
      simp [occupant?, slot?_setOccupant, he, hs, hs', hng]
    · simp [occupant?, slot?_setOccupant, he]

/-! ## No occupant -/

theorem slot?_vacate {handle : Handle} {registry : Registry ε} {occupant : Occupant ε}
    (ho : registry.occupant? handle = some occupant) (other : Handle) :
    (registry.vacate handle).slot? other =
      if other.slot = handle.slot then (registry.slot? handle).map (·.vacated)
      else registry.slot? other := by
  obtain ⟨slot, hs, hg, -⟩ := occupant?_eq_some.mp ho
  have hlt := (List.getElem?_eq_some_iff.mp hs).1
  simp only [vacate, hs, ho]
  by_cases he : other.slot = handle.slot
  · simp [slot?, he, hlt]
  · have hne : handle.slot.toNat ≠ other.slot.toNat := fun e => he (UInt32.toNat.inj e).symm
    simp [slot?, he, List.getElem?_set_ne hne]

/-- Vacating a slot finalizes one handle. -/
theorem state?_vacate {handle : Handle} {slot : Slot ε} {registry : Registry ε}
    {occupant : Occupant ε} (ho : registry.occupant? handle = some occupant)
    (hs : registry.slot? handle = some slot) (sound : slot.Sound) (other : Handle) :
    (registry.vacate handle).state? other =
      if other = handle then some .finalized else registry.state? other := by
  obtain ⟨found, hf, hg, hin⟩ := occupant?_eq_some.mp ho
  obtain rfl : found = slot := Option.some.inj (hf.symm.trans hs)
  rw [state?_eq, state?_eq, slot?_vacate ho]
  by_cases he : other.slot = handle.slot
  · have hs' : registry.slot? other = some found := by simpa [slot?, he] using hs
    rw [if_pos he, hs, hs']
    simp only [Option.map_some, Option.bind_some, Slot.stateAt_vacated sound hin, handle_eq_iff, he,
      hg, true_and]
  · rw [if_neg he, if_neg fun e => he (by rw [e])]

/-- Nobody is found in a vacated slot. -/
theorem occupant?_vacate {handle : Handle} {before : Occupant ε} {registry : Registry ε}
    (ho : registry.occupant? handle = some before) (other : Handle) :
    (registry.vacate handle).occupant? other =
      if other.slot = handle.slot then none else registry.occupant? other := by
  obtain ⟨slot, hs, -, -⟩ := occupant?_eq_some.mp ho
  by_cases he : other.slot = handle.slot
  · rw [if_pos he]
    have hempty : slot.vacated.occupant = none := by
      unfold Slot.vacated
      split <;> rfl
    simp [occupant?, slot?_vacate ho, he, hs, hempty]
  · simp [occupant?, slot?_vacate ho, he]

theorem released_vacate {handle : Handle} {occupant : Occupant ε} {registry : Registry ε}
    (ho : registry.occupant? handle = some occupant) :
    (registry.vacate handle).released =
      registry.released ++ occupant.session.engine.toList := by
  obtain ⟨slot, hs, -, -⟩ := occupant?_eq_some.mp ho
  simp only [vacate, hs, ho]

/-- The slot that is left does not depend on who lived in it. -/
theorem vacate_replaced {handle : Handle} {occupant : Occupant ε} {registry : Registry ε}
    (ho : registry.occupant? handle = some occupant) (next : Occupant ε) (released : List ε) :
    ({ registry.setOccupant handle next with released := released } : Registry ε).vacate handle =
      { registry.vacate handle with released := released ++ next.session.engine.toList } := by
  obtain ⟨slot, hs, hg, -⟩ := occupant?_eq_some.mp ho
  have hvacated : ({ slot with occupant := some next } : Slot ε).vacated = slot.vacated := rfl
  have hreplaced : ({ registry.setOccupant handle next with released := released } :
      Registry ε).slot? handle = some { slot with occupant := some next } :=
    (slot?_setOccupant handle handle next registry).trans (by rw [if_pos rfl, hs]; rfl)
  have hfound : ({ registry.setOccupant handle next with released := released } :
      Registry ε).occupant? handle = some next := occupant?_eq_some.mpr ⟨_, hreplaced, hg, rfl⟩
  simp only [vacate, hs, ho, hreplaced, hfound, hvacated]
  simp [setOccupant, hs]

end Registry

end Switchboard
