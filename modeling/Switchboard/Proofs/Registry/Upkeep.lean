import Switchboard.Proofs.Registry.Change
/-!
# Upkeep

As far as the handles go, the changes other than by adding are four (`Upkeep`): an occupant is
replaced, a killed one leaves, engines go, or nothing happens. What `Sound` says of the slots and
the free list survives them, no handle becomes known or unknown by them, and a finalized handle
stays finalized (`Upkeep.sound`, `Upkeep.state?_eq_none_iff`, `Upkeep.finalized`).
-/

namespace Switchboard

namespace Registry

variable {ε : Type}

structure Sound (registry : Registry ε) : Prop where
  slot : ∀ {handle slot}, registry.slot? handle = some slot → slot.Sound
  free_nodup : registry.free.Nodup
  free_vacant : ∀ index ∈ registry.free,
    ∃ slot, registry.slots[index.toNat]? = some slot ∧ slot.Vacant

theorem sound_empty (config : Config) : (empty config : Registry ε).Sound where
  slot := fun h => nomatch h
  free_nodup := List.nodup_nil
  free_vacant := fun _ h => nomatch h

theorem Sound.occupant_ne_finalized {registry : Registry ε} {handle : Handle}
    {occupant : Occupant ε} (sound : registry.Sound)
    (ho : registry.occupant? handle = some occupant) : occupant.state ≠ .finalized := by
  obtain ⟨slot, hs, -, hin⟩ := occupant?_eq_some.mp ho
  exact (sound.slot hs).present occupant hin

theorem Sound.live_of_not_killed {registry : Registry ε} {handle : Handle}
    {occupant : Occupant ε} (sound : registry.Sound)
    (ho : registry.occupant? handle = some occupant) (hk : occupant.state ≠ .killed) :
    occupant.state = .created ∨ occupant.state = .active := by
  have hn := sound.occupant_ne_finalized ho
  cases hstate : occupant.state <;> simp_all

/-- A slot somebody lives in is not on the free list. -/
theorem Sound.not_mem_free {registry : Registry ε} {handle : Handle} {occupant : Occupant ε}
    (sound : registry.Sound) (ho : registry.occupant? handle = some occupant) :
    handle.slot ∉ registry.free := by
  intro hm
  obtain ⟨slot, hs, -, hin⟩ := occupant?_eq_some.mp ho
  obtain ⟨vacant, hv, he⟩ := sound.free_vacant _ hm
  obtain rfl : vacant = slot := Option.some.inj (hv.symm.trans hs)
  rw [he.empty] at hin
  cases hin

/-- Finalized means that nobody lives there any more. -/
theorem Sound.occupant?_of_finalized {registry : Registry ε} {handle : Handle}
    (sound : registry.Sound) (h : registry.state? handle = some .finalized) :
    registry.occupant? handle = none ∧ registry.wasIssued handle = true := by
  cases ho : registry.occupant? handle with
  | some occupant =>
    rw [state?_of_occupant ho] at h
    exact absurd (Option.some.inj h) (sound.occupant_ne_finalized ho)
  | none =>
    refine ⟨rfl, ?_⟩
    cases hi : registry.wasIssued handle with
    | true => rfl
    | false => simp [state?, ho, hi] at h

/-- What operations other than adding do to a registry. -/
inductive Upkeep : Registry ε → Registry ε → Prop
  | refl (registry : Registry ε) : Upkeep registry registry
  | occupant {registry : Registry ε} {handle : Handle} {before next : Occupant ε} :
    registry.occupant? handle = some before →
    next.state = before.state ∨ next.state = .killed →
    Upkeep registry (registry.setOccupant handle next)
  | vacate {registry : Registry ε} {handle : Handle} {before : Occupant ε} :
    registry.occupant? handle = some before → before.state = .killed →
    Upkeep registry (registry.vacate handle)
  | release {registry : Registry ε} (released : List ε) :
    Upkeep registry { registry with released := released }
  | trans {first second third : Registry ε} :
    Upkeep first second → Upkeep second third → Upkeep first third

/-! ## What upkeep keeps -/

theorem sound_setOccupant {registry : Registry ε} {handle : Handle} {before next : Occupant ε}
    (sound : registry.Sound) (ho : registry.occupant? handle = some before)
    (hn : next.state ≠ .finalized) : (registry.setOccupant handle next).Sound := by
  obtain ⟨slot, hs, -, hin⟩ := occupant?_eq_some.mp ho
  constructor
  · intro other found hf
    rw [slot?_setOccupant] at hf
    split at hf
    · rw [hs] at hf
      cases hf
      exact Slot.sound_setOccupant (sound.slot hs) hin hn
    · exact sound.slot hf
  · rw [setOccupant_free]
    exact sound.free_nodup
  · intro index hi
    rw [setOccupant_free] at hi
    have hne : index ≠ handle.slot := fun e => sound.not_mem_free ho (e ▸ hi)
    have hsame := slot?_setOccupant handle ⟨index, 0⟩ next registry
    rw [if_neg hne] at hsame
    obtain ⟨vacant, hv, he⟩ := sound.free_vacant index hi
    exact ⟨vacant, hsame.trans hv, he⟩

theorem sound_vacate {registry : Registry ε} {handle : Handle} {before : Occupant ε}
    (sound : registry.Sound) (ho : registry.occupant? handle = some before) :
    (registry.vacate handle).Sound := by
  obtain ⟨slot, hs, -, hin⟩ := occupant?_eq_some.mp ho
  have hfree : (registry.vacate handle).free =
      if slot.generation = lastGeneration then registry.free
      else handle.slot :: registry.free := by
    simp only [vacate, hs, ho]
  have hother : ∀ index : UInt32, index ≠ handle.slot →
      (registry.vacate handle).slots[index.toNat]? = registry.slots[index.toNat]? := by
    intro index hne
    have hsame := slot?_vacate ho ⟨index, 0⟩
    rwa [if_neg hne] at hsame
  have hold : ∀ index ∈ registry.free, ∃ slot,
      (registry.vacate handle).slots[index.toNat]? = some slot ∧ slot.Vacant := by
    intro index hi
    have hne : index ≠ handle.slot := fun e => sound.not_mem_free ho (e ▸ hi)
    obtain ⟨vacant, hv, he⟩ := sound.free_vacant index hi
    exact ⟨vacant, (hother index hne).trans hv, he⟩
  constructor
  · intro other found hf
    rw [slot?_vacate ho] at hf
    split at hf
    · rw [hs] at hf
      cases hf
      exact Slot.sound_vacated slot
    · exact sound.slot hf
  · rw [hfree]
    split
    · exact sound.free_nodup
    · exact List.nodup_cons.mpr ⟨sound.not_mem_free ho, sound.free_nodup⟩
  · rw [hfree]
    split
    · exact hold
    · rename_i hl
      intro index hi
      rcases List.mem_cons.mp hi with rfl | hi
      · have hself := slot?_vacate ho handle
        rw [if_pos rfl, hs] at hself
        exact ⟨_, hself, Slot.vacant_vacated hl ((sound.slot hs).in_use hin)⟩
      · exact hold index hi

theorem Upkeep.sound {first second : Registry ε} (h : Upkeep first second) (sound : first.Sound) :
    second.Sound := by
  induction h with
  | refl => exact sound
  | occupant ho hn =>
    refine sound_setOccupant sound ho ?_
    rcases hn with hn | hn
    · rw [hn]; exact sound.occupant_ne_finalized ho
    · rw [hn]; decide
  | vacate ho _ => exact sound_vacate sound ho
  | release => exact ⟨sound.slot, sound.free_nodup, sound.free_vacant⟩
  | trans _ _ ih₁ ih₂ => exact ih₂ (ih₁ sound)

theorem Upkeep.lockPoisoned_eq {first second : Registry ε} (h : Upkeep first second) :
    second.lockPoisoned = first.lockPoisoned := by
  induction h with
  | refl => rfl
  | occupant => exact setOccupant_lockPoisoned _ _ _
  | vacate => exact vacate_lockPoisoned _ _
  | release => rfl
  | trans _ _ ih₁ ih₂ => exact ih₂.trans ih₁

/-- Upkeep makes no handle known, and none unknown. -/
theorem Upkeep.state?_eq_none_iff {first second : Registry ε} (h : Upkeep first second)
    (sound : first.Sound) (other : Handle) :
    second.state? other = none ↔ first.state? other = none := by
  induction h with
  | refl => rfl
  | @occupant registry handle before next ho hn =>
    obtain ⟨slot, hs, hg, -⟩ := occupant?_eq_some.mp ho
    rw [state?_setOccupant hs hg]
    split
    · rename_i he
      simp [he, state?_of_occupant ho]
    · rfl
  | @vacate registry handle before ho hk =>
    obtain ⟨slot, hs, -, -⟩ := occupant?_eq_some.mp ho
    rw [state?_vacate ho hs (sound.slot hs)]
    split
    · rename_i he
      simp [he, state?_of_occupant ho]
    · rfl
  | release => rfl
  | trans h₁ _ ih₁ ih₂ => exact (ih₂ (h₁.sound sound)).trans (ih₁ sound)

/-- Upkeep revives no finalized handle. -/
theorem Upkeep.finalized {first second : Registry ε} (h : Upkeep first second)
    (sound : first.Sound) {other : Handle} (hf : first.state? other = some .finalized) :
    second.state? other = some .finalized := by
  induction h with
  | refl => exact hf
  | @occupant registry handle before next ho hn =>
    obtain ⟨slot, hs, hg, -⟩ := occupant?_eq_some.mp ho
    have hne : other ≠ handle := by
      rintro rfl
      rw [(sound.occupant?_of_finalized hf).1] at ho
      cases ho
    rw [state?_setOccupant hs hg, if_neg hne]
    exact hf
  | @vacate registry handle before ho hk =>
    obtain ⟨slot, hs, -, -⟩ := occupant?_eq_some.mp ho
    rw [state?_vacate ho hs (sound.slot hs)]
    split
    · rfl
    · exact hf
  | release => exact hf
  | trans h₁ _ ih₁ ih₂ => exact ih₂ (h₁.sound sound) (ih₁ sound hf)

/-! ## What does upkeep -/

theorem Change.upkeep {first second : Registry ε} (h : Change first second) :
    Upkeep first second := by
  induction h with
  | refl registry => exact .refl registry
  | used ho _ _ => exact .occupant ho (.inl rfl)
  | killed ho _ _ => exact .trans (.occupant ho (.inr rfl)) (.release _)
  | kept ho _ _ => exact .occupant ho (.inr rfl)
  | vacated ho hk => exact .vacate ho hk
  | trans _ _ ih₁ ih₂ => exact ih₁.trans ih₂

end Registry

end Switchboard
