import Switchboard.Proofs.Registry.Tally
/-!
# The stock of slots

A slot is in use, waits on the free list or is retired (`Stocked`), whatever changes. A slot is
added only if all others are in use or retired (`length_slots_admitted`).
-/

namespace Switchboard

namespace Registry

variable {ε : Type}

/-! ## Slots that are not in use -/

/-- How many slots are never used again. -/
def spent (registry : Registry ε) : Nat := registry.slots.countP (·.retired)

/-- Every slot is in use, waits on the free list or is retired, and there is room for all. -/
structure Stocked (registry : Registry ε) : Prop where
  free_of_vacant : ∀ {handle slot}, registry.slot? handle = some slot → slot.Vacant →
    handle.slot ∈ registry.free
  retired_last : ∀ {handle slot}, registry.slot? handle = some slot → slot.retired = true →
    slot.generation = lastGeneration
  length_le : registry.slots.length ≤ 4294967296
  live_le : registry.live ≤ registry.config.maxSessions.toNat

theorem stocked_empty (config : Config) : (empty config : Registry ε).Stocked where
  free_of_vacant := fun h => nomatch h
  retired_last := fun h => nomatch h
  length_le := Nat.zero_le _
  live_le := Nat.zero_le _

section Change

variable {registry : Registry ε} {handle : Handle} {occupant : Occupant ε}

/-- Where one slot changes, the others stay as they were, and so does what is on the free list of
them. -/
theorem Stocked.of_others {next : Registry ε} (stocked : registry.Stocked) (handle : Handle)
    (others : ∀ {other : Handle} {slot}, other.slot ≠ handle.slot → next.slot? other = some slot →
      registry.slot? other = some slot ∧ (other.slot ∈ registry.free → other.slot ∈ next.free))
    (here : ∀ {slot}, next.slot? handle = some slot →
      (slot.Vacant → handle.slot ∈ next.free) ∧
        (slot.retired = true → slot.generation = lastGeneration))
    (length_le : next.slots.length ≤ 4294967296)
    (live_le : next.live ≤ next.config.maxSessions.toNat) : next.Stocked where
  free_of_vacant := by
    intro other slot hf vacant
    by_cases he : other.slot = handle.slot
    · rw [slot?, he] at hf
      rw [he]
      exact (here hf).1 vacant
    · obtain ⟨hbefore, hfree⟩ := others he hf
      exact hfree (stocked.free_of_vacant hbefore vacant)
  retired_last := by
    intro other slot hf hr
    by_cases he : other.slot = handle.slot
    · rw [slot?, he] at hf
      exact (here hf).2 hr
    · exact stocked.retired_last (others he hf).1 hr
  length_le := length_le
  live_le := live_le

theorem Stocked.replace (stocked : registry.Stocked)
    (ho : registry.occupant? handle = some occupant) (next : Occupant ε) :
    (registry.setOccupant handle next).Stocked := by
  obtain ⟨found, hs, -, -⟩ := occupant?_eq_some.mp ho
  apply stocked.of_others handle
  · intro other slot hne hf
    rw [slot?_setOccupant, if_neg hne] at hf
    rw [setOccupant_free]
    exact ⟨hf, id⟩
  · intro slot hf
    rw [slot?_setOccupant, if_pos rfl, hs] at hf
    cases hf
    refine ⟨fun vacant => absurd vacant.empty (by simp), fun hr => ?_⟩
    have hretired : found.retired = true := hr
    have hlast : found.generation = lastGeneration := stocked.retired_last hs hretired
    exact hlast
  · rw [length_slots_setOccupant]
    exact stocked.length_le
  · rw [setOccupant_live_eq, setOccupant_config]
    exact stocked.live_le

theorem Stocked.vacate (stocked : registry.Stocked) (sound : registry.Sound)
    (ho : registry.occupant? handle = some occupant) : (registry.vacate handle).Stocked := by
  obtain ⟨found, hs, -, hin⟩ := occupant?_eq_some.mp ho
  have hvacate : registry.vacate handle =
      { registry with
        slots := registry.slots.set handle.slot.toNat found.vacated
        free := if found.generation = lastGeneration then registry.free
          else handle.slot :: registry.free
        live := registry.live - 1
        released := registry.released ++ occupant.session.engine.toList } := by
    simp only [Registry.vacate, hs, ho]
  have hfree : (registry.vacate handle).free =
      if found.generation = lastGeneration then registry.free else handle.slot :: registry.free :=
    congrArg Registry.free hvacate
  apply stocked.of_others handle
  · intro other slot hne hf
    rw [slot?_vacate ho, if_neg hne] at hf
    rw [hfree]
    refine ⟨hf, fun hm => ?_⟩
    split
    · exact hm
    · exact List.mem_cons_of_mem _ hm
  · intro slot hf
    rw [slot?_vacate ho, if_pos rfl, hs] at hf
    cases hf
    rw [hfree]
    by_cases hl : found.generation = lastGeneration
    · refine ⟨fun vacant => ?_, fun _ => ?_⟩
      · have hused := vacant.in_use
        simp [Slot.vacated, hl] at hused
      · simp [Slot.vacated, hl]
    · refine ⟨fun _ => ?_, fun hr => ?_⟩
      · rw [if_neg hl]
        exact List.mem_cons_self
      · simp [Slot.vacated, hl, (sound.slot hs).in_use hin] at hr
  · rw [length_slots_vacate]
    exact stocked.length_le
  · rw [hvacate]
    exact Nat.le_trans (Nat.sub_le _ _) stocked.live_le

theorem Change.stocked {first second : Registry ε} (h : Change first second)
    (tallied : first.Tallied) (stocked : first.Stocked) : second.Stocked := by
  induction h with
  | refl => exact stocked
  | used ho _ _ => exact stocked.replace ho _
  | @killed registry handle occupant ho _ _ =>
    have hreplaced := stocked.replace ho
      ⟨.killed, { occupant.session with engine := none, transfers := none }⟩
    exact ⟨hreplaced.free_of_vacant, hreplaced.retired_last, hreplaced.length_le,
      hreplaced.live_le⟩
  | kept ho _ _ => exact stocked.replace ho _
  | vacated ho _ => exact stocked.vacate tallied.sound ho
  | trans h₁ _ ih₁ ih₂ => exact ih₂ (h₁.tallied tallied) (ih₁ tallied stocked)

end Change

section Adding

variable {registry ready next : Registry ε} {handle : Handle}

theorem Stocked.admitted (stocked : registry.Stocked) (claimed : Claimed registry handle ready)
    (sound : registry.Sound) (occupant : Occupant ε)
    (room : registry.live < registry.config.maxSessions.toNat) :
    (ready.admitted handle occupant (registry.live + 1)).Stocked := by
  obtain ⟨taken, hs, -⟩ := claimed.slot?
  have hslot : ∀ other : Handle, (ready.admitted handle occupant (registry.live + 1)).slot? other =
      if other.slot = handle.slot then
        (ready.slot? handle).map ({ · with occupant := some occupant })
      else ready.slot? other := fun other => slot?_setOccupant handle other occupant ready
  have hfree : (ready.admitted handle occupant (registry.live + 1)).free = ready.free :=
    setOccupant_free _ _ _
  apply stocked.of_others handle
  · intro other slot hne hf
    rw [hslot, if_neg hne] at hf
    rw [hfree]
    cases claimed with
    | freed hfreed _ =>
      refine ⟨hf, fun hm => ?_⟩
      rw [hfreed] at hm
      exact (List.mem_cons.mp hm).resolve_left hne
    | fresh _ hn =>
      refine ⟨?_, id⟩
      have hlength : other.slot.toNat ≠ registry.slots.length :=
        fun e => hne (UInt32.toNat.inj (e.trans (toNat_ofNat_of_lt hn).symm))
      rwa [Registry.slot?, getElem?_append_fresh _ hlength] at hf
  · intro slot hf
    rw [hslot, if_pos rfl, hs] at hf
    cases hf
    refine ⟨fun vacant => absurd vacant.empty (by simp), fun hr => ?_⟩
    have hused : taken.retired = false := (claimed.vacant sound hs).in_use
    rw [show taken.retired = true from hr] at hused
    cases hused
  · have hlength : (ready.admitted handle occupant (registry.live + 1)).slots.length =
        ready.slots.length := length_slots_setOccupant _ _ _
    rw [hlength]
    cases claimed with
    | freed => exact stocked.length_le
    | fresh _ hn =>
      rw [List.length_append, List.length_singleton]
      exact hn
  · have hconfig : (ready.admitted handle occupant (registry.live + 1)).config = registry.config :=
      (setOccupant_config _ _ _).trans claimed.config_eq
    rw [hconfig]
    exact room

end Adding

/-! ## No more slots than needed -/

section Growth

variable {registry ready first second : Registry ε} {handle : Handle} {occupant : Occupant ε}

theorem Change.config_eq (h : Change first second) : second.config = first.config := by
  induction h with
  | refl => rfl
  | used => exact setOccupant_config _ _ _
  | killed => exact setOccupant_config _ _ _
  | kept => exact setOccupant_config _ _ _
  | vacated => exact vacate_config _ _
  | trans _ _ ih₁ ih₂ => exact ih₂.trans ih₁

theorem Change.length_slots_eq (h : Change first second) :
    second.slots.length = first.slots.length := by
  induction h with
  | refl => rfl
  | used => exact length_slots_setOccupant _ _ _
  | killed => exact length_slots_setOccupant _ _ _
  | kept => exact length_slots_setOccupant _ _ _
  | vacated => exact length_slots_vacate _ _
  | trans _ _ ih₁ ih₂ => exact ih₂.trans ih₁

private theorem spent_replace (ho : registry.occupant? handle = some occupant) (next : Occupant ε) :
    (registry.setOccupant handle next).spent = registry.spent := by
  obtain ⟨slot, hs, -, -⟩ := occupant?_eq_some.mp ho
  have hcount := countP_set_slot hs { slot with occupant := some next } (·.retired)
  rw [spent, slots_setOccupant hs]
  exact Nat.add_right_cancel hcount

/-- A retired slot stays retired. -/
theorem spent_vacate_ge (ho : registry.occupant? handle = some occupant) :
    registry.spent ≤ (registry.vacate handle).spent := by
  obtain ⟨slot, hs, -, -⟩ := occupant?_eq_some.mp ho
  have hcount := countP_set_slot hs slot.vacated (·.retired)
  have hretired : slot.retired.toNat ≤ slot.vacated.retired.toNat := by
    unfold Slot.vacated
    split
    · exact Bool.toNat_le slot.retired
    · exact Nat.le_refl _
  rw [spent, spent, slots_vacate ho hs]
  omega

theorem Change.spent_le (h : Change first second) : first.spent ≤ second.spent := by
  induction h with
  | refl => exact Nat.le_refl _
  | used ho => exact Nat.le_of_eq (spent_replace ho _).symm
  | killed ho => exact Nat.le_of_eq (spent_replace ho _).symm
  | kept ho => exact Nat.le_of_eq (spent_replace ho _).symm
  | vacated ho => exact spent_vacate_ge ho
  | trans _ _ ih₁ ih₂ => exact Nat.le_trans ih₁ ih₂

theorem Stocked.exists_slot? (stocked : registry.Stocked) {slot : Slot ε}
    (hm : slot ∈ registry.slots) : ∃ handle : Handle, registry.slot? handle = some slot := by
  obtain ⟨index, hi⟩ := List.mem_iff_getElem?.mp hm
  have hlt := (List.getElem?_eq_some_iff.mp hi).1
  have hsmall := stocked.length_le
  refine ⟨⟨UInt32.ofNat index, 0⟩, ?_⟩
  rwa [slot?, toNat_ofNat_of_lt (by omega)]

/-- With nothing on the free list, every slot is in use or retired. -/
theorem Stocked.length_slots_eq (stocked : registry.Stocked) (sound : registry.Sound)
    (hfree : registry.free = []) : registry.slots.length = registry.occupied + registry.spent := by
  rw [List.length_eq_countP_add_countP (·.occupant.isSome), occupied, spent]
  congr 1
  refine List.countP_congr fun slot hm => ?_
  obtain ⟨handle, hs⟩ := stocked.exists_slot? hm
  simp only [decide_eq_true_eq, Bool.not_eq_true,
    Option.isSome_eq_false_iff, Option.isNone_iff_eq_none]
  constructor
  · intro hempty
    cases hr : slot.retired with
    | true => rfl
    | false =>
      have hwaits := stocked.free_of_vacant hs ⟨hempty, hr⟩
      rw [hfree] at hwaits
      cases hwaits
  · exact (sound.slot hs).retired_empty

/-- A session that moves in takes a vacant slot, or all slots are in use after it. -/
theorem length_slots_admitted (claimed : Claimed registry handle ready)
    (tallied : registry.Tallied) (stocked : registry.Stocked) (occupant : Occupant ε) :
    (ready.admitted handle occupant (registry.live + 1)).spent = registry.spent ∧
      ((ready.admitted handle occupant (registry.live + 1)).slots.length =
          registry.slots.length ∨
        (ready.admitted handle occupant (registry.live + 1)).slots.length =
          registry.live + 1 + registry.spent) := by
  obtain ⟨slot, hs, -⟩ := claimed.slot?
  have hcount := countP_set_slot hs { slot with occupant := some occupant } (·.retired)
  have hlength : (ready.admitted handle occupant (registry.live + 1)).slots.length =
      ready.slots.length := length_slots_setOccupant _ _ _
  constructor
  · rw [spent, spent, admitted]
    dsimp only
    rw [slots_setOccupant hs, Nat.add_right_cancel hcount, claimed.countP_eq rfl]
  · rw [hlength]
    cases claimed with
    | freed => exact .inl rfl
    | fresh hfree _ =>
      have hall := stocked.length_slots_eq tallied.sound hfree
      rw [List.length_append, List.length_singleton, hall, tallied.live_eq]
      omega

end Growth

end Registry

end Switchboard
