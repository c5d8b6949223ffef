import Switchboard.Proofs.Registry.Upkeep
/-!
# Admission

How adding an engine can go (`Added`, `added_add`), and what it changes: the handle of the new
session was not known before, and apart from it only the handles of generation 0 of its slot become
known (`state?_admitted`).
-/

namespace Switchboard

namespace Registry

variable {ε : Type}

/-! ## The claimed slot -/

/-- The slot a new session moves into: one from the free list, or a fresh one at the end. -/
inductive Claimed (registry : Registry ε) : Handle → Registry ε → Prop
  | freed {index : UInt32} {rest : List UInt32} {slot : Slot ε} :
    registry.free = index :: rest → registry.slots[index.toNat]? = some slot →
    Claimed registry ⟨index, slot.generation⟩ { registry with free := rest }
  | fresh :
    registry.free = [] → registry.slots.length < 4294967296 →
    Claimed registry ⟨UInt32.ofNat registry.slots.length, 1⟩
      { registry with slots := registry.slots ++ [Slot.fresh] }

private theorem claimed_of_claim? {registry ready : Registry ε} {handle : Handle}
    (h : registry.claim? = some (handle, ready)) : Claimed registry handle ready := by
  unfold claim? at h
  split at h
  · rename_i index rest hf
    obtain ⟨slot, hs, he⟩ := Option.map_eq_some_iff.mp h
    cases he
    exact .freed hf hs
  · rename_i hf
    split at h
    · rename_i hn
      cases h
      exact .fresh hf hn
    · cases h

section Claimed

variable {registry ready : Registry ε} {handle : Handle}

theorem getElem?_append_fresh (slots : List (Slot ε)) {index : Nat} (h : index ≠ slots.length) :
    (slots ++ [Slot.fresh])[index]? = slots[index]? := by
  by_cases hlt : index < slots.length
  · exact List.getElem?_append_left hlt
  · have hlen : (slots ++ [Slot.fresh (ε := ε)]).length ≤ index := by
      rw [List.length_append, List.length_singleton]; omega
    rw [List.getElem?_eq_none hlen, List.getElem?_eq_none (by omega)]

theorem toNat_ofNat_of_lt {n : Nat} (h : n < 4294967296) : (UInt32.ofNat n).toNat = n := by
  rw [UInt32.toNat_ofNat']
  exact Nat.mod_eq_of_lt h

theorem Claimed.slot? (claimed : Claimed registry handle ready) :
    ∃ slot, ready.slot? handle = some slot ∧ slot.generation = handle.generation := by
  cases claimed with
  | @freed index rest slot hf hs => exact ⟨slot, hs, rfl⟩
  | fresh _ hn =>
    refine ⟨Slot.fresh, ?_, rfl⟩
    simp [Registry.slot?, toNat_ofNat_of_lt hn]

theorem Claimed.sound_slot (claimed : Claimed registry handle ready) (sound : registry.Sound)
    {other : Handle} {slot : Slot ε} (hs : ready.slot? other = some slot) : slot.Sound := by
  cases claimed with
  | freed => exact sound.slot (show registry.slot? other = some slot from hs)
  | fresh hf hn =>
    by_cases he : other.slot.toNat = registry.slots.length
    · simp only [Registry.slot?, he, List.getElem?_append_right (Nat.le_refl _), Nat.sub_self,
        List.getElem?_cons_zero, Option.some.injEq] at hs
      rw [← hs]
      exact Slot.sound_fresh
    · simp only [Registry.slot?, getElem?_append_fresh _ he] at hs
      exact sound.slot (show registry.slot? other = some slot from hs)

theorem Claimed.vacant (claimed : Claimed registry handle ready) (sound : registry.Sound)
    {slot : Slot ε} (hs : ready.slot? handle = some slot) : slot.Vacant := by
  cases claimed with
  | @freed index rest found hf hi =>
    obtain ⟨vacant, hv, he⟩ := sound.free_vacant index (by rw [hf]; exact List.mem_cons_self)
    obtain rfl : vacant = slot := Option.some.inj (hv.symm.trans hs)
    exact he
  | fresh _ hn =>
    simp only [Registry.slot?, toNat_ofNat_of_lt hn, List.getElem?_append_right (Nat.le_refl _),
      Nat.sub_self, List.getElem?_cons_zero, Option.some.injEq] at hs
    rw [← hs]
    exact Slot.vacant_fresh

/-- Claiming a slot makes nothing known but generation 0 of it. -/
theorem Claimed.state? (claimed : Claimed registry handle ready) (sound : registry.Sound)
    (other : Handle) :
    ready.state? other =
      if other.slot = handle.slot ∧ other.generation = 0 then some .finalized
      else registry.state? other := by
  cases claimed with
  | @freed index rest slot hf hs =>
    have hsame : ({ registry with free := rest } : Registry ε).state? other =
      registry.state? other := rfl
    rw [hsame]
    split
    · rename_i he
      have hother : registry.slot? other = some slot := by
        simp only [Registry.slot?, he.1]; exact hs
      have hpos := (sound.slot hother).generation_pos
      rw [state?_eq, hother, he.2, Option.bind_some, Slot.stateAt, if_pos hpos]
    · rfl
  | fresh hf hn =>
    have hm := toNat_ofNat_of_lt hn
    rw [state?_eq, state?_eq]
    by_cases he : other.slot = UInt32.ofNat registry.slots.length
    · simp only [Registry.slot?, he, hm, List.getElem?_append_right (Nat.le_refl _), Nat.sub_self,
        List.getElem?_cons_zero, List.getElem?_eq_none (Nat.le_refl _), Option.bind_some,
        Option.bind_none, true_and, Slot.stateAt_vacant Slot.vacant_fresh]
      simp only [Slot.fresh, UInt32.lt_iff_toNat_lt, ← UInt32.toNat_inj]
      by_cases hz : other.generation.toNat = 0
      · simp [hz]
      · simp [hz, show ¬ other.generation.toNat < 1 by omega]
    · have hne : other.slot.toNat ≠ registry.slots.length :=
        fun e => he (UInt32.toNat.inj (e.trans hm.symm))
      simp only [Registry.slot?, he, false_and, if_false, getElem?_append_fresh _ hne]

/-- A claimed handle was unknown. -/
theorem Claimed.unknown (claimed : Claimed registry handle ready) (sound : registry.Sound) :
    registry.state? handle = none := by
  obtain ⟨slot, hs, hg⟩ := claimed.slot?
  have hself := claimed.state? sound handle
  have hpos : handle.generation ≠ 0 := by
    rw [← hg]
    exact fun e => UInt32.lt_irrefl 0 (e ▸ (claimed.sound_slot sound hs).generation_pos)
  rw [if_neg fun e => hpos e.2] at hself
  rw [← hself, state?_eq, hs, Option.bind_some, Slot.stateAt_vacant (claimed.vacant sound hs),
    hg, if_neg (UInt32.lt_irrefl _)]

/-- Claiming a slot brings nobody in. -/
theorem Claimed.occupant? (claimed : Claimed registry handle ready) (other : Handle) :
    ready.occupant? other = registry.occupant? other := by
  cases claimed with
  | freed => rfl
  | fresh =>
    by_cases he : other.slot.toNat = registry.slots.length
    · simp [Registry.occupant?, Registry.slot?, he, Slot.fresh]
    · simp only [Registry.occupant?, Registry.slot?, getElem?_append_fresh _ he]

theorem Claimed.free (claimed : Claimed registry handle ready) (sound : registry.Sound) :
    ready.free.Nodup ∧ ∀ index ∈ ready.free, index ≠ handle.slot ∧
      ∃ slot, ready.slots[index.toNat]? = some slot ∧ slot.Vacant := by
  cases claimed with
  | @freed index rest slot hf hs =>
    have hnodup := sound.free_nodup
    rw [hf] at hnodup
    obtain ⟨hm, hr⟩ := List.nodup_cons.mp hnodup
    refine ⟨hr, fun other hi => ⟨fun e : other = index => hm (e ▸ hi), ?_⟩⟩
    exact sound.free_vacant other (by rw [hf]; exact List.mem_cons_of_mem _ hi)
  | fresh hf _ =>
    simp only [hf]
    exact ⟨List.nodup_nil, fun _ h => nomatch h⟩

end Claimed

/-! ## The admitted session -/

/-- The registry after a session has moved into the slot claimed for it. -/
def admitted (handle : Handle) (occupant : Occupant ε) (live : Nat) (ready : Registry ε) :
    Registry ε :=
  { ready.setOccupant handle occupant with live := live }

section Admitted

variable {registry ready : Registry ε} {handle : Handle}

theorem occupant?_admitted (claimed : Claimed registry handle ready) (occupant : Occupant ε)
    (live : Nat) : (ready.admitted handle occupant live).occupant? handle = some occupant := by
  obtain ⟨slot, hs, hg⟩ := claimed.slot?
  exact occupant?_setOccupant hs hg occupant

/-- The session is found under its handle, and nothing else changes. -/
theorem occupant?_admitted_eq (claimed : Claimed registry handle ready) (occupant : Occupant ε)
    (live : Nat) (other : Handle) :
    (ready.admitted handle occupant live).occupant? other =
      if other = handle then some occupant else registry.occupant? other := by
  obtain ⟨slot, hs, hg⟩ := claimed.slot?
  exact (occupant?_setOccupant_eq hs hg occupant other).trans (by rw [claimed.occupant?])

theorem admitted_lockPoisoned (claimed : Claimed registry handle ready) (occupant : Occupant ε)
    (live : Nat) :
    (ready.admitted handle occupant live).lockPoisoned = registry.lockPoisoned := by
  cases claimed <;> exact setOccupant_lockPoisoned _ _ _

private theorem setOccupant_live (registry : Registry ε) (handle : Handle) (occupant : Occupant ε)
    (live : Nat) :
    { registry with live := live }.setOccupant handle occupant =
      { registry.setOccupant handle occupant with live := live } := by
  unfold setOccupant Registry.slot?
  dsimp only
  split <;> rfl

private theorem setOccupant_admitted (first second : Occupant ε) (live : Nat) :
    (ready.admitted handle first live).setOccupant handle second =
      ready.admitted handle second live := by
  rw [admitted, setOccupant_live, setOccupant_setOccupant]
  rfl

private theorem setState_admitted (claimed : Claimed registry handle ready) (occupant : Occupant ε)
    (live : Nat) (state : Lifecycle) :
    setState handle state (ready.admitted handle occupant live) =
      ready.admitted handle { occupant with state := state } live := by
  simp only [setState, occupant?_admitted claimed, setOccupant_admitted]

theorem state?_admitted (claimed : Claimed registry handle ready) (sound : registry.Sound)
    (occupant : Occupant ε) (live : Nat) (other : Handle) :
    (ready.admitted handle occupant live).state? other =
      if other = handle then some occupant.state
      else if other.slot = handle.slot ∧ other.generation = 0 then some .finalized
      else registry.state? other := by
  obtain ⟨slot, hs, hg⟩ := claimed.slot?
  exact (state?_setOccupant hs hg occupant other).trans (by rw [claimed.state? sound])

theorem sound_admitted (claimed : Claimed registry handle ready) (sound : registry.Sound)
    {occupant : Occupant ε} (hn : occupant.state ≠ .finalized) (live : Nat) :
    (ready.admitted handle occupant live).Sound := by
  obtain ⟨slot, hs, -⟩ := claimed.slot?
  obtain ⟨hnodup, hfree⟩ := claimed.free sound
  constructor
  · intro other found hf
    have hf' := (slot?_setOccupant handle other occupant ready).symm.trans hf
    split at hf'
    · rw [hs] at hf'
      cases hf'
      refine ⟨(claimed.sound_slot sound hs).generation_pos, fun hr => ?_, fun _ e => ?_⟩
      · rw [(claimed.vacant sound hs).in_use] at hr
        cases hr
      · cases e
        exact hn
    · exact claimed.sound_slot sound hf'
  · simpa only [admitted, setOccupant_free] using hnodup
  · intro index hi
    simp only [admitted, setOccupant_free] at hi
    obtain ⟨hne, vacant, hv, he⟩ := hfree index hi
    have hsame := slot?_setOccupant handle ⟨index, 0⟩ occupant ready
    rw [if_neg hne] at hsame
    exact ⟨vacant, hsame.trans hv, he⟩

end Admitted

/-! ## Adding -/

inductive Refusal (registry : Registry ε) : BridgeError → Prop
  | broken : registry.lockPoisoned = true → Refusal registry (.lockPoisoned .registry)
  | full : registry.config.maxSessions.toNat ≤ registry.live →
    Refusal registry (.capacityExhausted registry.config.maxSessions)
  | unclaimed : registry.claim? = none →
    Refusal registry (.capacityExhausted registry.config.maxSessions)

/-- How adding an engine can go, with the outcome and the registry after it. -/
inductive Added [Engine ε] (engine : ε) (registry : Registry ε) :
    Outcome BridgeError Handle → Registry ε → Prop
  | refused {cause : BridgeError} :
    Refusal registry cause →
    Added engine registry (.error cause)
      { registry with released := registry.released ++ [engine] }
  /-- The engine panics when it is asked how it numbers files. -/
  | unanswered {handle : Handle} {ready : Registry ε} {left : ε} :
    Claimed registry handle ready → Engine.perform .addressing engine = (none, left) →
    registry.live < registry.config.maxSessions.toNat →
    Added engine registry .panic
      { ready with lockPoisoned := true, released := ready.released ++ [left] }
  /-- The engine panics when it is asked for notifications. -/
  | unsubscribed {handle : Handle} {ready : Registry ε} {addressing : Addressing} {asked left : ε} :
    registry.lockPoisoned = false → Claimed registry handle ready →
    Engine.perform .addressing engine = (some addressing, asked) →
    Session.subscribe NotificationKind.all asked = (false, left) →
    registry.live < registry.config.maxSessions.toNat →
    Added engine registry .panic
      (ready.admitted handle
        ⟨.created, { Session.opened handle left addressing registry.config.warnThreshold with
          lockPoisoned := true }⟩ (registry.live + 1))
  | active {handle : Handle} {ready : Registry ε} {addressing : Addressing} {asked left : ε} :
    registry.lockPoisoned = false → Claimed registry handle ready →
    Engine.perform .addressing engine = (some addressing, asked) →
    Session.subscribe NotificationKind.all asked = (true, left) →
    registry.live < registry.config.maxSessions.toNat →
    Added engine registry (.ok handle)
      (ready.admitted handle
        ⟨.active, Session.opened handle left addressing registry.config.warnThreshold⟩
        (registry.live + 1))

theorem Claimed.config_eq {registry ready : Registry ε} {handle : Handle}
    (claimed : Claimed registry handle ready) : ready.config = registry.config := by
  cases claimed <;> rfl

theorem Claimed.live_eq {registry ready : Registry ε} {handle : Handle}
    (claimed : Claimed registry handle ready) : ready.live = registry.live := by
  cases claimed <;> rfl

private theorem moveIn_of_claimed [Engine ε] {engine asked : ε} {registry ready : Registry ε}
    {handle : Handle} {addressing : Addressing}
    (hfull : ¬ registry.config.maxSessions.toNat ≤ registry.live)
    (hc : registry.claim? = some (handle, ready))
    (ha : Engine.perform .addressing engine = (some addressing, asked)) :
    moveIn engine registry =
      ⟨.ok handle,
        ready.admitted handle
          ⟨.created, Session.opened handle asked addressing registry.config.warnThreshold⟩
          (registry.live + 1),
        [⟨.debug, "session created", [handle.logField]⟩]⟩ := by
  have claimed := claimed_of_claim? hc
  simp only [moveIn, hfull, if_false, hc, ha, claimed.config_eq, claimed.live_eq, admitted]

section Subscribe

variable [Engine ε] {asked left : ε}

private theorem subscribeAll_opened
    (hs : Session.subscribe NotificationKind.all asked = (true, left)) (handle : Handle)
    (addressing : Addressing) (threshold : UInt64) :
    Session.subscribeAll (Session.opened handle asked addressing threshold) =
      ⟨.ok (), Session.opened handle left addressing threshold, []⟩ := by
  simp [Session.subscribeAll, Session.opened, hs]

private theorem subscribeAll_opened_of_panic
    (hs : Session.subscribe NotificationKind.all asked = (false, left)) (handle : Handle)
    (addressing : Addressing) (threshold : UInt64) :
    Session.subscribeAll (Session.opened handle asked addressing threshold) =
      ⟨.panic, { Session.opened handle left addressing threshold with lockPoisoned := true },
        []⟩ := by
  simp [Session.subscribeAll, Session.opened, hs]

end Subscribe

theorem added_add [Engine ε] (engine : ε) (registry : Registry ε) :
    Added engine registry (add engine registry).outcome (add engine registry).state := by
  unfold add
  cases hl : registry.lockPoisoned with
  | true =>
    simp only [Run.attempt, lock_of_broken hl, discard, Run.bind_apply, Run.andThen_ok,
      Run.modify_apply, Run.fail_apply]
    exact .refused (.broken hl)
  | false =>
    simp only [Run.attempt, lock_of_healthy hl, Run.bind_apply, Run.andThen_ok]
    by_cases hfull : registry.config.maxSessions.toNat ≤ registry.live
    · simp only [moveIn, hfull, if_true, Run.andThen_error]
      exact .refused (.full hfull)
    cases hc : registry.claim? with
    | none =>
      simp only [moveIn, hfull, if_false, hc, Run.andThen_error]
      exact .refused (.unclaimed hc)
    | some claim =>
      obtain ⟨handle, ready⟩ := claim
      have claimed := claimed_of_claim? hc
      rcases ha : Engine.perform .addressing engine with ⟨answer, asked⟩
      cases answer with
      | none =>
        simp only [moveIn, hfull, if_false, hc, ha, Run.andThen_panic]
        exact .unanswered claimed ha (Nat.lt_of_not_le hfull)
      | some addressing =>
        rcases hs : Session.subscribe NotificationKind.all asked with ⟨went, left⟩
        simp only [moveIn_of_claimed hfull hc ha, Run.andThen_ok, Run.get_apply, Run.bind_apply,
          occupant?_admitted claimed, onSession]
        cases went with
        | false =>
          simp only [subscribeAll_opened_of_panic hs, setOccupant_admitted, Run.andThen_panic]
          exact .unsubscribed hl claimed ha hs (Nat.lt_of_not_le hfull)
        | true =>
          simp only [subscribeAll_opened hs, setOccupant_admitted, Run.bind_apply, Run.andThen_ok,
            Run.modify_apply, log, Run.log_apply, setState_admitted claimed, Run.pure_apply]
          exact .active hl claimed ha hs (Nat.lt_of_not_le hfull)

end Registry

end Switchboard
