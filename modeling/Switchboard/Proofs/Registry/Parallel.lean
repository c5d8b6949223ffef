import Switchboard.Guard
import Switchboard.Proofs.Registry.Slots
import Switchboard.Proofs.Session.Parallel
/-!
# Registries side by side

What an operation does to two registries at once, possibly of different kinds of engines, whose
sessions are related slot by slot (`Pair`). As long as what is done to sessions preserves their
relation, the operations of the registry preserve it too, and end alike.
-/

namespace Switchboard

private theorem map_eq_of_rel {α β γ : Type} {r : α → β → Prop} {g : α → γ} {h : β → γ}
    {a : Option α} {b : Option β} (rel : Option.Rel r a b) (same : ∀ x y, r x y → g x = h y) :
    a.map g = b.map h := by
  cases rel with
  | none => rfl
  | some hr => exact congrArg some (same _ _ hr)

namespace Registry

variable {ε δ α : Type}

/-! ## Registries that are related slot by slot -/

structure OccupantPair (S : Session ε → Session δ → Prop) (first : Occupant ε)
    (second : Occupant δ) : Prop where
  state : first.state = second.state
  session : S first.session second.session

structure SlotPair (S : Session ε → Session δ → Prop) (first : Slot ε) (second : Slot δ) :
    Prop where
  generation : first.generation = second.generation
  retired : first.retired = second.retired
  occupant : Option.Rel (OccupantPair S) first.occupant second.occupant

/-- The registries are the same but for their sessions, which are related, and their engines, which
`f` tells of each other. -/
structure Pair (S : Session ε → Session δ → Prop) (f : ε → δ) (first : Registry ε)
    (second : Registry δ) : Prop where
  config : first.config = second.config
  slots : ∀ i : Nat, Option.Rel (SlotPair S) first.slots[i]? second.slots[i]?
  length : first.slots.length = second.slots.length
  free : first.free = second.free
  live : first.live = second.live
  lockPoisoned : first.lockPoisoned = second.lockPoisoned
  released : second.released = first.released.map f

section Pair

variable {S : Session ε → Session δ → Prop} {f : ε → δ} {first : Registry ε}
  {second : Registry δ}

theorem Pair.occupant? (pair : Pair S f first second) (handle : Handle) :
    Option.Rel (OccupantPair S) (first.occupant? handle) (second.occupant? handle) := by
  have slot := pair.slots handle.slot.toNat
  simp only [Registry.occupant?, slot?]
  generalize first.slots[handle.slot.toNat]? = s, second.slots[handle.slot.toNat]? = t at slot
  cases slot with
  | none => exact .none
  | some h =>
    simp only [h.generation]
    split
    · exact h.occupant
    · exact .none

theorem Pair.lookup (pair : Pair S f first second) (handle : Handle) :
    (first.occupant? handle = none ∧ second.occupant? handle = none) ∨
      ∃ occupant occupant', first.occupant? handle = some occupant ∧
        second.occupant? handle = some occupant' ∧ OccupantPair S occupant occupant' := by
  have occupant := pair.occupant? handle
  generalize first.occupant? handle = s, second.occupant? handle = t at occupant
  cases occupant with
  | none => exact .inl ⟨rfl, rfl⟩
  | some h => exact .inr ⟨_, _, rfl, rfl, h⟩

theorem Pair.wasIssued (pair : Pair S f first second) (handle : Handle) :
    first.wasIssued handle = second.wasIssued handle := by
  have slot := pair.slots handle.slot.toNat
  simp only [Registry.wasIssued, slot?]
  generalize first.slots[handle.slot.toNat]? = s, second.slots[handle.slot.toNat]? = t at slot
  cases slot with
  | none => rfl
  | some h => simp only [h.generation, h.retired]

theorem Pair.state? (pair : Pair S f first second) (handle : Handle) :
    first.state? handle = second.state? handle := by
  have occupant := pair.occupant? handle
  simp only [Registry.state?, pair.wasIssued handle]
  generalize first.occupant? handle = s, second.occupant? handle = t at occupant
  cases occupant with
  | none => rfl
  | some h => exact congrArg some h.state

/-- What a slot shows of itself without its session. -/
def Slot.outline {ε : Type} (slot : Slot ε) : UInt32 × Option Lifecycle :=
  (slot.generation, slot.occupant.map (·.state))

private theorem handles_eq (registry : Registry ε) :
    registry.handles = (registry.slots.map Slot.outline).zipIdx.filterMap fun (outline, index) =>
      outline.2.map fun state => (⟨UInt32.ofNat index, outline.1⟩, state) := by
  rw [handles, List.zipIdx_map, List.filterMap_map]
  refine congrArg (fun g => registry.slots.zipIdx.filterMap g) (funext fun slot => ?_)
  simp [Slot.outline, Option.map_map, Function.comp_def]

theorem Pair.handles (pair : Pair S f first second) : first.handles = second.handles := by
  have outline : ∀ (slot : Slot ε) (slot' : Slot δ), SlotPair S slot slot' →
      slot.outline = slot'.outline := fun slot slot' h =>
    Prod.ext h.generation (map_eq_of_rel h.occupant fun _ _ hs => hs.state)
  have outlines : first.slots.map Slot.outline = second.slots.map Slot.outline := by
    refine List.ext_getElem? fun i => ?_
    rw [List.getElem?_map, List.getElem?_map]
    exact map_eq_of_rel (pair.slots i) outline
  rw [handles_eq, handles_eq, outlines]

/-- A slot is set on both sides. -/
theorem Pair.set (pair : Pair S f first second) (index : Nat) {slot : Slot ε} {slot' : Slot δ}
    (h : SlotPair S slot slot') :
    Pair S f { first with slots := first.slots.set index slot }
      { second with slots := second.slots.set index slot' } where
  config := pair.config
  slots i := by
    simp only [List.getElem?_set, pair.length]
    split
    · split
      · exact .some h
      · exact .none
    · exact pair.slots i
  length := by simp only [List.length_set, pair.length]
  free := pair.free
  live := pair.live
  lockPoisoned := pair.lockPoisoned
  released := pair.released

theorem Pair.setOccupant (pair : Pair S f first second) (handle : Handle) {occupant : Occupant ε}
    {occupant' : Occupant δ} (h : OccupantPair S occupant occupant') :
    Pair S f (first.setOccupant handle occupant) (second.setOccupant handle occupant') := by
  have slot := pair.slots handle.slot.toNat
  simp only [Registry.setOccupant, slot?]
  generalize first.slots[handle.slot.toNat]? = s, second.slots[handle.slot.toNat]? = t at slot
  cases slot with
  | none => exact pair
  | some hs => exact pair.set _ ⟨hs.generation, hs.retired, .some h⟩

theorem Pair.setState (pair : Pair S f first second) (handle : Handle) (state : Lifecycle) :
    Pair S f (first.setState handle state) (second.setState handle state) := by
  have occupant := pair.occupant? handle
  simp only [Registry.setState]
  generalize first.occupant? handle = s, second.occupant? handle = t at occupant
  cases occupant with
  | none => exact pair
  | some h => exact pair.setOccupant handle ⟨rfl, h.session⟩

private theorem slotPair_vacated {slot : Slot ε} {slot' : Slot δ} (h : SlotPair S slot slot') :
    SlotPair S slot.vacated slot'.vacated := by
  simp only [Slot.vacated, h.generation]
  split
  · exact ⟨rfl, rfl, .none⟩
  · exact ⟨rfl, h.retired, .none⟩

/-- A slot is emptied on both sides. -/
theorem Pair.vacate (engines : ∀ s t, S s t → t.engine = s.engine.map f)
    (pair : Pair S f first second) (handle : Handle) :
    Pair S f (first.vacate handle) (second.vacate handle) := by
  have slot := pair.slots handle.slot.toNat
  have occupant := pair.occupant? handle
  simp only [Registry.vacate, slot?]
  generalize first.slots[handle.slot.toNat]? = s, second.slots[handle.slot.toNat]? = t at slot
  generalize first.occupant? handle = o, second.occupant? handle = o' at occupant
  cases slot with
  | none => exact pair
  | some hslot =>
    cases occupant with
    | none => exact pair
    | some hoccupant =>
      have set := pair.set handle.slot.toNat (slotPair_vacated hslot)
      refine ⟨set.config, set.slots, set.length, ?_, congrArg (· - 1) pair.live, set.lockPoisoned,
        ?_⟩
      · simp only [hslot.generation, pair.free]
      · simp only [pair.released, engines _ _ hoccupant.session, List.map_append,
          Option.toList_map]

/-- Engines go on both sides. -/
theorem Pair.release (pair : Pair S f first second) (gone : List ε) :
    Pair S f { first with released := first.released ++ gone }
      { second with released := second.released ++ gone.map f } where
  config := pair.config
  slots := pair.slots
  length := pair.length
  free := pair.free
  live := pair.live
  lockPoisoned := pair.lockPoisoned
  released := by simp only [pair.released, List.map_append]

/-- The next session finds the same slot on both sides. -/
theorem Pair.claim? (pair : Pair S f first second) :
    Option.Rel (fun claimed claimed' => claimed.1 = claimed'.1 ∧ Pair S f claimed.2 claimed'.2)
      first.claim? second.claim? := by
  simp only [Registry.claim?, ← pair.free, ← pair.length]
  cases first.free with
  | cons index rest =>
    have slot := pair.slots index.toNat
    dsimp only
    generalize first.slots[index.toNat]? = s, second.slots[index.toNat]? = t at slot
    cases slot with
    | none => exact .none
    | some h =>
      exact .some ⟨congrArg (Handle.mk index) h.generation,
        ⟨pair.config, pair.slots, pair.length, rfl, pair.live, pair.lockPoisoned, pair.released⟩⟩
  | nil =>
    dsimp only
    split
    · refine .some ⟨rfl, pair.config, fun i => ?_, ?_, rfl, pair.live, pair.lockPoisoned,
        pair.released⟩
      · simp only [List.getElem?_append, ← pair.length]
        split
        · exact pair.slots i
        · cases i - first.slots.length with
          | zero => exact .some ⟨rfl, rfl, .none⟩
          | succ n => exact .none
      · simp only [List.length_append, pair.length, List.length_singleton]
    · exact .none

end Pair

/-! ## Operations -/

section Operations

variable {S : Session ε → Session δ → Prop} {f : ε → δ} {handle : Handle}

private theorem Pair.agree_lock : Run.Agree (Pair S f) lock lock := by
  intro first second pair
  simp only [lock, pair.lockPoisoned]
  split <;> exact ⟨rfl, pair⟩

theorem Pair.agree_log {E : Type} (level : Log.Level) (message : String) (handle : Handle)
    (fields : List (String × Log.Value)) :
    Run.Agree (Pair S f) (log (δ := E) level message handle fields)
      (log (δ := E) level message handle fields) := .log _ _ _

private theorem Pair.agree_discard {E : Type} {engine : Option ε} {engine' : Option δ}
    (h : engine' = engine.map f) :
    Run.Agree (Pair S f) (discard (δ := E) engine) (discard (δ := E) engine') := by
  refine .modify fun first second pair => ?_
  rw [h, Option.toList_map]
  exact pair.release _

private theorem Pair.mirror_onSession {E β : Type} {W : α → β → Prop} {occupant : Occupant ε}
    {occupant' : Occupant δ} (h : OccupantPair S occupant occupant')
    {operation : Run (Session ε) E α} {operation' : Run (Session δ) E β}
    (hop : Run.Mirror S W operation operation') :
    Run.Mirror (Pair S f) W (onSession handle occupant operation)
      (onSession handle occupant' operation') := by
  intro first second pair
  obtain ⟨ho, hs⟩ := hop _ _ h.session
  exact ⟨ho, pair.setOccupant handle ⟨h.state, hs⟩⟩

private theorem Pair.agree_onSession {E : Type} {occupant : Occupant ε} {occupant' : Occupant δ}
    (h : OccupantPair S occupant occupant') {operation : Run (Session ε) E α}
    {operation' : Run (Session δ) E α} (hop : Run.Agree S operation operation') :
    Run.Agree (Pair S f) (onSession handle occupant operation)
      (onSession handle occupant' operation') :=
  Run.mirror_eq.mp (Pair.mirror_onSession h (Run.mirror_eq.mpr hop))

/-! ### Use -/

private theorem Pair.mirror_active :
    Run.Mirror (Pair S f) (OccupantPair S) (active handle) (active handle) := by
  refine Pair.agree_lock.bind_mirror fun _ => Run.Mirror.get.bind fun first second pair => ?_
  rcases pair.lookup handle with ⟨hs, ht⟩ | ⟨occupant, occupant', hs, ht, h⟩
  · simp only [hs, ht]
    exact .fail _
  · simp only [hs, ht, h.state]
    split
    · exact .pure h
    · exact .fail _

theorem Pair.agree_withSession {first : Held ε α} {second : Held δ α}
    (h : Run.Agree S (Session.hold first) (Session.hold second)) :
    Run.Agree (Pair S f) (withSession handle first) (withSession handle second) :=
  (Pair.mirror_active.mapError _).bind_agree fun _ _ occupant => Pair.agree_onSession occupant h

theorem Pair.mirror_drain {V : Batch → Batch → Prop}
    (h : Run.Mirror S V (Session.drain (ε := ε)) (Session.drain (ε := δ))) :
    Run.Mirror (Pair S f) V (drain handle) (drain handle) :=
  Pair.mirror_active.bind fun _ _ occupant => Pair.mirror_onSession occupant h

/-! ### Removal -/

/-- Taking the engine out of a session preserves the relation. -/
abbrev Releases (S : Session ε → Session δ → Prop) (f : ε → δ) : Prop :=
  Run.Mirror S (fun engine engine' => engine' = engine.map f) Session.release Session.release

theorem Pair.agree_kill (releases : Releases S f) :
    Run.Agree (Pair S f) (kill handle) (kill handle) := by
  refine Pair.agree_lock.bind fun _ => Run.Mirror.get.bind_agree fun first second pair => ?_
  rcases pair.lookup handle with ⟨hs, ht⟩ | ⟨occupant, occupant', hs, ht, h⟩
  · simp only [hs, ht]
    exact .fail _
  · have killed : OccupantPair S { occupant with state := .killed }
        { occupant' with state := .killed } := ⟨rfl, h.session⟩
    have live : Run.Agree (Pair S f)
        (do
          Run.modify (Registry.setState handle .killed)
          let engine ← onSession handle { occupant with state := .killed } Session.release
          discard engine
          log (δ := BridgeError) .debug "session killed" handle [("released", .flag engine.isSome)])
        (do
          Run.modify (Registry.setState handle .killed)
          let engine ← onSession handle { occupant' with state := .killed } Session.release
          discard engine
          log .debug "session killed" handle [("released", .flag engine.isSome)]) := by
      refine .bind (.modify fun _ _ pair => pair.setState handle .killed) fun _ => ?_
      refine (Pair.mirror_onSession killed releases).bind_agree fun engine engine' same => ?_
      rw [same, Option.isSome_map]
      exact .bind (Pair.agree_discard rfl) fun _ => Pair.agree_log _ _ _ _
    simp only [hs, ht, ← h.state]
    cases occupant.state with
    | created => exact live
    | active => exact live
    | killed => exact .bind (Pair.agree_log _ _ _ _) fun _ => .fail _
    | finalized => exact .fail _

private theorem Pair.agree_reclaim (engines : ∀ s t, S s t → t.engine = s.engine.map f) :
    Run.Agree (Pair S f) (reclaim handle) (reclaim handle) := by
  refine .bind (.modify fun _ _ pair => pair.vacate engines handle) fun _ => ?_
  dsimp only
  split
  · exact .bind (Pair.agree_log _ _ _ _) fun _ => Pair.agree_log _ _ _ _
  · exact .bind (.pure ()) fun _ => Pair.agree_log _ _ _ _

theorem Pair.agree_finalize (engines : ∀ s t, S s t → t.engine = s.engine.map f)
    (releases : Releases S f) : Run.Agree (Pair S f) (finalize handle) (finalize handle) := by
  refine Pair.agree_lock.bind fun _ => Run.Mirror.get.bind_agree fun first second pair => ?_
  rcases pair.lookup handle with ⟨hs, ht⟩ | ⟨occupant, occupant', hs, ht, h⟩
  · simp only [hs, ht, pair.wasIssued handle]
    split
    · exact Pair.agree_log _ _ _ _
    · exact .fail _
  · simp only [hs, ht, h.state]
    split
    · exact .bind (Pair.agree_log _ _ _ _) fun _ => .bind (Pair.agree_kill releases) fun _ =>
        Pair.agree_reclaim engines
    · exact Pair.agree_reclaim engines

private theorem Pair.agree_shutdownOne (engines : ∀ s t, S s t → t.engine = s.engine.map f)
    (releases : Releases S f) (handle : Handle) (state : Lifecycle) :
    Run.Agree (Pair S f) (shutdownOne handle state) (shutdownOne handle state) := by
  have finalizes : Run.Agree (Pair S f) (shutdownOne handle .killed)
      (shutdownOne handle .killed) :=
    .attempt_bind (Pair.agree_finalize engines releases) (fun _ => .pure true) fun _ =>
      .bind (Pair.agree_log _ _ _ _) fun _ => .pure false
  unfold shutdownOne
  split
  · exact .attempt_bind (Pair.agree_kill releases) (fun _ => finalizes) fun _ =>
      .bind (Pair.agree_log _ _ _ _) fun _ => finalizes
  · exact finalizes

private theorem Pair.agree_shutdownEach (engines : ∀ s t, S s t → t.engine = s.engine.map f)
    (releases : Releases S f) (handles : List (Handle × Lifecycle)) :
    Run.Agree (Pair S f) (shutdownEach handles) (shutdownEach handles) := by
  induction handles with
  | nil => exact .pure 0
  | cons entry rest ih =>
    exact .bind (Pair.agree_shutdownOne engines releases _ _) fun _ => .bind ih fun _ => .pure _

theorem Pair.agree_shutdown (engines : ∀ s t, S s t → t.engine = s.engine.map f)
    (releases : Releases S f) : Run.Agree (Pair S f) shutdown shutdown := by
  refine Run.Mirror.get.bind_agree fun first second pair => ?_
  rw [pair.handles]
  refine .bind (Pair.agree_shutdownEach engines releases _) fun reclaimed => ?_
  dsimp only
  split
  · exact .bind (.log _ _ _) fun _ => .pure reclaimed
  · exact .pure reclaimed

/-! ### Guards -/

private theorem Pair.agree_finish (engines : ∀ s t, S s t → t.engine = s.engine.map f)
    (releases : Releases S f) (guard : Guard) :
    Run.Agree (Pair S f) guard.finish guard.finish := by
  refine Run.Mirror.get.bind_agree fun first second pair => ?_
  rw [pair.state? guard.handle]
  split
  · exact .bind (Pair.agree_kill releases) fun _ => Pair.agree_finalize engines releases
  · exact Pair.agree_finalize engines releases

theorem Pair.agree_drop (engines : ∀ s t, S s t → t.engine = s.engine.map f)
    (releases : Releases S f) (guard : Guard) :
    Run.Agree (Pair S f) guard.drop guard.drop := by
  refine Run.Mirror.get.bind_agree fun first second pair => ?_
  rw [pair.state? guard.handle]
  split
  · refine .attempt_bind (Pair.agree_kill releases) (fun _ => ?_) fun _ =>
      .bind (Pair.agree_log _ _ _ _) fun _ => ?_
    all_goals
      exact .attempt_bind (Pair.agree_finalize engines releases) (fun _ => .pure ()) fun _ =>
        Pair.agree_log _ _ _ _
  · exact .attempt_bind (Pair.agree_finalize engines releases) (fun _ => .pure ()) fun _ =>
      Pair.agree_log _ _ _ _

theorem Pair.agree_close (engines : ∀ s t, S s t → t.engine = s.engine.map f)
    (releases : Releases S f) (guard : Guard) :
    Run.Agree (Pair S f) guard.close guard.close := by
  refine .bind (Pair.agree_finish engines releases guard).attempt fun finished => ?_
  refine .bind (Pair.agree_drop engines releases guard) fun _ => ?_
  cases finished with
  | ok value => exact .pure value
  | error cause => exact .fail cause

/-! ### Adding -/

variable [Engine ε] [Engine δ]

/-- Two engines are asked how they number files, and whatever they answer, sessions opened for them
are related. -/
def Opens (S : Session ε → Session δ → Prop) (f : ε → δ) (engine : ε) : Prop :=
  ∃ addressing addressing' asked,
    Engine.perform .addressing engine = (some addressing, asked) ∧
    Engine.perform .addressing (f engine) = (some addressing', f asked) ∧
    ∀ handle warnThreshold, S (Session.opened handle asked addressing warnThreshold)
      (Session.opened handle (f asked) addressing' warnThreshold)

private theorem Pair.agree_moveIn {engine : ε} (opens : Opens S f engine) :
    Run.Agree (Pair S f) (moveIn engine) (moveIn (f engine)) := by
  obtain ⟨addressing, addressing', asked, answered, answered', opened⟩ := opens
  intro first second pair
  have turned := pair.release [engine]
  have claimed := pair.claim?
  obtain ⟨config, slots, free, live, lockPoisoned, released⟩ := second
  obtain ⟨rfl, -, -, -, rfl, -, -⟩ := pair
  unfold moveIn
  dsimp only
  split
  · exact ⟨rfl, turned⟩
  · generalize first.claim? = s, Registry.claim? ⟨_, slots, _, _, _, _⟩ = t at claimed ⊢
    cases claimed with
    | none => exact ⟨rfl, turned⟩
    | @some claimed claimed' h =>
      obtain ⟨handle, ready⟩ := claimed
      obtain ⟨handle', ready'⟩ := claimed'
      obtain ⟨rfl, pair⟩ := h
      dsimp only at pair ⊢
      rw [answered, answered', ← pair.config]
      have occupant : OccupantPair S ⟨.created, _⟩ ⟨.created, _⟩ :=
        ⟨rfl, opened handle ready.config.warnThreshold⟩
      have moved := pair.setOccupant handle occupant
      exact ⟨rfl, moved.config, moved.slots, moved.length, moved.free,
        congrArg (· + 1) pair.live, moved.lockPoisoned, moved.released⟩

theorem Pair.agree_add (subscribes : Run.Agree S Session.subscribeAll Session.subscribeAll)
    {engine : ε} (opens : Opens S f engine) :
    Run.Agree (Pair S f) (add engine) (add (f engine)) := by
  refine .attempt_bind Pair.agree_lock (fun _ => ?_) fun cause =>
    .bind (Pair.agree_discard rfl) fun _ => .fail cause
  refine .bind (Pair.agree_moveIn opens) fun handle => ?_
  refine Run.Mirror.get.bind_agree fun first second pair => ?_
  rcases pair.lookup handle with ⟨hs, ht⟩ | ⟨occupant, occupant', hs, ht, h⟩
  · simp only [hs, ht]
    exact .fail _
  · simp only [hs, ht]
    exact .bind (Pair.agree_onSession h subscribes) fun _ =>
      .bind (.modify fun _ _ pair => pair.setState handle .active) fun _ =>
        .bind (Pair.agree_log _ _ _ _) fun _ => .pure handle

end Operations

end Registry

end Switchboard
