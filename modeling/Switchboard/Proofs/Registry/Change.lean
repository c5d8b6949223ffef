import Switchboard.Proofs.Registry.Operations
/-!
# Changes

What operations other than adding do to a registry comes down to five changes (`Change`): an active
session is used, a session is killed, one whose lock is broken counts as killed, a killed one
leaves, or nothing happens. The changes say what becomes of the session and of its engine, so that
what is to hold in every run has to be shown for these five alone. An operation under one handle
makes its changes there (`ChangeAt`).
-/

namespace Switchboard

namespace Session

variable {ε : Type}

/-- What somebody who uses a session makes of it. -/
inductive Used : Session ε → Session ε → Prop
  | held {α : Type} (operation : Held ε α) (session : Session ε) :
    Used session (hold operation session).state
  | drained (session : Session ε) : Used session (drain session).state

/-- Whoever holds a session gives its engine back, in whatever state. -/
theorem engine_isSome_hold {α : Type} (operation : Held ε α) (session : Session ε) :
    (hold operation session).state.engine.isSome = session.engine.isSome := by
  unfold hold
  split
  · rfl
  · split
    · rfl
    · cases h : session.engine with
      | none => simp [h]
      | some engine => rfl

/-- Use takes no engine away and brings none. -/
theorem Used.engine_isSome {session next : Session ε} (used : Used session next) :
    next.engine.isSome = session.engine.isSome := by
  cases used with
  | held operation => exact engine_isSome_hold operation session
  | drained =>
    unfold drain
    split <;> rfl

end Session

namespace Registry

variable {ε α : Type}

/-- What operations other than adding do to a registry. -/
inductive Change : Registry ε → Registry ε → Prop
  | refl (registry : Registry ε) : Change registry registry
  | used {registry : Registry ε} {handle : Handle} {occupant : Occupant ε} {next : Session ε} :
    registry.occupant? handle = some occupant → occupant.state = .active →
    occupant.session.Used next →
    Change registry (registry.setOccupant handle { occupant with session := next })
  | killed {registry : Registry ε} {handle : Handle} {occupant : Occupant ε} :
    registry.occupant? handle = some occupant →
    occupant.state = .created ∨ occupant.state = .active →
    occupant.session.lockPoisoned = false →
    Change registry
      { registry.setOccupant handle
          ⟨.killed, { occupant.session with engine := none, transfers := none }⟩ with
        released := registry.released ++ occupant.session.engine.toList }
  /-- The lock of the session is broken, so its engine stays where it is. -/
  | kept {registry : Registry ε} {handle : Handle} {occupant : Occupant ε} :
    registry.occupant? handle = some occupant →
    occupant.state = .created ∨ occupant.state = .active →
    occupant.session.lockPoisoned = true →
    Change registry (registry.setOccupant handle { occupant with state := .killed })
  | vacated {registry : Registry ε} {handle : Handle} {occupant : Occupant ε} :
    registry.occupant? handle = some occupant → occupant.state = .killed →
    Change registry (registry.vacate handle)
  | trans {first second third : Registry ε} :
    Change first second → Change second third → Change first third

/-- What operations under one handle do to a registry, if whoever uses the session there makes of it
what `uses` allows. -/
inductive ChangeAt (uses : Session ε → Session ε → Prop) (handle : Handle) :
    Registry ε → Registry ε → Prop
  | refl (registry : Registry ε) : ChangeAt uses handle registry registry
  | used {registry : Registry ε} {occupant : Occupant ε} {next : Session ε} :
    registry.occupant? handle = some occupant → occupant.state = .active →
    uses occupant.session next →
    ChangeAt uses handle registry (registry.setOccupant handle { occupant with session := next })
  | killed {registry : Registry ε} {occupant : Occupant ε} :
    registry.occupant? handle = some occupant →
    occupant.state = .created ∨ occupant.state = .active →
    occupant.session.lockPoisoned = false →
    ChangeAt uses handle registry
      { registry.setOccupant handle
          ⟨.killed, { occupant.session with engine := none, transfers := none }⟩ with
        released := registry.released ++ occupant.session.engine.toList }
  | kept {registry : Registry ε} {occupant : Occupant ε} :
    registry.occupant? handle = some occupant →
    occupant.state = .created ∨ occupant.state = .active →
    occupant.session.lockPoisoned = true →
    ChangeAt uses handle registry (registry.setOccupant handle { occupant with state := .killed })
  | vacated {registry : Registry ε} {occupant : Occupant ε} :
    registry.occupant? handle = some occupant → occupant.state = .killed →
    ChangeAt uses handle registry (registry.vacate handle)
  | trans {first second third : Registry ε} :
    ChangeAt uses handle first second → ChangeAt uses handle second third →
    ChangeAt uses handle first third

theorem ChangeAt.change {uses : Session ε → Session ε → Prop}
    (h : ∀ session next, uses session next → session.Used next) {handle : Handle}
    {first second : Registry ε} (change : ChangeAt uses handle first second) :
    Change first second := by
  induction change with
  | refl registry => exact .refl registry
  | used ho ha hu => exact .used ho ha (h _ _ hu)
  | killed ho hs hp => exact .killed ho hs hp
  | kept ho hs hp => exact .kept ho hs hp
  | vacated ho hk => exact .vacated ho hk
  | trans _ _ ih₁ ih₂ => exact ih₁.trans ih₂

/-! ## One session -/

section One

variable {uses : Session ε → Session ε → Prop}

theorem changeAt_withSession (handle : Handle) (operation : Held ε α)
    (h : ∀ session, uses session (Session.hold operation session).state) :
    Run.Moves (ChangeAt uses handle) (withSession handle operation) := by
  intro registry
  cases hl : registry.lockPoisoned with
  | true =>
    simp only [withSession, Run.mapError, Run.bind_apply, active_of_broken hl, Run.andThen_error]
    exact .refl registry
  | false =>
    by_cases hs : registry.state? handle = some .active
    · obtain ⟨occupant, ho, ha⟩ := occupant?_of_active hs
      rw [withSession_of_active hl ho ha]
      exact .used ho ha (h occupant.session)
    · rw [withSession_of_inactive hl hs]
      exact .refl registry

theorem changeAt_drain (handle : Handle)
    (h : ∀ session, uses session (Session.drain session).state) :
    Run.Moves (ChangeAt uses handle) (drain handle : Op ε Batch) := by
  intro registry
  cases hl : registry.lockPoisoned with
  | true =>
    simp only [drain, Run.bind_apply, active_of_broken hl, Run.andThen_error]
    exact .refl registry
  | false =>
    by_cases hs : registry.state? handle = some .active
    · obtain ⟨occupant, ho, ha⟩ := occupant?_of_active hs
      rw [drain_of_active hl ho ha]
      exact .used ho ha (h occupant.session)
    · rw [drain_of_inactive hl hs]
      exact .refl registry

theorem changeAt_kill (handle : Handle) :
    Run.Moves (ChangeAt uses handle) (kill handle : Op ε Unit) := by
  intro registry
  cases hl : registry.lockPoisoned with
  | true =>
    rw [kill_of_broken hl]
    exact .refl registry
  | false =>
    cases ho : registry.occupant? handle with
    | none =>
      rw [kill_of_absent hl ho]
      exact .refl registry
    | some occupant =>
      by_cases hs : occupant.state = .created ∨ occupant.state = .active
      · cases hp : occupant.session.lockPoisoned with
        | true =>
          rw [(kill_of_live_broken hl ho hs hp).2]
          exact .kept ho hs hp
        | false =>
          rw [(kill_of_live hl ho hs hp).2]
          exact .killed ho hs hp
      · have hg : occupant.state = .killed ∨ occupant.state = .finalized := by
          cases h : occupant.state <;> simp_all
        rw [(kill_of_gone hl ho hg).2]
        exact .refl registry

/-- A kill that goes well leaves a killed session behind. -/
theorem occupant?_kill {registry : Registry ε} {handle : Handle}
    (h : (kill handle registry).outcome = .ok ()) :
    ∃ occupant, (kill handle registry).state.occupant? handle = some occupant ∧
      occupant.state = .killed := by
  have hkills := kills_kill handle registry
  generalize (kill handle registry).outcome = outcome, (kill handle registry).state = next
    at hkills h ⊢
  cases hkills with
  | refused => cases h
  | kept => cases h
  | @released occupant session released ho =>
    obtain ⟨slot, hs, hg, -⟩ := occupant?_eq_some.mp ho
    exact ⟨⟨.killed, session⟩, occupant?_setOccupant hs hg _, rfl⟩

theorem changeAt_finalize (handle : Handle) :
    Run.Moves (ChangeAt uses handle) (finalize handle : Op ε Unit) := by
  intro registry
  cases hl : registry.lockPoisoned with
  | true =>
    rw [finalize_of_broken hl]
    exact .refl registry
  | false =>
    cases ho : registry.occupant? handle with
    | none =>
      cases hi : registry.wasIssued handle with
      | true =>
        rw [(finalize_of_finalized hl ho hi).2]
        exact .refl registry
      | false =>
        rw [finalize_of_unknown hl ho hi]
        exact .refl registry
    | some occupant =>
      by_cases hs : occupant.state = .killed
      · rw [(finalize_of_killed hl ho hs).2]
        exact .vacated ho hs
      · rw [(finalize_of_not_killed hl ho hs).2]
        have hk : ChangeAt uses handle registry (kill handle registry).state :=
          changeAt_kill handle registry
        split
        · rename_i he
          obtain ⟨killed, hf, hd⟩ := occupant?_kill he
          exact hk.trans (.vacated hf hd)
        · exact hk

end One

theorem change_withSession (handle : Handle) (operation : Held ε α) :
    Run.Moves Change (withSession handle operation) := fun registry =>
  ChangeAt.change (fun _ _ used => used)
    (changeAt_withSession handle operation (fun session => .held operation session) registry)

theorem change_drain (handle : Handle) : Run.Moves Change (drain handle : Op ε Batch) :=
  fun registry => ChangeAt.change (fun _ _ used => used)
    (changeAt_drain handle (fun session => .drained session) registry)

theorem change_kill (handle : Handle) : Run.Moves Change (kill handle : Op ε Unit) :=
  fun registry => ChangeAt.change (fun _ _ used => used) (changeAt_kill handle registry)

theorem change_finalize (handle : Handle) : Run.Moves Change (finalize handle : Op ε Unit) :=
  fun registry => ChangeAt.change (fun _ _ used => used) (changeAt_finalize handle registry)

/-! ## All sessions -/

section All

variable {R : Registry ε → Registry ε → Prop} (refl : ∀ registry, R registry registry)
  (trans : ∀ {first second third}, R first second → R second third → R first third)
  (killed : ∀ handle, Run.Moves R (kill handle : Op ε Unit))
  (finalized : ∀ handle, Run.Moves R (finalize handle : Op ε Unit))
include refl trans killed finalized

theorem moves_shutdownOne (handle : Handle) (state : Lifecycle) :
    Run.Moves R (shutdownOne handle state : Op ε Bool) := by
  unfold shutdownOne
  split
  · refine Run.Moves.attempt_bind (R := R) trans (killed handle) (fun _ => ?_) fun _ => ?_
    · refine Run.Moves.attempt_bind (R := R) trans (finalized handle) (fun _ => refl) fun _ => ?_
      exact Run.Moves.bind (R := R) trans refl fun _ => refl
    · refine Run.Moves.bind (R := R) trans refl fun _ => ?_
      refine Run.Moves.attempt_bind (R := R) trans (finalized handle) (fun _ => refl) fun _ => ?_
      exact Run.Moves.bind (R := R) trans refl fun _ => refl
  · refine Run.Moves.attempt_bind (R := R) trans (finalized handle) (fun _ => refl) fun _ => ?_
    exact Run.Moves.bind (R := R) trans refl fun _ => refl

private theorem moves_shutdownEach (sessions : List (Handle × Lifecycle)) :
    Run.Moves R (shutdownEach sessions : Op ε Nat) := by
  induction sessions with
  | nil => exact refl
  | cons session rest ih =>
    obtain ⟨handle, state⟩ := session
    refine Run.Moves.bind (R := R) trans
      (moves_shutdownOne refl trans killed finalized handle state) fun gone => ?_
    exact Run.Moves.bind (R := R) trans ih fun others => refl

theorem moves_shutdown : Run.Moves R (shutdown : Op ε Nat) := by
  intro registry
  refine Run.Moves.bind (R := R) trans
    (moves_shutdownEach refl trans killed finalized registry.handles) (fun reclaimed => ?_) registry
  by_cases hr : 0 < reclaimed
  · simp only [hr, if_true]
    exact fun registry => refl registry
  · simp only [hr, if_false]
    exact fun registry => refl registry

end All

theorem change_shutdown : Run.Moves Change (shutdown : Op ε Nat) :=
  moves_shutdown .refl .trans change_kill change_finalize

end Registry

end Switchboard
