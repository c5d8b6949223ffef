import Switchboard.Proofs.Registry.Slots
import Switchboard.Proofs.Run
/-!
# What registry operations do

One statement for each way an operation can go, with its outcome and the registry it leaves. A
handle that names no active session is refused without any change (`withSession_of_inactive`,
`drain_of_inactive`), and so are kill and finalize where nobody lives. An operation on a session
either gets hold of it (`withSession_of_usable`) or leaves all as it is (`withSession_of_unusable`).
-/

namespace Switchboard

namespace Registry

variable {ε α : Type} {registry : Registry ε} {handle : Handle} {occupant : Occupant ε}

theorem lock_of_healthy (hl : registry.lockPoisoned = false) :
    lock registry = ⟨.ok (), registry, []⟩ := by
  simp [lock, hl]

theorem lock_of_broken (hl : registry.lockPoisoned = true) :
    lock registry = ⟨.error (.lockPoisoned .registry), registry, []⟩ := by
  simp [lock, hl]

/-! ## Use -/

private theorem active_of_active (hl : registry.lockPoisoned = false)
    (ho : registry.occupant? handle = some occupant) (ha : occupant.state = .active) :
    active handle registry = ⟨.ok occupant, registry, []⟩ := by
  simp [active, lock_of_healthy hl, ho, ha]

private theorem active_of_inactive (hl : registry.lockPoisoned = false)
    (hs : registry.state? handle ≠ some .active) :
    active handle registry = ⟨.error (.notFound handle), registry, []⟩ := by
  cases ho : registry.occupant? handle with
  | none => simp [active, lock_of_healthy hl, ho]
  | some occupant =>
    have ha : occupant.state ≠ .active := fun e => hs (by rw [state?_of_occupant ho, e])
    simp [active, lock_of_healthy hl, ho, ha]

theorem active_of_broken (hl : registry.lockPoisoned = true) :
    active handle registry = ⟨.error (.lockPoisoned .registry), registry, []⟩ := by
  simp [active, lock_of_broken hl]

theorem withSession_of_active (hl : registry.lockPoisoned = false)
    (ho : registry.occupant? handle = some occupant) (ha : occupant.state = .active)
    (operation : Held ε α) :
    withSession handle operation registry =
      ⟨(Session.hold operation occupant.session).outcome,
        registry.setOccupant handle
          { occupant with session := (Session.hold operation occupant.session).state },
        (Session.hold operation occupant.session).log⟩ := by
  simp [withSession, Run.mapError, active_of_active hl ho ha, onSession]

theorem withSession_of_inactive (hl : registry.lockPoisoned = false)
    (hs : registry.state? handle ≠ some .active) (operation : Held ε α) :
    withSession handle operation registry =
      ⟨.error (.bridge (.notFound handle)), registry, []⟩ := by
  simp [withSession, Run.mapError, active_of_inactive hl hs]

/-- An operation under the handle gets hold of this session. -/
structure Usable (handle : Handle) (held : HeldSession ε) (registry : Registry ε) : Prop where
  healthy : registry.lockPoisoned = false
  occupant :
    registry.occupant? handle = some ⟨.active, ⟨held.toCore, some held.engine, false⟩⟩
  able : held.violation = none

theorem withSession_of_usable {held : HeldSession ε} (usable : Usable handle held registry)
    (operation : Held ε α) :
    (withSession handle operation registry).outcome = (operation held).outcome ∧
      (withSession handle operation registry).log = (operation held).log ∧
      ∃ broken, ((operation held).outcome ≠ .panic → broken = false) ∧
        (withSession handle operation registry).state =
          registry.setOccupant handle
            ⟨.active, (operation held).state.toCore, some (operation held).state.engine,
              broken⟩ := by
  have hhold : ∃ broken, ((operation held).outcome ≠ .panic → broken = false) ∧
      Session.hold operation ⟨held.toCore, some held.engine, false⟩ =
        ⟨(operation held).outcome,
          ⟨(operation held).state.toCore, some (operation held).state.engine, broken⟩,
          (operation held).log⟩ := by
    have hself : (⟨held.toCore, held.engine⟩ : HeldSession ε) = held := rfl
    cases hran : (operation held).outcome with
    | ok value => exact ⟨false, fun _ => rfl, by simp [Session.hold, usable.able, hself, hran]⟩
    | error cause => exact ⟨false, fun _ => rfl, by simp [Session.hold, usable.able, hself, hran]⟩
    | panic =>
      exact ⟨true, fun hn => absurd rfl hn, by simp [Session.hold, usable.able, hself, hran]⟩
  obtain ⟨broken, hbroken, hheld⟩ := hhold
  rw [withSession_of_active usable.healthy usable.occupant rfl, hheld]
  exact ⟨rfl, rfl, broken, hbroken, rfl⟩

/-- Nothing happens where no session can be held. -/
theorem withSession_of_unusable (unusable : ∀ held, ¬ Usable handle held registry)
    (operation : Held ε α) :
    ∃ error, (∀ violation, error ≠ .contract violation) ∧
      withSession handle operation registry = ⟨.error (.bridge error), registry, []⟩ := by
  cases hl : registry.lockPoisoned with
  | true =>
    exact ⟨.lockPoisoned .registry, by simp,
      by simp [withSession, Run.mapError, active_of_broken hl]⟩
  | false =>
    by_cases hs : registry.state? handle = some .active
    · obtain ⟨⟨_, session⟩, ho, rfl⟩ := occupant?_of_active hs
      have hrefused : ∀ {error : BridgeError},
          Session.hold operation session = ⟨.error (.bridge error), session, []⟩ →
          withSession handle operation registry = ⟨.error (.bridge error), registry, []⟩ := by
        intro error hhold
        rw [withSession_of_active hl ho rfl, hhold]
        simp only [setOccupant_self ho]
      cases hp : session.lockPoisoned with
      | true =>
        exact ⟨.lockPoisoned .session, by simp, hrefused (by simp [Session.hold, hp])⟩
      | false =>
        cases hv : session.violation with
        | some violation =>
          exact ⟨.poisoned session.handle, by simp, hrefused (by simp [Session.hold, hp, hv])⟩
        | none =>
          cases he : session.engine with
          | none =>
            exact ⟨.notFound session.handle, by simp, hrefused (by simp [Session.hold, hp, hv, he])⟩
          | some engine =>
            refine absurd ⟨hl, ?_, hv⟩ (unusable ⟨session.toCore, engine⟩)
            rw [ho, ← he, ← hp]
    · exact ⟨.notFound handle, by simp, withSession_of_inactive hl hs operation⟩

theorem drain_of_active (hl : registry.lockPoisoned = false)
    (ho : registry.occupant? handle = some occupant) (ha : occupant.state = .active) :
    drain handle registry =
      ⟨(Session.drain occupant.session).outcome,
        registry.setOccupant handle
          { occupant with session := (Session.drain occupant.session).state },
        (Session.drain occupant.session).log⟩ := by
  simp [drain, active_of_active hl ho ha, onSession]

theorem drain_of_inactive (hl : registry.lockPoisoned = false)
    (hs : registry.state? handle ≠ some .active) :
    drain handle registry = ⟨.error (.notFound handle), registry, []⟩ := by
  simp [drain, active_of_inactive hl hs]

/-! ## Removal -/

theorem kill_of_broken (hl : registry.lockPoisoned = true) :
    kill handle registry = ⟨.error (.lockPoisoned .registry), registry, []⟩ := by
  simp [kill, lock_of_broken hl]

theorem kill_of_absent (hl : registry.lockPoisoned = false)
    (ho : registry.occupant? handle = none) :
    kill handle registry = ⟨.error (.notFound handle), registry, []⟩ := by
  simp [kill, lock_of_healthy hl, ho]

/-- A session that was killed is not killed again. -/
theorem kill_of_killed (hl : registry.lockPoisoned = false)
    (ho : registry.occupant? handle = some occupant) (hs : occupant.state = .killed) :
    (kill handle registry).outcome = .error (.contract (.alreadyKilled handle)) ∧
      (kill handle registry).state = registry := by
  simp [kill, lock_of_healthy hl, ho, hs, log]

/-- The state of the session in question is none that can be killed. -/
theorem kill_of_gone (hl : registry.lockPoisoned = false)
    (ho : registry.occupant? handle = some occupant)
    (hs : occupant.state = .killed ∨ occupant.state = .finalized) :
    (∃ cause, (kill handle registry).outcome = .error cause) ∧
      (kill handle registry).state = registry := by
  rcases hs with hs | hs
  · obtain ⟨herror, hsame⟩ := kill_of_killed hl ho hs
    exact ⟨⟨_, herror⟩, hsame⟩
  · simp [kill, lock_of_healthy hl, ho, hs]

/-- A session that lives is killed, and its engine released. -/
theorem kill_of_live (hl : registry.lockPoisoned = false)
    (ho : registry.occupant? handle = some occupant)
    (hs : occupant.state = .created ∨ occupant.state = .active)
    (hp : occupant.session.lockPoisoned = false) :
    (kill handle registry).outcome = .ok () ∧
      (kill handle registry).state =
        { registry.setOccupant handle
            ⟨.killed, { occupant.session with engine := none, transfers := none }⟩ with
          released := registry.released ++ occupant.session.engine.toList } := by
  rcases hs with hs | hs
  · simp [kill, lock_of_healthy hl, ho, hs, setState, onSession, Session.release, hp, discard, log,
      setOccupant_setOccupant]
  · simp [kill, lock_of_healthy hl, ho, hs, setState, onSession, Session.release, hp, discard, log,
      setOccupant_setOccupant]

/-- If the lock of the session is broken, it counts as killed but keeps its engine. -/
theorem kill_of_live_broken (hl : registry.lockPoisoned = false)
    (ho : registry.occupant? handle = some occupant)
    (hs : occupant.state = .created ∨ occupant.state = .active)
    (hp : occupant.session.lockPoisoned = true) :
    (kill handle registry).outcome = .error (.lockPoisoned .session) ∧
      (kill handle registry).state =
        registry.setOccupant handle { occupant with state := .killed } := by
  rcases hs with hs | hs
  · simp [kill, lock_of_healthy hl, ho, hs, setState, onSession, Session.release, hp,
      setOccupant_setOccupant]
  · simp [kill, lock_of_healthy hl, ho, hs, setState, onSession, Session.release, hp,
      setOccupant_setOccupant]

/-- How a kill can go, with the outcome and the registry it leaves. -/
inductive Kills (handle : Handle) (registry : Registry ε) :
    Outcome BridgeError Unit → Registry ε → Prop
  | refused {cause : BridgeError} :
    (∀ occupant, registry.occupant? handle = some occupant → registry.lockPoisoned = false →
      occupant.state = .killed ∨ occupant.state = .finalized) →
    Kills handle registry (.error cause) registry
  /-- The lock of the session is broken. -/
  | kept {occupant : Occupant ε} :
    registry.occupant? handle = some occupant →
    Kills handle registry (.error (.lockPoisoned .session))
      (registry.setOccupant handle { occupant with state := .killed })
  | released {occupant : Occupant ε} {session : Session ε} (released : List ε) :
    registry.occupant? handle = some occupant →
    Kills handle registry (.ok ())
      { registry.setOccupant handle ⟨.killed, session⟩ with released := released }

theorem kills_kill (handle : Handle) (registry : Registry ε) :
    Kills handle registry (kill handle registry).outcome (kill handle registry).state := by
  cases hl : registry.lockPoisoned with
  | true =>
    rw [kill_of_broken hl]
    exact .refused fun _ _ hf => by rw [hl] at hf; cases hf
  | false =>
    cases ho : registry.occupant? handle with
    | none =>
      rw [kill_of_absent hl ho]
      exact .refused fun _ hs => by rw [ho] at hs; cases hs
    | some occupant =>
      by_cases hs : occupant.state = .created ∨ occupant.state = .active
      · cases hp : occupant.session.lockPoisoned with
        | true =>
          rw [(kill_of_live_broken hl ho hs hp).1, (kill_of_live_broken hl ho hs hp).2]
          exact .kept ho
        | false =>
          rw [(kill_of_live hl ho hs hp).1, (kill_of_live hl ho hs hp).2]
          exact .released _ ho
      · have hg : occupant.state = .killed ∨ occupant.state = .finalized := by
          cases h : occupant.state <;> simp_all
        obtain ⟨⟨cause, hk⟩, hsame⟩ := kill_of_gone hl ho hg
        rw [hk, hsame]
        refine .refused fun other he _ => ?_
        rw [ho] at he
        cases he
        exact hg

private theorem reclaim_apply (registry : Registry ε) :
    (reclaim handle registry).outcome = .ok () ∧
      (reclaim handle registry).state = registry.vacate handle := by
  unfold reclaim
  split <;> simp [log]

theorem finalize_of_broken (hl : registry.lockPoisoned = true) :
    finalize handle registry = ⟨.error (.lockPoisoned .registry), registry, []⟩ := by
  simp [finalize, lock_of_broken hl]

theorem finalize_of_finalized (hl : registry.lockPoisoned = false)
    (ho : registry.occupant? handle = none) (hi : registry.wasIssued handle = true) :
    (finalize handle registry).outcome = .ok () ∧ (finalize handle registry).state = registry := by
  simp [finalize, lock_of_healthy hl, ho, hi, log]

theorem finalize_of_unknown (hl : registry.lockPoisoned = false)
    (ho : registry.occupant? handle = none) (hi : registry.wasIssued handle = false) :
    finalize handle registry = ⟨.error (.notFound handle), registry, []⟩ := by
  simp [finalize, lock_of_healthy hl, ho, hi]

theorem finalize_of_killed (hl : registry.lockPoisoned = false)
    (ho : registry.occupant? handle = some occupant) (hs : occupant.state = .killed) :
    (finalize handle registry).outcome = .ok () ∧
      (finalize handle registry).state = registry.vacate handle := by
  simp [finalize, lock_of_healthy hl, ho, hs, reclaim_apply]

/-- A session that is not killed yet is killed first, and stays if that fails. -/
theorem finalize_of_not_killed (hl : registry.lockPoisoned = false)
    (ho : registry.occupant? handle = some occupant) (hs : occupant.state ≠ .killed) :
    (finalize handle registry).outcome = (kill handle registry).outcome ∧
      (finalize handle registry).state =
        match (kill handle registry).outcome with
        | .ok _ => (kill handle registry).state.vacate handle
        | _ => (kill handle registry).state := by
  have hk : ∀ ran : Ran (Registry ε) BridgeError Unit,
      (Run.andThen ran fun _ => reclaim handle).outcome = ran.outcome ∧
      (Run.andThen ran fun _ => reclaim handle).state =
        match ran.outcome with
        | .ok _ => ran.state.vacate handle
        | _ => ran.state := by
    rintro ⟨outcome, state, entries⟩
    cases outcome <;> simp [reclaim_apply]
  simpa [finalize, lock_of_healthy hl, ho, hs, log] using hk (kill handle registry)

end Registry

end Switchboard
