import Switchboard.Proofs.Bridge.Delivery
import Switchboard.Proofs.Registry.Removal
import Switchboard.Proofs.Registry.Separation
/-!
# Sessions apart from each other

A run asks something under one handle after the other (`Visit`). What it shows at each step, and the
session and the engines it leaves there (`trace`), is for all handles but one what the run shows in
which nothing is asked under that one (`sessions_separate`): a step under the one handle is not seen
under the others, and a step under another goes the same way in both runs.
-/

namespace Switchboard

namespace Bridge

variable {φ ε : Type}

/-! ## Visits -/

/-- What may be asked under a handle. -/
inductive Visit where
  | request (now : Timestamp) (request : Request)
  | drain
  | drainEncoded
  | state
  | kill
  | finalize

/-- What a visit is answered with. -/
inductive Answer where
  | replied (outcome : Outcome CallError Reply)
  | drained (outcome : Outcome BridgeError Batch)
  | encoded (outcome : Outcome BridgeError (List Char))
  | state (state : Option Lifecycle)
  | removed (outcome : Outcome BridgeError Unit)
  deriving DecidableEq

def Visit.perform [Engine ε] (handle : Handle) (visit : Visit) (bridge : Bridge φ ε) :
    Answer × Bridge φ ε :=
  match visit with
  | .request now asked =>
    let ran := Bridge.request now handle asked bridge
    (.replied ran.outcome, ran.state)
  | .drain =>
    let ran := Bridge.drain handle bridge
    (.drained ran.outcome, ran.state)
  | .drainEncoded =>
    let ran := Bridge.drainEncoded handle bridge
    (.encoded ran.outcome, ran.state)
  | .state => (.state (bridge.registry.state? handle), bridge)
  | .kill =>
    let ran := Bridge.kill handle bridge
    (.removed ran.outcome, ran.state)
  | .finalize =>
    let ran := Bridge.finalize handle bridge
    (.removed ran.outcome, ran.state)

/-- What there is to see of a visit: the answer, the session that is left under the handle, with its
engine and waiting events, and the engines that were let go meanwhile. -/
structure Seen (ε : Type) where
  handle : Handle
  answer : Answer
  occupant : Option (Registry.Occupant ε)
  released : List ε

def trace [Engine ε] : List (Handle × Visit) → Bridge φ ε → List (Seen ε)
  | [], _ => []
  | (handle, visit) :: rest, bridge =>
    let (answer, next) := visit.perform handle bridge
    ⟨handle, answer, next.registry.occupant? handle,
      next.registry.released.drop bridge.registry.released.length⟩ :: trace rest next

/-! ## One visit -/

private theorem agree_onRegistry {δ α : Type} {R : Registry ε → Registry ε → Prop}
    {operation : Run (Registry ε) δ α} (h : Run.Agree R operation operation) :
    Run.Agree (fun first second : Bridge φ ε => R first.registry second.registry)
      (onRegistry operation) (onRegistry operation) :=
  fun first second hr => h first.registry second.registry hr

section Visit

variable [Engine ε] {handle : Handle}

/-- A visit makes its changes under its handle. -/
theorem changeAt_visit (handle : Handle) (visit : Visit) (bridge : Bridge φ ε) :
    Registry.ChangeAt Session.Used handle bridge.registry
      (visit.perform handle bridge).2.registry := by
  have hdrain : Run.Moves (Registry.ChangeAt Session.Used handle)
      (Registry.drain handle : Registry.Op ε Batch) := Registry.changeAt_drain handle .drained
  cases visit with
  | request now request =>
    exact moves_onRegistry (Registry.changeAt_withSession handle (request.perform now)
      (Session.Used.held (request.perform now))) bridge
  | drain => exact moves_onRegistry hdrain bridge
  | drainEncoded => exact (moves_onRegistry hdrain).andReturn Batch.encode bridge
  | state => exact .refl _
  | kill => exact moves_onRegistry (Registry.changeAt_kill handle) bridge
  | finalize => exact moves_onRegistry (Registry.changeAt_finalize handle) bridge

/-- How a visit goes is up to what its handle reaches and shows. -/
theorem twins_visit {before before' : List ε} (visit : Visit) {first second : Bridge φ ε}
    (twins : Registry.Twins handle before before' first.registry second.registry) :
    (visit.perform handle first).1 = (visit.perform handle second).1 ∧
      Registry.Twins handle before before' (visit.perform handle first).2.registry
        (visit.perform handle second).2.registry := by
  cases visit with
  | request now request =>
    obtain ⟨ho, hs⟩ := agree_onRegistry (φ := φ)
      (Registry.agree_withSession (request.perform now)) first second twins
    exact ⟨congrArg Answer.replied ho, hs⟩
  | drain =>
    obtain ⟨ho, hs⟩ := agree_onRegistry (φ := φ) Registry.agree_drain first second twins
    exact ⟨congrArg Answer.drained ho, hs⟩
  | drainEncoded =>
    obtain ⟨ho, hs⟩ := (agree_onRegistry (φ := φ) Registry.agree_drain).bind
      (fun batch => .pure (Batch.encode batch)) first second twins
    exact ⟨congrArg Answer.encoded ho, hs⟩
  | state => exact ⟨congrArg Answer.state twins.same.2, twins⟩
  | kill =>
    obtain ⟨ho, hs⟩ := agree_onRegistry (φ := φ) Registry.agree_kill first second twins
    exact ⟨congrArg Answer.removed ho, hs⟩
  | finalize =>
    obtain ⟨ho, hs⟩ := agree_onRegistry (φ := φ) Registry.agree_finalize first second twins
    exact ⟨congrArg Answer.removed ho, hs⟩

end Visit

/-! ## Runs -/

/-- Two bridges that are the same under every handle but one. -/
structure Beside (handle : Handle) (first second : Bridge φ ε) : Prop where
  sound : first.registry.Sound
  sound' : second.registry.Sound
  healthy : first.registry.lockPoisoned = false
  healthy' : second.registry.lockPoisoned = false
  same : ∀ other, other ≠ handle → Registry.Same other first.registry second.registry

section Runs

variable [Engine ε] {handle other : Handle} {first second : Bridge φ ε}

theorem sound_visit (visit : Visit) (sound : first.registry.Sound) :
    (visit.perform handle first).2.registry.Sound :=
  ((changeAt_visit handle visit first).change fun _ _ used => used).upkeep.sound sound

theorem healthy_visit (visit : Visit) :
    (visit.perform handle first).2.registry.lockPoisoned = first.registry.lockPoisoned :=
  ((changeAt_visit handle visit first).change fun _ _ used => used).upkeep.lockPoisoned_eq

/-- What is asked under the one handle is not seen under the others. -/
theorem Beside.aside (beside : Beside handle first second) (visit : Visit) :
    Beside handle (visit.perform handle first).2 second where
  sound := sound_visit visit beside.sound
  sound' := beside.sound'
  healthy := (healthy_visit visit).trans beside.healthy
  healthy' := beside.healthy'
  same := fun other hne =>
    ((changeAt_visit handle visit first).frame beside.sound hne).trans (beside.same other hne)

omit [Engine ε] in
theorem Beside.twins (beside : Beside handle first second) (hne : other ≠ handle) :
    Registry.Twins other first.registry.released second.registry.released first.registry
      second.registry where
  sound := beside.sound
  sound' := beside.sound'
  healthy := beside.healthy
  healthy' := beside.healthy'
  same := beside.same other hne
  released := ⟨[], (List.append_nil _).symm, (List.append_nil _).symm⟩

/-- What is asked under another handle goes the same way in both. -/
theorem Beside.along (beside : Beside handle first second) (hne : other ≠ handle)
    (visit : Visit) :
    Beside handle (visit.perform other first).2 (visit.perform other second).2 where
  sound := sound_visit visit beside.sound
  sound' := sound_visit visit beside.sound'
  healthy := (healthy_visit visit).trans beside.healthy
  healthy' := (healthy_visit visit).trans beside.healthy'
  same := by
    intro third hthird
    by_cases he : third = other
    · rw [he]
      exact (twins_visit visit (beside.twins hne)).2.same
    · have hframe := (changeAt_visit other visit first).frame beside.sound he
      have hframe' := (changeAt_visit other visit second).frame beside.sound' he
      exact hframe.trans ((beside.same third hthird).trans hframe'.symm)

theorem trace_beside (visits : List (Handle × Visit)) (beside : Beside handle first second) :
    (trace visits first).filter (·.handle ≠ handle) =
      trace (visits.filter (·.1 ≠ handle)) second := by
  induction visits generalizing first second with
  | nil => rfl
  | cons step rest ih =>
    obtain ⟨other, visit⟩ := step
    by_cases he : other = handle
    · subst he
      have hrest := ih (beside.aside visit)
      simpa [trace] using hrest
    · obtain ⟨hanswer, htwins⟩ := twins_visit visit (beside.twins he)
      obtain ⟨gone, hgone, hgone'⟩ := htwins.released
      have hrest := ih (beside.along he visit)
      simp only [trace, List.filter_cons, he, ne_eq, not_false_eq_true, decide_true, if_true,
        hanswer, htwins.same.1, hgone, hgone', List.drop_left] at hrest ⊢
      rw [hrest]

end Runs

/-- In every run from a registry that can be reached and whose lock is healthy, what the visits
under one handle do, and whether there are any, is not seen under the others: the answers there, the
events that are drained, the sessions and what becomes of their engines stay the same. Recorded
engines show in this the calls that were made to them. -/
theorem sessions_separate [Engine ε] (config : Registry.Config)
    (commands : List (Registry.Command (Recorded ε))) (factory : φ)
    (healthy : (Registry.performAll commands (.empty config)).registry.lockPoisoned = false)
    (handle : Handle) (visits : List (Handle × Visit)) :
    (trace visits ⟨(Registry.performAll commands (.empty config)).registry, factory⟩).filter
        (·.handle ≠ handle) =
      trace (visits.filter (·.1 ≠ handle))
        ⟨(Registry.performAll commands (.empty config)).registry, factory⟩ := by
  have sound : (Registry.performAll commands (.empty config)).registry.Sound :=
    (Registry.tallied_performAll commands (Registry.tallied_empty config)).1.sound
  exact trace_beside visits ⟨sound, sound, healthy, healthy, fun _ _ => ⟨rfl, rfl⟩⟩

def pair : List (Registry.Command (Recorded SimulatedEngine)) :=
  [.add ⟨Registry.sampleEngine, []⟩, .add ⟨Registry.sampleEngine, []⟩]

/-- One session panics in a pass, is killed and finalized, while the other takes an event in. -/
def mixed : List (Handle × Visit) :=
  [(⟨0, 1⟩, .request .epoch (.invoke ⟨[.groupSelfJoin 1], true⟩)),
    (⟨1, 1⟩, .request .epoch (.invoke ⟨[.groupSelfJoin 2], false⟩)),
    (⟨0, 1⟩, .kill), (⟨1, 1⟩, .drain), (⟨0, 1⟩, .finalize), (⟨1, 1⟩, .state)]

/-- The other session gives what it gives alone. -/
theorem separate_from_panic :
    ((trace mixed ⟨(Registry.performAll pair (.empty {})).registry, ()⟩).filter
        (·.handle ≠ ⟨0, 1⟩)).map (·.answer) =
      [.replied (.ok .done),
        .drained (.ok ⟨[⟨0, .epoch, .groupSelfJoin 2⟩]⟩),
        .state (some .active)] := by
  rw [sessions_separate {} pair () (by decide +kernel) ⟨0, 1⟩ mixed]
  decide +kernel

end Bridge

end Switchboard
