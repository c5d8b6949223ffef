import Switchboard.Proofs.Bridge.Delivery
import Switchboard.Proofs.Simulation.Disguised
/-!
# Notifications given by hand

Notifications reach a session in two ways: an engine was scripted to fire them and is iterated, or
they are given to the session by hand. It makes no difference which (`injected_as_fired`): a pass
over a script that was empty before is the intake of what was scripted, by a session whose engine
has counted one more pass.
-/

namespace Switchboard

/-! ## Engines from outside -/

namespace SimulatedEngine

def notifyAll (notifications : List Notification) (engine : SimulatedEngine) : SimulatedEngine :=
  notifications.foldl (fun engine notification => engine.notify (.notify notification)) engine

def countPass (engine : SimulatedEngine) : SimulatedEngine :=
  { engine with iterations := engine.iterations + 1 }

private theorem notifyAll_eq (notifications : List Notification) (engine : SimulatedEngine) :
    engine.notifyAll notifications =
      { engine with script := engine.script ++ notifications.map .notify } := by
  induction notifications generalizing engine with
  | nil => simp [notifyAll]
  | cons notification rest ih =>
    have hrest := ih (engine.notify (.notify notification))
    simp only [notifyAll, List.foldl_cons] at hrest ⊢
    rw [hrest]
    simp [notify]

private theorem ofScript_notify (notifications : List Notification) :
    Fired.ofScript (notifications.map .notify) = ⟨notifications, false⟩ := by
  induction notifications with
  | nil => rfl
  | cons notification rest ih => simp only [List.map_cons, Fired.ofScript, ih]

/-- A pass over a new script fires the script, and leaves an engine that is only older. -/
theorem iterate_notifyAll {engine : SimulatedEngine} (unscripted : engine.script = [])
    (notifications : List Notification) :
    Engine.perform .iterate (engine.notifyAll notifications) =
      (some ⟨notifications, false⟩, engine.countPass) := by
  have same : { engine with script := [] } = engine := by rw [← unscripted]
  rw [notifyAll_eq, unscripted, List.nil_append, ← ofScript_notify, ← same]
  rfl

/-- An older engine answers as a younger one would. -/
theorem perform_countPass (c : Call) (asked : c ≠ .addressing) (engine : SimulatedEngine) :
    Engine.perform c engine.countPass =
      ((Engine.perform c engine).1, (Engine.perform c engine).2.countPass) := by
  by_cases fired : c = .iterate
  · subst fired
    rfl
  · obtain ⟨label, passes, script⟩ := kept_answer fired engine
    have older : engine.countPass =
      engine.disguised engine.addressing (engine.iterations + 1) engine.script := rfl
    have later : (answer c engine).2.countPass =
        (answer c engine).2.disguised engine.addressing (engine.iterations + 1) engine.script := by
      rw [← label, ← passes, ← script]
      rfl
    rw [older]
    exact (answer_disguised c asked fired engine).trans (Prod.ext rfl later.symm)

end SimulatedEngine

def Session.onEngine {ε : Type} (change : ε → ε) (session : Session ε) : Session ε :=
  { session with engine := session.engine.map change }

def Registry.onEngine {ε : Type} (handle : Handle) (change : ε → ε) (registry : Registry ε) :
    Registry ε :=
  match registry.occupant? handle with
  | some occupant =>
    registry.setOccupant handle { occupant with session := occupant.session.onEngine change }
  | none => registry

/-! ## Passes of an older engine -/

namespace HeldSession

/-- The same session, but that its engine has counted one more pass. -/
def Older (first second : HeldSession SimulatedEngine) : Prop :=
  second = { first with engine := first.engine.countPass }

private theorem parallel_older (now : Timestamp) : Parallel (fun _ => True) Older now now where
  call c asked := by
    rintro first second rfl
    simp only [call, SimulatedEngine.perform_countPass c asked]
    rcases Engine.perform c first.engine with ⟨answer, engine⟩
    cases answer with
    | none => exact ⟨rfl, rfl⟩
    | some value => exact ⟨rfl, rfl⟩
  fires _ _ _ _ := trivial
  poison violation := by
    rintro first second rfl
    exact ⟨rfl, rfl⟩
  receive {notification} _ := by
    rintro first second rfl
    simp only [receive]
    cases notification.interpret first.transfers with
    | ok interpreted => exact ⟨rfl, rfl⟩
    | error violation => exact ⟨rfl, rfl⟩
  takeOutbound := by
    rintro first second rfl
    exact ⟨rfl, rfl⟩
  requestChunks := by
    rintro first second rfl
    simp only [requestChunks, Run.modify_apply]
    cases first.transfers with
    | none => exact ⟨trivial, rfl⟩
    | some table => exact ⟨trivial, rfl⟩
  warnOfBacklog := by
    rintro first second rfl
    simp only [warnOfBacklog]
    split <;> exact ⟨rfl, rfl⟩

/-- A pass over a new script is the intake of what was scripted, by an older engine. -/
theorem iterate_of_notifyAll (held : HeldSession SimulatedEngine)
    (unscripted : held.engine.script = []) (now : Timestamp) (notifications : List Notification) :
    (Request.iterate.perform now) { held with engine := held.engine.notifyAll notifications } =
      ((Request.invoke ⟨notifications, false⟩).perform now)
        { held with engine := held.engine.countPass } := by
  have pass : call .iterate { held with engine := held.engine.notifyAll notifications } =
      ⟨.ok ⟨notifications, false⟩, { held with engine := held.engine.countPass }, []⟩ := by
    simp only [call, SimulatedEngine.iterate_notifyAll unscripted]
  simp only [Request.perform, iterate, Run.bind_apply, pass, Run.andThen_ok, List.nil_append]

end HeldSession

namespace Session

private theorem lifts_older :
    Lifts (fun first second => second = first.onEngine SimulatedEngine.countPass)
      HeldSession.Older where
  lockPoisoned h := by rw [h]; rfl
  violation h := by rw [h]; rfl
  handle h := by rw [h]; rfl
  held {first second} h := by
    subst h
    cases he : first.engine with
    | none => exact .inl ⟨rfl, congrArg (Option.map _) he⟩
    | some engine => exact .inr ⟨engine, _, rfl, congrArg (Option.map _) he, rfl⟩
  back broken h := by rw [h]; rfl

section Injection

variable {session : Session SimulatedEngine} {engine : SimulatedEngine}

/-- Wherever the session can be held, the pass and the intake end alike, and leave sessions that are
the same but for the age of the engine. -/
theorem hold_scripted (held : session.engine = some engine) (unscripted : engine.script = [])
    (healthy : session.lockPoisoned = false) (sound : session.violation = none) (now : Timestamp)
    (notifications : List Notification) :
    (hold (Request.iterate.perform now)
        (session.onEngine (·.notifyAll notifications))).outcome =
      (hold ((Request.invoke ⟨notifications, false⟩).perform now) session).outcome ∧
    (hold (Request.iterate.perform now) (session.onEngine (·.notifyAll notifications))).state =
      (hold ((Request.invoke ⟨notifications, false⟩).perform now) session).state.onEngine
        SimulatedEngine.countPass := by
  have plain : (Request.invoke ⟨notifications, false⟩).isFile = false := rfl
  have older := (HeldSession.parallel_older now).perform plain fun _ _ => trivial
  obtain ⟨same, left⟩ := lifts_older.hold older session _ rfl
  have pass := HeldSession.iterate_of_notifyAll ⟨session.toCore, engine⟩ unscripted now
    notifications
  have intake : hold (Request.iterate.perform now) (session.onEngine (·.notifyAll notifications)) =
      hold ((Request.invoke ⟨notifications, false⟩).perform now)
        (session.onEngine SimulatedEngine.countPass) := by
    simp only [hold, onEngine, healthy, sound, held, Option.map_some, Option.isSome_none,
      Bool.false_eq_true, if_false]
    rw [pass]
  rw [intake]
  exact ⟨same.symm, left⟩

/-- A session that was disabled, or whose lock is broken, refuses everything in the same way,
whatever its engine is. -/
theorem hold_of_refused (refused : session.lockPoisoned = true ∨ session.violation ≠ none)
    (change : SimulatedEngine → SimulatedEngine) {α : Type}
    (first second : Held SimulatedEngine α) :
    (hold first session).state = session ∧
      (hold second (session.onEngine change)).state = session.onEngine change ∧
      (hold second (session.onEngine change)).outcome = (hold first session).outcome := by
  cases broken : session.lockPoisoned with
  | true => simp only [hold, onEngine, broken, if_true, and_self]
  | false =>
    have disabled : session.violation.isSome = true := by
      rcases refused with h | h
      · rw [broken] at h
        cases h
      · exact Option.isSome_iff_ne_none.mpr h
    simp only [hold, onEngine, broken, disabled, Bool.false_eq_true, if_false, if_true, and_self]

end Injection

end Session

/-! ## At the bridge -/

namespace Bridge

variable {φ : Type}

/-- Change the engine of the session a handle names, from outside. -/
def onEngine {ε : Type} (handle : Handle) (change : ε → ε) (bridge : Bridge φ ε) : Bridge φ ε :=
  { bridge with registry := bridge.registry.onEngine handle change }

/-- Give notifications to a session by hand. -/
def inject (now : Timestamp) (handle : Handle) (notifications : List Notification) :
    Run (Bridge φ SimulatedEngine) CallError Reply :=
  request now handle (.invoke ⟨notifications, false⟩)

/-- Have the engine of a session fire notifications in a pass. -/
def fire (now : Timestamp) (handle : Handle) (notifications : List Notification) :
    Run (Bridge φ SimulatedEngine) CallError Reply := fun bridge =>
  request now handle .iterate (bridge.onEngine handle (·.notifyAll notifications))

section Serving

variable {ε : Type} {handle : Handle} {session : Session ε} {bridge : Bridge φ ε}

private theorem Serving.onEngine_eq (serving : Serving handle session bridge) (change : ε → ε) :
    bridge.onEngine handle change = { bridge with
      registry := bridge.registry.setOccupant handle ⟨.active, session.onEngine change⟩ } := by
  simp only [onEngine, Registry.onEngine, serving.occupant]

private theorem Serving.state_request [Engine ε] (serving : Serving handle session bridge)
    (now : Timestamp) (asked : Request) :
    (Bridge.request now handle asked bridge).state = { bridge with
      registry := bridge.registry.setOccupant handle
        ⟨.active, (Session.hold (asked.perform now) session).state⟩ } := by
  simp only [Bridge.request, onRegistry, Run.onPart,
    Registry.withSession_of_active serving.healthy serving.occupant rfl]

end Serving

section Injection

variable {handle : Handle} {session : Session SimulatedEngine} {engine : SimulatedEngine}
  {bridge : Bridge φ SimulatedEngine}

/-- For a session whose engine has nothing scripted, notifications that the engine fires in a pass
and the same ones given by hand end in the same result, whether they break the contract or not. They
leave the same bridge behind, with the same waiting events and numbers, transfer table, violation,
warning and calls to the engine, but that the engine has counted one more pass. A session that was
disabled before, or whose lock is broken, refuses both and keeps what it had. -/
theorem injected_as_fired (serving : Serving handle session bridge)
    (held : session.engine = some engine) (unscripted : engine.script = []) (now : Timestamp)
    (notifications : List Notification) :
    (fire now handle notifications bridge).outcome =
        (inject now handle notifications bridge).outcome ∧
      (session.lockPoisoned = false → session.violation = none →
        (fire now handle notifications bridge).state =
          (inject now handle notifications bridge).state.onEngine handle
            SimulatedEngine.countPass) ∧
      (session.lockPoisoned = true ∨ session.violation ≠ none →
        (inject now handle notifications bridge).state = bridge ∧
          (fire now handle notifications bridge).state =
            bridge.onEngine handle (·.notifyAll notifications)) := by
  have scripted := serving.replace (session.onEngine (·.notifyAll notifications))
  rw [← serving.onEngine_eq] at scripted
  obtain ⟨firedSame, -⟩ := scripted.request now .iterate
  obtain ⟨injectedSame, injected⟩ := serving.request now (.invoke ⟨notifications, false⟩)
  have firedState := scripted.state_request now .iterate
  have injectedState := serving.state_request now (.invoke ⟨notifications, false⟩)
  by_cases refused : session.lockPoisoned = true ∨ session.violation ≠ none
  · obtain ⟨kept, kept', same⟩ := Session.hold_of_refused refused (·.notifyAll notifications)
      (Request.perform now (.invoke ⟨notifications, false⟩)) (Request.perform now .iterate)
    refine ⟨firedSame.trans (same.trans injectedSame.symm), fun healthy sound => ?_, fun _ => ?_⟩
    · rcases refused with h | h
      · rw [healthy] at h
        cases h
      · exact absurd sound h
    · rw [fire, firedState, inject, injectedState, kept, kept']
      rw [Registry.setOccupant_self serving.occupant, Registry.setOccupant_self scripted.occupant]
      exact ⟨rfl, rfl⟩
  · simp only [not_or, Bool.not_eq_true, ne_eq, Classical.not_not] at refused
    obtain ⟨healthy, sound⟩ := refused
    obtain ⟨same, left⟩ := Session.hold_scripted held unscripted healthy sound now notifications
    refine ⟨firedSame.trans (same.trans injectedSame.symm), fun _ _ => ?_, fun refused => ?_⟩
    · rw [inject, injected.onEngine_eq, ← left]
      rw [fire, firedState, injectedState, serving.onEngine_eq]
      simp only [Registry.setOccupant_setOccupant]
    · rcases refused with h | h
      · rw [healthy] at h
        cases h
      · exact absurd sound h

end Injection

def unusedBridge : Bridge SimulatedFactory SimulatedEngine := unused .legacy {}

/-- A file of five bytes is offered, and six bytes of it come. -/
def overlong : List Notification :=
  [.legacyFileSendRequest 4 7 5 [97], .legacyFileData 4 7 [1, 2, 3, 4, 5, 6], .groupSelfJoin 1]

theorem overlong_injected_as_fired :
    (create {} unusedBridge).outcome = .ok ⟨0, 1⟩ ∧
      (inject .epoch ⟨0, 1⟩ overlong (create {} unusedBridge).state).outcome =
        .error (.bridge (.contract (.transferOverrun 4 ⟨263⟩ 0 6 5))) ∧
      (fire .epoch ⟨0, 1⟩ overlong (create {} unusedBridge).state).outcome =
        (inject .epoch ⟨0, 1⟩ overlong (create {} unusedBridge).state).outcome ∧
      (fire .epoch ⟨0, 1⟩ overlong (create {} unusedBridge).state).state =
        (inject .epoch ⟨0, 1⟩ overlong (create {} unusedBridge).state).state.onEngine ⟨0, 1⟩
          SimulatedEngine.countPass := by
  have created : (create {} unusedBridge).outcome = .ok ⟨0, 1⟩ := by rfl
  have violates : (inject .epoch ⟨0, 1⟩ overlong (create {} unusedBridge).state).outcome =
      .error (.bridge (.contract (.transferOverrun 4 ⟨263⟩ 0 6 5))) := by decide +kernel
  have scripts : (engine? ⟨0, 1⟩ (create {} unusedBridge).state).map (·.script) = some [] := by
    decide +kernel
  obtain ⟨_, _, _, _, _, engine, _, _, _, serving⟩ := opened_of_create created
  have unscripted : engine.script = [] := by
    rw [serving.engine?] at scripts
    exact Option.some.inj scripts
  obtain ⟨same, left, -⟩ := injected_as_fired serving rfl unscripted .epoch overlong
  exact ⟨created, violates, same, left rfl rfl⟩

end Bridge

end Switchboard
