import Switchboard.Proofs.Bridge.Codes
import Switchboard.Proofs.Bridge.Creation
import Switchboard.Proofs.Bridge.Shim
import Switchboard.Proofs.Registry.Behind
import Switchboard.Proofs.Session.Readback
/-!
# Reading back

Whatever is done to a bridge over simulated engines, a session that can still be used gives the name
and the topics that were last stored in it, and the saved state that it was opened with, byte for
byte (`reads_return_last_stored`).

What was stored is told from the outcomes of the run (`Step.note?`, `stores`). Every step that goes
on under another handle leaves the engine of the session alone.
-/

namespace Switchboard

/-- The state that an engine with this number starts from. Without a saved one it is its own. -/
def SaveData.start (number : Nat) : SaveData → Bytes
  | .blob (byte :: rest) => byte :: rest
  | _ => (SimulatedEngine.make number .unified {}).savedata

private theorem savedata_make {options : EngineOptions} {settings : EngineSettings}
    {warnings : List OptionWarning} (plan : options.plan = .ok (settings, warnings)) (number : Nat)
    (addressing : Addressing) :
    (SimulatedEngine.make number addressing settings).savedata =
      options.saveData.start number := by
  obtain ⟨-, laid⟩ := EngineOptions.plan_eq_ok_iff.mp plan
  have type : settings.savedataType = (EngineOptions.checkSave options.saveData).1.number :=
    congrArg (·.1.savedataType) laid
  have bytes : settings.savedata = (EngineOptions.checkSave options.saveData).1.bytes :=
    congrArg (·.1.savedata) laid
  simp only [SimulatedEngine.make, type, bytes]
  generalize options.saveData = save
  cases save with
  | blob bytes => cases bytes <;> rfl
  | _ => rfl

namespace Bridge

/-! ## What a run stores -/

/-- What a step stores in the session that the handle reaches, or removes there. -/
def Step.note? (handle : Handle) : Step → Simulated → Option Note
  | .create options, bridge =>
    if (Bridge.create options bridge).outcome = .ok handle then
      some (.opened (options.saveData.start (bridge.factory.built + 1)))
    else none
  | .visit other (.request now request), bridge =>
    if other = handle then
      (Bridge.request now handle request bridge).outcome.noted? request.note?
    else none
  | .tweak other made, bridge =>
    if other = handle then
      (engine? handle bridge).bind fun recorded => made.note? recorded.engine
    else none
  | _, _ => none

/-- What is stored in the session after these steps. -/
def stores (handle : Handle) : List Step → Simulated → Stored → Stored
  | [], _, stored => stored
  | step :: rest, bridge, stored =>
    stores handle rest (step.perform bridge).2 (stored.after (step.note? handle bridge))

/-- The engine behind the handle holds what was stored. -/
abbrev Holds (handle : Handle) (stored : Stored) (bridge : Simulated) : Prop :=
  bridge.registry.Behind (fun recorded => stored.In recorded.engine.holdings) handle

section Steps

variable {handle other : Handle} {stored : Stored} {bridge : Simulated}

/-! ## Creating -/

private theorem holdings_subscribe (kinds : List NotificationKind)
    {asked left : Recorded SimulatedEngine} {answered : Bool}
    (h : Session.subscribe kinds asked = (answered, left)) :
    answered = true ∧ left.engine.holdings = asked.engine.holdings := by
  induction kinds generalizing asked with
  | nil =>
    cases h
    exact ⟨rfl, rfl⟩
  | cons kind rest ih =>
    have later : Session.subscribe rest (Engine.perform (.register kind) asked).2 =
      (answered, left) := h
    obtain ⟨all, same⟩ := ih later
    exact ⟨all, same⟩

/-- A new engine holds what it was given, no name and no groups. -/
theorem in_opened (stored : Stored) {options : EngineOptions} {settings : EngineSettings}
    {warnings : List OptionWarning} (plan : options.plan = .ok (settings, warnings))
    {factory after : SimulatedFactory} {engine asked left : Recorded SimulatedEngine}
    {addressing : Addressing} {answered : Bool}
    (made : Factory.create settings factory = (.ok engine, after))
    (ha : Engine.perform .addressing engine = (some addressing, asked))
    (hs : Session.subscribe NotificationKind.all asked = (answered, left)) :
    (stored.note (.opened (options.saveData.start (factory.built + 1)))).In
      left.engine.holdings := by
  obtain ⟨-, same⟩ := holdings_subscribe _ hs
  have asked' : asked.engine = engine.engine := (congrArg (·.2.engine) ha).symm
  rw [same, asked']
  rw [SimulatedFactory.eq_make_of_create (Recorded.of_create made).1]
  exact ⟨savedata_make plan _ factory.addressing, rfl, rfl⟩

private theorem holds_create (options : EngineOptions) (holds : Holds handle stored bridge) :
    Holds handle (stored.after (Step.note? handle (.create options) bridge))
      (Bridge.create options bridge).state := by
  rcases create_cases options bridge with
    ⟨none, same⟩ | ⟨settings, _, engine, factory, plan, made, state, ok⟩
  · rw [Step.note?, if_neg (none handle), Holds, same]
    exact holds
  · have added := Registry.added_add engine bridge.registry
    by_cases issued : (Bridge.create options bridge).outcome = .ok handle
    · rw [Step.note?, if_pos issued, Holds, state]
      rw [(ok handle).mp issued] at added
      generalize (Registry.add engine bridge.registry).state = next at added
      cases added with
      | active _ claimed ha hs =>
        intro occupant engine reached held
        rw [Registry.occupant?_admitted claimed] at reached
        cases reached
        cases held
        exact in_opened stored plan made ha hs
    · rw [Step.note?, if_neg issued, Holds, state]
      rw [ok handle] at issued
      generalize (Registry.add engine bridge.registry).outcome = outcome,
        (Registry.add engine bridge.registry).state = next at added issued
      cases added with
      | refused => exact holds
      | unanswered claimed =>
        intro occupant engine reached
        exact holds occupant engine ((claimed.occupant? handle).symm.trans reached)
      | unsubscribed _ _ _ hs => exact absurd (holdings_subscribe _ hs).1 Bool.false_ne_true
      | active _ claimed => exact holds.admitted claimed _ fun same => absurd (same ▸ rfl) issued

/-! ## Visiting -/

private theorem holds_request (now : Timestamp) (request : Request)
    (holds : Holds handle stored bridge) :
    Holds handle
      (stored.after ((Bridge.request now handle request bridge).outcome.noted? request.note?))
      (Bridge.request now handle request bridge).state := by
  by_cases usable : ∃ held, bridge.registry.Usable handle held
  · obtain ⟨held, usable⟩ := usable
    obtain ⟨ended, -, broken, -, reached⟩ := request_of_usable usable now request
    have kept : stored.In held.engine.engine.holdings := holds _ _ usable.occupant rfl
    intro occupant engine found left
    rw [reached] at found
    cases found
    cases left
    rw [ended]
    exact HeldSession.stored_perform now request kept
  · obtain ⟨failed, same⟩ := request_of_unusable (fun held h => usable ⟨held, h⟩) now request
    rw [same]
    cases ended : (Bridge.request now handle request bridge).outcome with
    | ok reply => exact absurd ended (failed reply)
    | _ => exact holds

private theorem holds_visit (visit : Visit) (holds : Holds handle stored bridge) :
    Holds handle (stored.after (Step.note? handle (.visit other visit) bridge))
      (visit.perform other bridge).2 := by
  by_cases own : other = handle
  · subst own
    have drained : Run.Moves (Registry.ChangeAt (fun session next => next.engine = session.engine)
        other) (Registry.drain other : Registry.Op (Recorded SimulatedEngine) Batch) :=
      Registry.changeAt_drain other fun session => by unfold Session.drain; split <;> rfl
    cases visit with
    | request now request =>
      rw [Step.note?, if_pos rfl]
      exact holds_request now request holds
    | drain => exact holds.changeAt (fun _ _ _ used => used) (moves_onRegistry drained bridge)
    | drainEncoded =>
      exact holds.changeAt (fun _ _ _ used => used)
        ((moves_onRegistry drained).andReturn Batch.encode bridge)
    | state => exact holds
    | kill => exact moves_onRegistry (Registry.keeps_kill other) bridge holds
    | finalize => exact moves_onRegistry (Registry.keeps_finalize other) bridge holds
  · have silent : Step.note? handle (.visit other visit) bridge = none := by
      cases visit <;> first | rfl | exact if_neg own
    rw [silent]
    exact holds.changeAt (fun same => absurd same own) (changeAt_visit other visit bridge)

/-! ## Other steps -/

private theorem holds_tweak (made : SimulatedEngine.Tweak) (holds : Holds handle stored bridge) :
    Holds handle (stored.after (Step.note? handle (.tweak other made) bridge))
      (bridge.onEngine other (Recorded.tweak made)) := by
  cases reached : bridge.registry.occupant? other with
  | none =>
    have silent : Step.note? handle (.tweak other made) bridge = none := by
      rw [Step.note?]
      split
      · rename_i own
        rw [engine?, ← own, reached]
        rfl
      · rfl
    simp only [silent, Holds, onEngine, Registry.onEngine, reached]
    exact holds
  | some occupant =>
    simp only [Holds, onEngine, Registry.onEngine, reached]
    by_cases own : other = handle
    · subst own
      obtain ⟨slot, hs, hg, -⟩ := Registry.occupant?_eq_some.mp reached
      intro found recorded now held
      rw [Registry.occupant?_setOccupant hs hg] at now
      cases now
      obtain ⟨before, there, rfl⟩ := Option.map_eq_some_iff.mp held
      have noted : Step.note? other (.tweak other made) bridge = made.note? before.engine := by
        rw [Step.note?, if_pos rfl, engine?, reached, Option.bind_some, there, Option.bind_some]
      rw [noted]
      exact SimulatedEngine.stored_apply made (holds occupant before reached there)
    · rw [Step.note?, if_neg own]
      exact Registry.Behind.setOccupant holds reached fun same => absurd same own

/-- One step of a run. -/
theorem holds_perform (step : Step) (holds : Holds handle stored bridge) :
    Holds handle (stored.after (step.note? handle bridge)) (step.perform bridge).2 := by
  cases step with
  | create options => exact holds_create options holds
  | visit other visit => exact holds_visit visit holds
  | close guard => exact moves_onRegistry (Registry.keeps_close guard) bridge holds
  | drop guard => exact moves_onRegistry (Registry.keeps_drop guard) bridge holds
  | shutdown => exact moves_onRegistry Registry.keeps_shutdown bridge holds
  | tweak other made => exact holds_tweak made holds
  | failNext code => exact holds

theorem holds_performAll (steps : List Step) (holds : Holds handle stored bridge) :
    Holds handle (stores handle steps bridge stored) (performAll steps bridge).2 := by
  induction steps generalizing bridge stored with
  | nil => exact holds
  | cons step rest ih => exact ih (holds_perform step holds)

end Steps

/-! ## Reading -/

/-- What is read from a session is what was stored. -/
structure GivesBack (handle : Handle) (stored : Stored) (engine : SimulatedEngine)
    (bridge : Simulated) : Prop where
  name (now : Timestamp) :
    (Bridge.request now handle .getName bridge).outcome = .ok (.bytes stored.name)
  saved (now : Timestamp) :
    (Bridge.request now handle .save bridge).outcome = .ok (.bytes stored.saved)
  /-- A group that is gone, or was never there, has no topic. -/
  topic (now : Timestamp) (group : UInt32) (free : engine.Unhindered .groupStateQueries) :
    (Bridge.request now handle (.groupGetTopic group) bridge).outcome =
      match stored.topic? group with
      | some topic => .ok (.bytes topic)
      | none => .error (.failed ⟨.groupStateQueries, .groupNotFound⟩)

private theorem Holds.givesBack {handle : Handle} {stored : Stored} {bridge : Simulated}
    (holds : Holds handle stored bridge) {held : HeldSession (Recorded SimulatedEngine)}
    (usable : bridge.registry.Usable handle held) :
    GivesBack handle stored held.engine.engine bridge := by
  have kept : stored.In held.engine.engine.holdings := holds _ _ usable.occupant rfl
  refine ⟨fun now => ?_, fun now => ?_, fun now group free => ?_⟩
  · rw [(request_of_usable usable now .getName).1, HeldSession.getName_apply, ← kept.name]
    rfl
  · rw [(request_of_usable usable now .save).1, HeldSession.save_apply, ← kept.saved]
    rfl
  · rw [(request_of_usable usable now (.groupGetTopic group)).1,
      HeldSession.groupGetTopic_apply now free, ← kept.topic]
    rfl

/-- Whatever is done to a bridge over simulated engines, as long as a session can be used its name
and the topics of its groups are read back as they were last stored, if nothing makes these reads
fail, and its saved state as it was opened with it. -/
theorem reads_return_last_stored (addressing : Addressing) (config : Registry.Config)
    (steps : List Step) (handle : Handle) {held : HeldSession (Recorded SimulatedEngine)}
    (usable : (performAll steps (unused addressing config)).2.registry.Usable handle held) :
    GivesBack handle (stores handle steps (unused addressing config) .nothing) held.engine.engine
      (performAll steps (unused addressing config)).2 :=
  Holds.givesBack (holds_performAll steps (Registry.behind_empty config)) usable

/-- A session is opened with three saved bytes. It is named once, and then in vain, as the engine
was made to fail and as the name is too long. A group gets a new topic, and another one is left. -/
def namedOnce : List Step :=
  [.create { saveData := .blob [1, 2, 3] }, .create {},
    .visit ⟨0, 1⟩ (.request .epoch (.setName [97, 98])),
    .tweak ⟨0, 1⟩ (.failNext .setInfo 2),
    .visit ⟨0, 1⟩ (.request .epoch (.setName [99])),
    .visit ⟨0, 1⟩ (.request .epoch (.setName (List.replicate 129 99))),
    .tweak ⟨0, 1⟩ (.addGroup [116]), .tweak ⟨0, 1⟩ (.addGroup []),
    .visit ⟨0, 1⟩ (.request .epoch (.groupSetTopic 0 [111, 107])),
    .visit ⟨1, 1⟩ (.request .epoch (.setName [100])),
    .visit ⟨0, 1⟩ (.request .epoch (.groupLeave 1 []))]

def namedBridge : Simulated := (performAll namedOnce (unused .unified {})).2

theorem namedOnce_read_back :
    (Bridge.request .epoch ⟨0, 1⟩ .getName namedBridge).outcome = .ok (.bytes [97, 98]) ∧
      (Bridge.request .epoch ⟨0, 1⟩ .save namedBridge).outcome = .ok (.bytes [1, 2, 3]) ∧
      (Bridge.request .epoch ⟨0, 1⟩ (.groupGetTopic 0) namedBridge).outcome =
        .ok (.bytes [111, 107]) ∧
      (Bridge.request .epoch ⟨0, 1⟩ (.groupGetTopic 1) namedBridge).outcome =
        .error (.failed ⟨.groupStateQueries, .groupNotFound⟩) := by
  have looks : (namedBridge.registry.occupant? ⟨0, 1⟩).map (fun occupant =>
      (occupant.state, occupant.session.lockPoisoned, occupant.session.violation)) =
      some (.active, false, none) := by decide +kernel
  have failing : (engine? ⟨0, 1⟩ namedBridge).map (·.engine.failures) = some [] := by decide +kernel
  obtain ⟨⟨state, core, engine, broken⟩, reached, looks⟩ := Option.map_eq_some_iff.mp looks
  obtain ⟨rfl, rfl, able⟩ : state = .active ∧ broken = false ∧ core.violation = none := by
    simpa only [Prod.mk.injEq] using looks
  rw [engine?, reached] at failing
  obtain ⟨recorded, rfl, unfailing⟩ := Option.map_eq_some_iff.mp failing
  have usable : namedBridge.registry.Usable ⟨0, 1⟩ ⟨core, recorded⟩ :=
    ⟨by decide +kernel, reached, able⟩
  have read := reads_return_last_stored .unified {} namedOnce ⟨0, 1⟩ usable
  have free : recorded.engine.Unhindered .groupStateQueries := by
    rw [SimulatedEngine.Unhindered, unfailing]
    rfl
  have name : (stores ⟨0, 1⟩ namedOnce (unused .unified {}) .nothing).name = [97, 98] := by
    decide +kernel
  have saved : (stores ⟨0, 1⟩ namedOnce (unused .unified {}) .nothing).saved = [1, 2, 3] := by
    decide +kernel
  have topic : (stores ⟨0, 1⟩ namedOnce (unused .unified {}) .nothing).topic? 0 =
      some [111, 107] := by decide +kernel
  have left : (stores ⟨0, 1⟩ namedOnce (unused .unified {}) .nothing).topic? 1 = none := by
    decide +kernel
  refine ⟨?_, ?_, ?_, ?_⟩
  · exact (read.name .epoch).trans (by rw [name])
  · exact (read.saved .epoch).trans (by rw [saved])
  · exact (read.topic .epoch 0 free).trans (by rw [topic])
  · exact (read.topic .epoch 1 free).trans (by rw [left])

end Bridge

end Switchboard
