import Switchboard.Proofs.Bridge.Disabled
import Switchboard.Proofs.Registry.Handles
import Switchboard.Proofs.Session.Codes
import Switchboard.Simulation.FaultyEngine
/-!
# Classified codes

What a caller gets to see of a code that an engine or a factory answers with: the reason it stands
for in the catalogue of what was asked for, or else a violation of the contract that names just that
operation and that code (`codes_classified`).
-/

namespace Switchboard

namespace Bridge

variable {φ ε α β : Type}

/-- An operation that was answered with a code failed with the reason that the catalogue has for it,
or, if there is none, with a violation. What holds of the state then may differ. -/
structure Classified (operation : Operation) (code : UInt32) (failed violated : β → Prop)
    (ran : Ran β CallError α) : Prop where
  documented : ∀ reason ∈ operation.catalogue, operation.code reason = code →
    ran.outcome = .error (.failed ⟨operation, reason⟩) ∧ failed ran.state
  undocumented : (∀ reason ∈ operation.catalogue, operation.code reason ≠ code) →
    ran.outcome = .error (.bridge (.contract (.unexpectedCode operation.name code))) ∧
      violated ran.state

private theorem classified_of_classify {operation : Operation} {code : UInt32}
    {failed violated : β → Prop} {ran : Ran β CallError α}
    (classified : ran.outcome = .error (operation.classify code))
    (hf : ∀ failure, ran.outcome = .error (.failed failure) → failed ran.state)
    (hv : ∀ violation, ran.outcome = .error (.bridge (.contract violation)) →
      violation = .unexpectedCode operation.name code → violated ran.state) :
    Classified operation code failed violated ran := by
  constructor
  · rintro reason hmem rfl
    rw [Operation.classify_of_documented hmem] at classified
    exact ⟨classified, hf _ classified⟩
  · intro hnone
    rw [Operation.classify_of_undocumented hnone] at classified
    exact ⟨classified, hv _ classified rfl⟩

/-! ## Requests -/

section Request

variable [Engine ε] {handle : Handle}

/-- A request that gets hold of a session ends as it does there, and leaves what it leaves there. -/
theorem request_of_usable {bridge : Bridge φ ε} {held : HeldSession ε}
    (usable : bridge.registry.Usable handle held) (now : Timestamp) (request : Request) :
    (Bridge.request now handle request bridge).outcome = (request.perform now held).outcome ∧
      (Bridge.request now handle request bridge).state.registry.lockPoisoned = false ∧
      ∃ broken, ((request.perform now held).outcome ≠ .panic → broken = false) ∧
        (Bridge.request now handle request bridge).state.registry.occupant? handle =
          some ⟨.active, ⟨(request.perform now held).state.toCore,
            some (request.perform now held).state.engine, broken⟩⟩ := by
  obtain ⟨hout, -, broken, hbroken, hstate⟩ :=
    Registry.withSession_of_usable usable (request.perform now)
  obtain ⟨slot, hs, hg, -⟩ := Registry.occupant?_eq_some.mp usable.occupant
  simp only [Bridge.request, onRegistry, Run.onPart, hstate]
  refine ⟨hout, ?_, broken, hbroken, Registry.occupant?_setOccupant hs hg _⟩
  exact (Registry.setOccupant_lockPoisoned _ _ _).trans usable.healthy

/-- Where a request gets hold of no session, it leaves everything as it is. -/
theorem request_of_unusable {bridge : Bridge φ ε}
    (unusable : ∀ held, ¬ bridge.registry.Usable handle held) (now : Timestamp)
    (request : Request) :
    (∀ reply, (Bridge.request now handle request bridge).outcome ≠ .ok reply) ∧
      (Bridge.request now handle request bridge).state = bridge := by
  obtain ⟨error, -, hran⟩ := Registry.withSession_of_unusable unusable (request.perform now)
  simp only [Bridge.request, onRegistry, Run.onPart, hran]
  refine ⟨?_, trivial⟩
  intro reply hok
  cases hok

/-- A session that a request neither disabled nor broke the lock of can be used after it. -/
theorem usable_request {bridge : Bridge φ ε} {held : HeldSession ε}
    (usable : bridge.registry.Usable handle held) {now : Timestamp} {request : Request}
    (calm : (request.perform now held).outcome ≠ .panic)
    (able : (request.perform now held).state.violation = none) :
    (Bridge.request now handle request bridge).state.registry.Usable handle
      (request.perform now held).state := by
  obtain ⟨-, hhealthy, broken, hbroken, hoccupant⟩ := request_of_usable usable now request
  obtain rfl := hbroken calm
  exact ⟨hhealthy, hoccupant, able⟩

/-- A session that a request failed on for a documented reason can be used as before. -/
theorem usable_of_failed {bridge : Bridge φ ε} {held : HeldSession ε}
    (usable : bridge.registry.Usable handle held) {now : Timestamp} {request : Request}
    {failure : Failure}
    (failed : (Bridge.request now handle request bridge).outcome = .error (.failed failure)) :
    ∃ left, (Bridge.request now handle request bridge).state.registry.Usable handle left := by
  have hran := (request_of_usable usable now request).1.symm.trans failed
  have hviolation := (HeldSession.built_request now request).violation_eq held
  rw [hran, usable.able] at hviolation
  refine ⟨_, usable_request usable ?_ hviolation⟩
  intro hpanic
  cases hran.symm.trans hpanic

/-- What an engine was asked and answered in a request comes after what it was before. -/
theorem exchanges_request {bridge : Bridge φ (Transcribed ε)} {held : HeldSession (Transcribed ε)}
    (usable : bridge.registry.Usable handle held) {now : Timestamp} {request : Request}
    {exchanges : List Exchange}
    (h : (request.perform now held).state.engine.exchanges =
      held.engine.exchanges ++ exchanges) :
    (engine? handle (Bridge.request now handle request bridge).state).map (·.exchanges) =
      (engine? handle bridge).map (·.exchanges ++ exchanges) := by
  obtain ⟨-, -, broken, -, hoccupant⟩ := request_of_usable usable now request
  rw [engine?, engine?, hoccupant, usable.occupant]
  exact congrArg some h

/-- The session was asked for something, and its engine's answers were looked up. -/
theorem classified_request {bridge : Bridge φ (Transcribed ε)} (now : Timestamp)
    {request : Request} {operation : Operation} (fallible : request.operation? = some operation) :
    ∃ exchanges,
      (engine? handle (Bridge.request now handle request bridge).state).map (·.exchanges) =
          (engine? handle bridge).map (·.exchanges ++ exchanges) ∧
        ∀ exchange ∈ exchanges, ∀ code, exchange.code? = some code →
          Classified operation code (fun after => ∃ held, after.registry.Usable handle held)
            (fun after => ∃ session,
              Disabled handle (.unexpectedCode operation.name code) session after)
            (Bridge.request now handle request bridge) := by
  by_cases h : ∃ held, bridge.registry.Usable handle held
  · obtain ⟨held, usable⟩ := h
    obtain ⟨exchanges, hengine, hcodes⟩ := HeldSession.heeds_perform now fallible held
    refine ⟨exchanges, exchanges_request usable hengine, ?_⟩
    intro exchange hmem code hc
    have hclassify := (request_of_usable usable now request).1.trans (hcodes exchange hmem code hc)
    refine classified_of_classify hclassify ?_ ?_
    · intro failure hfailed
      exact usable_of_failed usable hfailed
    · rintro violation hviolated rfl
      exact disabled_of_returned hviolated
  · have hsame := (request_of_unusable (fun held usable => h ⟨held, usable⟩) now request).2
    refine ⟨[], ?_, fun _ hmem => nomatch hmem⟩
    simp only [hsame, List.append_nil]

end Request

/-! ## Creation -/

section Create

variable [Engine ε] [Factory φ ε] {bridge : Bridge φ ε} {options : EngineOptions}
  {settings : EngineSettings} {warnings : List OptionWarning} {code : UInt32} {factory : φ}

/-- The factory's code is all there is to a creation it fails. -/
theorem create_of_code (plan : options.plan = .ok (settings, warnings))
    (answered : Factory.create (ε := ε) settings bridge.factory = (.error code, factory)) :
    (create options bridge).outcome = .error (Operation.create.classify code) ∧
      (create options bridge).state = { bridge with factory := factory } := by
  obtain ⟨entries, hwarn⟩ := warn_apply warnings bridge
  simp only [create, plan, Run.bind_apply, hwarn, Run.andThen_ok, make, answered,
    Operation.classify]
  cases Operation.create.reason? code with
  | some reason => exact ⟨rfl, rfl⟩
  | none => exact ⟨rfl, rfl⟩

/-- A guard makes no difference to that. -/
theorem createGuarded_of_code (plan : options.plan = .ok (settings, warnings))
    (answered : Factory.create (ε := ε) settings bridge.factory = (.error code, factory)) :
    (createGuarded options bridge).outcome = .error (Operation.create.classify code) ∧
      (createGuarded options bridge).state = { bridge with factory := factory } := by
  obtain ⟨hout, hstate⟩ := create_of_code plan answered
  simp only [createGuarded, Run.bind_apply, Run.andThen, hout]
  exact ⟨trivial, hstate⟩

end Create

/-- Whatever code an engine answers a call of a request with, the request fails with the reason it
stands for in the request's own catalogue, and the session can be used as before; or the catalogue
has no such code, and the session is disabled for a violation that names the operation and the code.
The same goes for the code of a factory, and there the registry stays as it is. Code 0 is in no
catalogue. -/
theorem codes_classified [Engine ε] [Factory φ ε] (bridge : Bridge φ (Transcribed ε)) :
    (∀ now handle request operation, request.operation? = some operation →
      ∃ exchanges,
        (engine? handle (Bridge.request now handle request bridge).state).map (·.exchanges) =
            (engine? handle bridge).map (·.exchanges ++ exchanges) ∧
          ∀ exchange ∈ exchanges, ∀ code, exchange.code? = some code →
            Classified operation code (fun after => ∃ held, after.registry.Usable handle held)
              (fun after => ∃ session,
                Disabled handle (.unexpectedCode operation.name code) session after)
              (Bridge.request now handle request bridge)) ∧
      (∀ options settings warnings code factory, options.plan = .ok (settings, warnings) →
        Factory.create (ε := Transcribed ε) settings bridge.factory = (.error code, factory) →
          Classified .create code (· = { bridge with factory := factory })
              (· = { bridge with factory := factory }) (create options bridge) ∧
            Classified .create code (· = { bridge with factory := factory })
              (· = { bridge with factory := factory }) (createGuarded options bridge)) ∧
      ∀ operation : Operation, ∀ reason ∈ operation.catalogue, operation.code reason ≠ 0 := by
  refine ⟨?_, ?_, ?_⟩
  · intro now handle request operation fallible
    exact classified_request now fallible
  · intro options settings warnings code factory plan answered
    obtain ⟨hout, hstate⟩ := create_of_code plan answered
    obtain ⟨houtGuarded, hstateGuarded⟩ := createGuarded_of_code plan answered
    exact ⟨classified_of_classify hout (fun _ _ => hstate) (fun _ _ _ => hstate),
      classified_of_classify houtGuarded (fun _ _ => hstateGuarded) (fun _ _ _ => hstateGuarded)⟩
  · intro operation reason hmem
    exact Operation.code_ne_zero hmem

/-- An engine with one group, whose topic it will not tell: it says how long it is, and then fails
with code 0. The next engine fails to come into being, with a code. -/
def reticent (code : UInt32) : Bridge SimulatedFactory (Transcribed FaultyEngine) where
  registry := (Registry.performAll
    [.add ⟨⟨{ Registry.sampleEngine with groups := [(7, [116])] }, { groupTopicCode := some 0 }⟩,
      []⟩] (.empty {})).registry
  factory := { addressing := .legacy, failure := some code }

/-- The second call of the request for the topic is answered with code 0, which disables the
session. A code that the creation of engines may fail with is such a failure, and the one after the
last of these is none. -/
theorem reticent_classified :
    ((Bridge.request .epoch ⟨0, 1⟩ (.groupGetTopic 7) (reticent 3)).outcome =
          .error (.bridge (.contract (.unexpectedCode "group_state_queries" 0))) ∧
        ∃ session, Disabled ⟨0, 1⟩ (.unexpectedCode "group_state_queries" 0) session
          (Bridge.request .epoch ⟨0, 1⟩ (.groupGetTopic 7) (reticent 3)).state) ∧
      (create {} (reticent 3)).outcome = .error (.failed ⟨.create, .portAllocation⟩) ∧
      (createGuarded {} (reticent 10)).outcome =
        .error (.bridge (.contract (.unexpectedCode "new" 10))) := by
  obtain ⟨exchanges, hexchanges, hclassified⟩ :=
    (codes_classified (reticent 3)).1 .epoch ⟨0, 1⟩ (.groupGetTopic 7) .groupStateQueries rfl
  have hbefore : (engine? ⟨0, 1⟩ (reticent 3)).map (·.exchanges.map Exchange.code?) =
      some (List.replicate (NotificationKind.all.length + 1) none) := by
    decide +kernel
  have hafter : (engine? ⟨0, 1⟩ (Bridge.request .epoch ⟨0, 1⟩ (.groupGetTopic 7)
        (reticent 3)).state).map (·.exchanges.map Exchange.code?) =
      some (List.replicate (NotificationKind.all.length + 1) none ++ [none, some 0]) := by
    decide +kernel
  obtain ⟨asked, hasked, hcodes⟩ := Option.map_eq_some_iff.mp hbefore
  rw [hasked, Option.map_some] at hexchanges
  obtain ⟨left, hleft, hmore⟩ := Option.map_eq_some_iff.mp hexchanges
  rw [hleft, Option.map_some, hmore, List.map_append, hcodes] at hafter
  have hzero : some 0 ∈ exchanges.map Exchange.code? := by
    rw [List.append_cancel_left (Option.some.inj hafter)]
    exact List.mem_cons_of_mem _ (List.mem_singleton.mpr rfl)
  obtain ⟨exchange, hmem, hcode⟩ := List.mem_map.mp hzero
  refine ⟨(hclassified exchange hmem 0 hcode).undocumented fun reason =>
    Operation.code_ne_zero, ?_, ?_⟩
  · exact (((codes_classified (reticent 3)).2.1 {} _ _ 3 _ rfl rfl).1.documented .portAllocation
      (by decide) (by decide)).1
  · exact (((codes_classified (reticent 10)).2.1 {} _ _ 10 _ rfl rfl).2.undocumented
      (by decide)).1

end Bridge

end Switchboard
