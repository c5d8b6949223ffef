import Switchboard.Proofs.Bridge.Creation
import Switchboard.Proofs.Bridge.Disabled
import Switchboard.Proofs.Session.Calm
/-!
# Ordinary use

What becomes of a session of the simulated factory that is only used: nothing was made to fail, and
nothing is scripted or told by hand. No request breaks the contract, whatever is asked, as long as
the engine counts its files within the indices there are (`disabled_only_past_last_index`). An
engine that numbers files per direction counts on, and its 257th offer disables the session.
-/

namespace Switchboard

namespace Session

variable {addressing : Addressing} {session : Session (Transcribed SimulatedEngine)}
  {engine : Transcribed SimulatedEngine}

/-- A session that was only used so far, with its engine. -/
structure Calm (addressing : Addressing) (session : Session (Transcribed SimulatedEngine))
    (engine : Transcribed SimulatedEngine) : Prop where
  healthy : session.lockPoisoned = false
  held : session.engine = some engine
  calm : HeldSession.Calm addressing ⟨session.toCore, engine⟩

/-- A session whose engine took one offer more than there are indices. -/
structure Spent (session : Session (Transcribed SimulatedEngine))
    (engine : Transcribed SimulatedEngine) : Prop where
  healthy : session.lockPoisoned = false
  held : session.engine = some engine
  violation : session.violation = some (.indexOutOfRange 256)
  offers : engine.offers = 257

private theorem calm_opened (handle : Handle) (addressing : Addressing) (warnThreshold : UInt64)
    (steady : engine.engine.Steady) (next : engine.engine.nextFile = 0)
    (offers : engine.offers = 0) :
    Calm addressing (opened handle engine addressing warnThreshold) engine := by
  have calm : HeldSession.Calm addressing
      ⟨(opened handle engine addressing warnThreshold).toCore, engine⟩ := by
    cases addressing with
    | unified => exact ⟨rfl, steady, fun _ => rfl, nofun⟩
    | legacy =>
      have numbered : Numbered .empty engine :=
        ⟨rfl, by rw [next, offers]; rfl, by omega, fun _ _ _ => rfl⟩
      exact ⟨rfl, steady, nofun, fun _ => ⟨.empty, rfl, numbered⟩⟩
  exact ⟨rfl, rfl, calm⟩

theorem Calm.drain (calm : session.Calm addressing engine) :
    (Session.drain session).state.Calm addressing engine := by
  rw [(drain_of_healthy calm.healthy).2]
  exact ⟨calm.healthy, calm.held, calm.calm.violation, calm.calm.steady, calm.calm.unified,
    calm.calm.legacy⟩

/-- A request in ordinary use: either the session stays calm, or it is spent. -/
theorem Calm.hold (calm : session.Calm addressing engine) (now : Timestamp) {request : Request}
    (ordinary : request.isOrdinary = true) :
    (∃ left, (Session.hold (request.perform now) session).state.Calm addressing left ∧
      ∀ violation, (Session.hold (request.perform now) session).outcome ≠
        .error (.bridge (.contract violation))) ∨
    (addressing = .legacy ∧
      (∃ left, (Session.hold (request.perform now) session).state.Spent left) ∧
      (Session.hold (request.perform now) session).outcome =
        .error (.bridge (.contract (.indexOutOfRange 256)))) := by
  have sound : session.violation = none := calm.calm.violation
  have ended := HeldSession.calmly_perform now ordinary _ calm.calm
  simp only [Session.hold, calm.healthy, sound, calm.held, Bool.false_eq_true, if_false,
    Option.isSome_none]
  generalize request.perform now ⟨session.toCore, engine⟩ = ran at ended
  obtain ⟨outcome, held, entries⟩ := ran
  dsimp only at ended ⊢
  cases ended with
  | ok _ calm => exact .inl ⟨held.engine, ⟨rfl, rfl, calm⟩, fun _ broken => by cases broken⟩
  | refused tame calm =>
    refine .inl ⟨held.engine, ⟨rfl, rfl, calm⟩, fun violation same => ?_⟩
    cases same
    exact tame violation rfl
  | exhausted legacy exhausted =>
    exact .inr ⟨legacy, ⟨held.engine, rfl, rfl, exhausted.violation, exhausted.offers⟩, rfl⟩

end Session

namespace Bridge

section Runs

variable {φ : Type} {addressing : Addressing} {handle : Handle}
  {session : Session (Transcribed SimulatedEngine)} {engine : Transcribed SimulatedEngine}
  {bridge : Bridge φ (Transcribed SimulatedEngine)}

/-- A spent session refuses whatever is asked, and stays spent. -/
theorem serve_of_spent (serving : Serving handle session bridge) (spent : session.Spent engine)
    (actions : List Action) :
    (∃ last, Serving handle last (serve handle actions bridge).bridge ∧ last.Spent engine) ∧
      ∀ violation, .error (.bridge (.contract violation)) ∉
        (serve handle actions bridge).outcomes := by
  have disabled : Disabled handle (.indexOutOfRange 256) session bridge :=
    ⟨serving, spent.violation, spent.healthy⟩
  obtain ⟨last, hlast, -, hengine, houtcomes, -, -⟩ := serve_of_disabled actions disabled
  refine ⟨⟨last, hlast.serving, hlast.healthy, hengine.trans spent.held, hlast.violation,
    spent.offers⟩, fun violation broken => ?_⟩
  rw [houtcomes] at broken
  obtain ⟨_, _, same⟩ := List.mem_map.mp broken
  cases same

/-- In ordinary use the session is calm at the end, and no request broke the contract, or it is
spent, and one request did. -/
theorem serve_of_calm (actions : List Action)
    (ordinary : ∀ request ∈ requests actions, request.isOrdinary = true)
    (serving : Serving handle session bridge) (calm : session.Calm addressing engine) :
    (∃ last left, Serving handle last (serve handle actions bridge).bridge ∧
      last.Calm addressing left ∧
      ∀ violation, .error (.bridge (.contract violation)) ∉
        (serve handle actions bridge).outcomes) ∨
    (addressing = .legacy ∧
      (∃ last left, Serving handle last (serve handle actions bridge).bridge ∧
        last.Spent left) ∧
      ∀ violation, .error (.bridge (.contract violation)) ∈
          (serve handle actions bridge).outcomes ↔ violation = .indexOutOfRange 256) := by
  induction actions generalizing session engine bridge with
  | nil => exact .inl ⟨session, engine, serving, calm, fun _ => List.not_mem_nil⟩
  | cons action rest ih =>
    cases action with
    | request now request =>
      have usual : request.isOrdinary = true := ordinary request List.mem_cons_self
      have later : ∀ asked ∈ requests rest, asked.isOrdinary = true :=
        fun asked h => ordinary asked (List.mem_cons_of_mem _ h)
      obtain ⟨ended, next⟩ := serving.request now request
      simp only [serve, List.mem_cons]
      rcases calm.hold now usual with ⟨left, calm, tame⟩ | ⟨legacy, ⟨left, spent⟩, broke⟩
      · have quiet : ∀ violation, .error (.bridge (.contract violation)) ≠
            (Bridge.request now handle request bridge).outcome :=
          fun violation same => tame violation (ended.symm.trans same.symm)
        rcases ih later next calm with ⟨last, left, hlast, calm, none⟩ | ⟨legacy, spent, which⟩
        · refine .inl ⟨last, left, hlast, calm, fun violation broken => ?_⟩
          exact broken.elim (quiet violation) (none violation)
        · refine .inr ⟨legacy, spent, fun violation => ?_⟩
          rw [← which violation]
          exact or_iff_right (quiet violation)
      · obtain ⟨⟨last, hlast, spent⟩, none⟩ := serve_of_spent next spent rest
        refine .inr ⟨legacy, ⟨last, left, hlast, spent⟩, fun violation => ?_⟩
        rw [or_iff_left (none violation), ended, broke]
        constructor
        · intro same
          cases same
          rfl
        · rintro rfl
          rfl
    | drain =>
      exact ih ordinary serving.drain.2 calm.drain
    | drainEncoded =>
      rw [serve_drainEncoded]
      exact ih ordinary serving.drain.2 calm.drain

end Runs

/-! ## From the creation on -/

private theorem steady_subscribe (kinds : List NotificationKind)
    {engine left : Transcribed SimulatedEngine} {answered : Bool}
    (h : Session.subscribe kinds engine = (answered, left)) (steady : engine.engine.Steady) :
    left.engine.Steady ∧ left.engine.nextFile = engine.engine.nextFile ∧
      left.offers = engine.offers := by
  induction kinds generalizing engine with
  | nil =>
    cases h
    exact ⟨steady, rfl, rfl⟩
  | cons kind rest ih =>
    obtain ⟨value, after, performed, -, kept, next, offers⟩ :=
      Transcribed.perform_steady (c := .register kind) steady nofun nofun
    simp only [Session.subscribe, performed] at h
    obtain ⟨last, file, count⟩ := ih h kept
    exact ⟨last, file.trans next, count.trans offers⟩

private theorem made_of_create {settings : EngineSettings} {factory after : SimulatedFactory}
    {engine : Transcribed SimulatedEngine}
    (h : Factory.create settings factory = (.ok engine, after)) :
    ∃ number, engine = ⟨.make number factory.addressing settings, []⟩ := by
  obtain ⟨made, new⟩ := Transcribed.of_create h
  exact ⟨_, new.trans (by rw [SimulatedFactory.eq_make_of_create made])⟩

private theorem calm_of_create {start : Bridge SimulatedFactory (Transcribed SimulatedEngine)}
    {options : EngineOptions} {handle : Handle}
    (created : (create options start).outcome = .ok handle) :
    ∃ session engine, Serving handle session (create options start).state ∧
      session.Calm start.factory.addressing engine := by
  obtain ⟨settings, engine, factory, addressing, asked, left, made, answered, subscribed,
    serving⟩ := opened_of_create created
  obtain ⟨number, rfl⟩ := made_of_create made
  cases answered
  obtain ⟨steady, next, offers⟩ := steady_subscribe _ subscribed (SimulatedEngine.steady_make _ _ _)
  exact ⟨_, left, serving, Session.calm_opened _ _ _ steady next offers⟩

/-- A session of the simulated factory, that nobody tampers with, is disabled only when its engine
numbers files per direction and has taken the 257th offer of a file, which has no index any more.
Until then no request breaks the contract, whatever was asked in what order, and then it is that
offer alone that does. Drains go on in any case. -/
theorem disabled_only_past_last_index
    {start : Bridge SimulatedFactory (Transcribed SimulatedEngine)} {options : EngineOptions}
    {handle : Handle} (created : (create options start).outcome = .ok handle)
    {actions : List Action}
    (ordinary : ∀ request ∈ requests actions, request.isOrdinary = true) :
    ∃ session engine,
      Serving handle session (serve handle actions (create options start).state).bridge ∧
      session.engine = some engine ∧ session.lockPoisoned = false ∧
      (session.violation ≠ none ↔
        start.factory.addressing = .legacy ∧ 256 < engine.offers) ∧
      (∀ violation, .error (.bridge (.contract violation)) ∈
          (serve handle actions (create options start).state).outcomes ↔
        violation = .indexOutOfRange 256 ∧ start.factory.addressing = .legacy ∧
          256 < engine.offers) ∧
      (drain handle (serve handle actions (create options start).state).bridge).outcome =
        .ok ⟨session.events.pending⟩ := by
  obtain ⟨session, engine, serving, calm⟩ := calm_of_create created
  rcases serve_of_calm actions ordinary serving calm with
    ⟨last, left, hlast, calm, none⟩ | ⟨legacy, ⟨last, left, hlast, spent⟩, which⟩
  · have room : ¬ (start.factory.addressing = .legacy ∧ 256 < left.offers) := by
      rintro ⟨legacy, beyond⟩
      obtain ⟨table, -, numbered⟩ := calm.calm.legacy legacy
      exact absurd numbered.room (Nat.not_le.mpr beyond)
    refine ⟨last, left, hlast, calm.held, calm.healthy, ?_, fun violation => ?_, ?_⟩
    · exact ⟨fun disabled => absurd calm.calm.violation disabled, fun beyond => absurd beyond room⟩
    · exact ⟨fun broken => absurd broken (none violation), fun beyond => absurd beyond.2 room⟩
    · exact hlast.drain.1.trans (Session.drain_of_healthy calm.healthy).1
  · have beyond : 256 < left.offers := by
      rw [spent.offers]
      exact Nat.lt_succ_self 256
    refine ⟨last, left, hlast, spent.held, spent.healthy, ?_, fun violation => ?_, ?_⟩
    · rw [spent.violation]
      exact ⟨fun _ => ⟨legacy, beyond⟩, fun _ => nofun⟩
    · rw [which violation]
      exact ⟨fun same => ⟨same, legacy, beyond⟩, fun h => h.1⟩
    · exact hlast.drain.1.trans (Session.drain_of_healthy spent.healthy).1

def perDirection : Bridge SimulatedFactory (Transcribed SimulatedEngine) := unused .legacy {}

/-- A friend is added, a file is offered, cancelled and offered again, and an offer to nobody is
refused. -/
def offeredTwice : List Action :=
  [.request .epoch (.friendAddNorequest ⟨List.replicate 32 2, rfl⟩),
    .request .epoch (.fileSend 0 0 1 [97]), .request .epoch (.fileControl 0 ⟨0⟩ .cancel),
    .request .epoch (.fileSend 0 0 1 [97]), .request .epoch (.fileSend 9 0 1 [97]),
    .request .epoch .iterate]

theorem offeredTwice_spared :
    (create {} perDirection).outcome = .ok ⟨0, 1⟩ ∧
      (∀ request ∈ requests offeredTwice, request.isOrdinary = true) ∧
      ∃ session engine,
        Serving ⟨0, 1⟩ session
          (serve ⟨0, 1⟩ offeredTwice (create {} perDirection).state).bridge ∧
        session.engine = some engine ∧ engine.offers = 2 ∧ session.violation = none := by
  have created : (create {} perDirection).outcome = .ok ⟨0, 1⟩ := by rfl
  have ordinary : ∀ request ∈ requests offeredTwice, request.isOrdinary = true := by decide
  have count : (engine? ⟨0, 1⟩
      (serve ⟨0, 1⟩ offeredTwice (create {} perDirection).state).bridge).map (·.offers) =
        some 2 := by decide +kernel
  obtain ⟨session, engine, serving, held, -, disabled, -, -⟩ :=
    disabled_only_past_last_index created ordinary
  rw [serving.engine?, held] at count
  have offers : engine.offers = 2 := Option.some.inj count
  refine ⟨created, ordinary, session, engine, serving, held, offers, ?_⟩
  cases broken : session.violation with
  | none => rfl
  | some violation =>
    have beyond := (disabled.mp (by rw [broken]; exact nofun)).2
    omega

/-- A file is offered 256 times, the first offer is cancelled, and the file is offered again. -/
def offeredOnceMore : List Action :=
  .request .epoch (.friendAddNorequest ⟨List.replicate 32 2, rfl⟩) ::
    List.replicate 256 (.request .epoch (.fileSend 0 0 1 [97])) ++
    [.request .epoch (.fileControl 0 ⟨0⟩ .cancel), .request .epoch (.fileSend 0 0 1 [97])]

/-- The last of these offers breaks the contract, although an index is free. -/
theorem not_every_use_is_spared :
    ¬ ∀ (addressing : Addressing) (actions : List Action),
      (∀ request ∈ requests actions, request.isOrdinary = true) →
      ∀ violation, .error (.bridge (.contract violation)) ∉
        (serve ⟨0, 1⟩ actions
          (create {} (unused (ε := SimulatedEngine) addressing {})).state).outcomes := by
  intro spared
  have last : (serve ⟨0, 1⟩ offeredOnceMore
      (create {} (unused (ε := SimulatedEngine) .legacy {})).state).outcomes.getLast? =
        some (.error (.bridge (.contract (.indexOutOfRange 256)))) := by decide +kernel
  have ordinary : ∀ request ∈ requests offeredOnceMore, request.isOrdinary = true := by
    decide +kernel
  exact spared .legacy offeredOnceMore ordinary _ (List.mem_of_getLast? last)

end Bridge

end Switchboard
