import Switchboard.Proofs.Bridge.Moments
import Switchboard.Proofs.Session.Accomplished
/-!
# What a run accomplished

Whether or not the session was disabled or broke its lock on the way, the caller is given the events
of all moments before that and of no others, and these moments made the transfers what they are
(`left_of_run`).
-/

namespace Switchboard

namespace Bridge

variable {φ ε : Type} [Engine ε]

theorem hold_keeps {session : Session (Recorded ε)} {engine : Recorded ε} {table : Transfer.Table}
    (works : Works session engine table) (now : Timestamp) (request : Request) :
    let ran := Session.hold (request.perform now) session
    let done := accomplished (request.moments engine ran.outcome) table
    ran.state.events = session.events.pushAll now done.events ∧
      ∃ left, ran.state.transfers = some left ∧ left.entries = done.table.entries := by
  have hkeeps := HeldSession.keeps_perform now request
    (show (⟨session.toCore, engine⟩ : HeldSession (Recorded ε)).transfers = some table
      from works.transfers) works.able
  simp only [Session.hold, works.healthy, works.able, works.engine, Bool.false_eq_true, if_false,
    Option.isSome_none]
  exact ⟨hkeeps.events, hkeeps.transfers⟩

private theorem hold_not_granted {session : Session (Recorded ε)} {engine : Recorded ε}
    {table : Transfer.Table} (works : Works session engine table) (now : Timestamp)
    (request : Request) :
    let ran := Session.hold (request.perform now) session
    follow (request.moments engine ran.outcome) table = none →
      ∀ moment ∈ request.moments engine ran.outcome, moment.granted = false := by
  simp only [Session.hold, works.healthy, works.able, works.engine, Bool.false_eq_true, if_false,
    Option.isSome_none]
  exact HeldSession.not_granted_of_follow now
    (show (⟨session.toCore, engine⟩ : HeldSession (Recorded ε)).transfers = some table
      from works.transfers) works.able

/-- A request that is no pass and is not granted leaves the transfers as they were. -/
theorem transfers_of_refused {session : Session (Recorded ε)} (now : Timestamp) {request : Request}
    (hi : request ≠ .iterate) (hd : ∀ fired, request ≠ .invoke fired)
    (h : ∀ reply, (Session.hold (request.perform now) session).outcome ≠ .ok reply) :
    (Session.hold (request.perform now) session).state.transfers = session.transfers := by
  revert h
  unfold Session.hold
  split
  · exact fun _ => rfl
  · split
    · exact fun _ => rfl
    · split
      · exact fun _ => rfl
      · exact fun h => ((HeldSession.atomic_perform now hi hd).same h).2

section Runs

variable {handle : Handle} {bridge : Bridge φ (Recorded ε)} {session : Session (Recorded ε)}
  {engine : Recorded ε} {table : Transfer.Table}

/-- What is left of a run that began with this session: the events of the effect are drained or
wait, and its transfers are there. -/
def Leads (handle : Handle) (session : Session (Recorded ε)) (served : Served φ (Recorded ε))
    (effect : Effect) : Prop :=
  ∃ last left, Serving handle last served.bridge ∧
    (served.drained ++ last.events.pending).map (·.event) =
      session.events.pending.map (·.event) ++ effect.events ∧
    last.transfers = some left ∧ left.entries = effect.table.entries

private theorem leads_serve (actions : List Action) (serving : Serving handle session bridge)
    (works : Works session engine table) :
    Leads handle session (serve handle actions bridge)
      (accomplished (moments handle actions bridge) table) := by
  induction actions generalizing session bridge engine table with
  | nil => exact ⟨session, table, serving, (List.append_nil _).symm, works.transfers, rfl⟩
  | cons action rest ih =>
    have hdrain : Leads handle session (serve handle (.drain :: rest) bridge)
        (accomplished (moments handle (.drain :: rest) bridge) table) := by
      obtain ⟨last, left, hlast, hevents, hleft⟩ := ih serving.drain.2 (drain_of_works works).2.1
      exact ⟨last, left, hlast, drained_of_drain serving works hevents, hleft⟩
    cases action with
    | request now request =>
      obtain ⟨ho, hserving⟩ := serving.request now request
      have hworks := hold_of_works works now request
      obtain ⟨hkept, left, hleft, hentries⟩ := hold_keeps works now request
      dsimp only at hworks hkept hentries
      simp only [moments, serving.engine?, works.engine, Option.map_some, Option.getD_some, ho]
      cases hf : follow (request.moments engine
        (Session.hold (request.perform now) session).outcome) table with
      | none =>
        rw [hf] at hworks
        obtain ⟨last, hlast, -, hevents, htransfers⟩ := serve_of_down rest hserving hworks
        rw [accomplished_append_of_none hf]
        refine ⟨last, left, hlast, ?_, htransfers.trans hleft, hentries⟩
        rw [← EventQueue.events_pushAll now, ← hkept, ← hevents]
        rfl
      | some effect =>
        rw [hf] at hworks
        obtain ⟨after, hafter, hevents, -⟩ := hworks
        obtain ⟨last, left, hlast, hrest, hleft⟩ := ih hserving hafter
        rw [accomplished_append_of_follow hf]
        refine ⟨last, left, hlast, ?_, hleft⟩
        rw [hevents, EventQueue.events_pushAll, List.append_assoc] at hrest
        exact hrest
    | drain => exact hdrain
    | drainEncoded =>
      rw [serve_drainEncoded, moments_drainEncoded]
      exact hdrain

/-! ## Answers -/

/-- A session that is down answers nothing but failures. -/
theorem not_granted_of_down (actions : List Action) (serving : Serving handle session bridge)
    (down : Down session) : ∀ moment ∈ moments handle actions bridge, moment.granted = false := by
  induction actions generalizing session bridge with
  | nil => exact fun _ hm => nomatch hm
  | cons action rest ih =>
    have hdrain := ih serving.drain.2 (drain_of_down down).1
    cases action with
    | request now request =>
      obtain ⟨ho, hserving⟩ := serving.request now request
      rw [hold_of_down down] at hserving
      intro moment hm
      rcases List.mem_append.mp hm with hm | hm
      · rw [ho] at hm
        cases he : engine? handle bridge with
        | none =>
          rw [he] at hm
          cases hm
        | some engine =>
          rw [he] at hm
          exact Request.not_granted_of_not_ok (not_ok_of_down down now request) moment hm
      · exact ih hserving down moment hm
    | drain => exact hdrain
    | drainEncoded => rwa [moments_drainEncoded]

/-- The moments of a run have an effect up to one behind which every answer is a failure. -/
theorem exists_granted (actions : List Action) (serving : Serving handle session bridge)
    (works : Works session engine table) :
    ∃ happened rest, moments handle actions bridge = happened ++ rest ∧
      follow happened table = some (accomplished (moments handle actions bridge) table) ∧
      ∀ moment ∈ rest, moment.granted = false := by
  induction actions generalizing session bridge engine table with
  | nil => exact ⟨[], [], rfl, rfl, fun _ hm => nomatch hm⟩
  | cons action rest ih =>
    have hdrain := ih serving.drain.2 (drain_of_works works).2.1
    cases action with
    | request now request =>
      obtain ⟨ho, hserving⟩ := serving.request now request
      have hworks := hold_of_works works now request
      have hrefused := hold_not_granted works now request
      dsimp only at hworks hrefused
      simp only [moments, serving.engine?, works.engine, Option.map_some, Option.getD_some, ho]
      cases hf : follow (request.moments engine
        (Session.hold (request.perform now) session).outcome) table with
      | none =>
        rw [hf] at hworks
        rw [accomplished_append_of_none hf]
        obtain ⟨happened, later, hsplit, hfollow, -⟩ := exists_follow_accomplished
          (request.moments engine (Session.hold (request.perform now) session).outcome) table
        refine ⟨happened,
          later ++ moments handle rest (Bridge.request now handle request bridge).state, ?_,
          hfollow, fun moment hm => ?_⟩
        · rw [hsplit, List.append_assoc]
        · rcases List.mem_append.mp hm with hm | hm
          · exact hrefused hf moment (hsplit ▸ List.mem_append_right _ hm)
          · exact not_granted_of_down rest hserving hworks moment hm
      | some effect =>
        rw [hf] at hworks
        obtain ⟨after, hafter, -⟩ := hworks
        obtain ⟨happened, later, hsplit, hfollow, hlater⟩ := ih hserving hafter
        refine ⟨request.moments engine (Session.hold (request.perform now) session).outcome ++
          happened, later, ?_, ?_, hlater⟩
        · rw [hsplit, List.append_assoc]
        · rw [accomplished_append_of_follow hf, follow_append, hf, Option.bind_some, hfollow]
          rfl
    | drain => exact hdrain
    | drainEncoded => rwa [moments_drainEncoded]

omit [Engine ε] in
/-- An answer among the moments of a run is the answer to one of its requests. -/
theorem exists_request_of_answered [Engine ε] {bridge : Bridge φ ε} {actions : List Action}
    {before after : List Moment} {request : Request} {outcome : Outcome CallError Reply}
    (h : moments handle actions bridge = before ++ .answered request outcome :: after) :
    ∃ earlier now later, actions = earlier ++ .request now request :: later ∧
      (Bridge.request now handle request (serve handle earlier bridge).bridge).outcome = outcome ∧
      moments handle earlier bridge = before ∧
      moments handle later
        (Bridge.request now handle request (serve handle earlier bridge).bridge).state = after := by
  induction actions generalizing bridge before with
  | nil => exact absurd h.symm (by simp [moments])
  | cons action rest ih =>
    cases action with
    | request now asked =>
      have hsplit : (∃ more, before = moments handle [.request now asked] bridge ++ more ∧
            moments handle rest (Bridge.request now handle asked bridge).state =
              more ++ .answered request outcome :: after) ∨
          before = [] ∧ request = asked ∧
            outcome = (Bridge.request now handle asked bridge).outcome ∧
            moments handle rest (Bridge.request now handle asked bridge).state = after := by
        simp only [moments, List.append_nil] at h ⊢
        cases he : engine? handle bridge with
        | none =>
          rw [he] at h
          exact .inl ⟨before, rfl, h⟩
        | some engine =>
          rw [he] at h
          exact Request.split_of_answered h
      rcases hsplit with ⟨more, rfl, hrest⟩ | ⟨rfl, rfl, rfl, hafter⟩
      · obtain ⟨earlier, time, later, rfl, houtcome, rfl, hafter⟩ := ih hrest
        refine ⟨.request now asked :: earlier, time, later, rfl, houtcome, ?_, hafter⟩
        simp only [moments, List.append_nil]
      · exact ⟨[], now, rest, rfl, rfl, rfl, hafter⟩
    | drain =>
      obtain ⟨earlier, now, later, rfl, hrest⟩ := ih h
      exact ⟨.drain :: earlier, now, later, rfl, hrest⟩
    | drainEncoded =>
      obtain ⟨earlier, now, later, rfl, hrest⟩ := ih h
      exact ⟨.drainEncoded :: earlier, now, later, rfl, hrest⟩

/-- What a run leaves for the caller, and of the transfers. -/
structure Left (handle : Handle) (actions : List Action) (bridge : Bridge φ (Recorded ε))
    (effect : Effect) : Prop where
  delivered : (delivered handle actions bridge).map (·.event) = effect.events
  transfers : ∃ last left, Serving handle last (serve handle actions bridge).bridge ∧
    last.transfers = some left ∧ left.entries = effect.table.entries

/-- Every run of a new session leaves what its moments accomplished. -/
theorem left_of_run [Factory φ ε] {options : EngineOptions} {start : Bridge φ (Recorded ε)}
    (created : (create options start).outcome = .ok handle)
    (legacy : table? handle (create options start).state = some .empty) (actions : List Action) :
    Left handle actions (create options start).state
      (accomplished (moments handle actions (create options start).state) .empty) := by
  obtain ⟨session, engine, serving, works, hevents, -⟩ := works_of_create created legacy
  obtain ⟨last, left, hlast, hdelivered, hleft⟩ := leads_serve actions serving works
  refine ⟨?_, last, left, hlast, hleft⟩
  rw [delivered, hlast.waiting, hdelivered, hevents]
  rfl

/-- The transfers that a run leaves are those of its moments up to the first without an effect, and
the caller is given the events of these. -/
theorem follow_of_run [Factory φ ε] {options : EngineOptions} {start : Bridge φ (Recorded ε)}
    (created : (create options start).outcome = .ok handle)
    (legacy : table? handle (create options start).state = some .empty) (actions : List Action)
    {table : Transfer.Table}
    (ht : table? handle (serve handle actions (create options start).state).bridge = some table) :
    ∃ happened rest effect,
      moments handle actions (create options start).state = happened ++ rest ∧
      follow happened .empty = some effect ∧
      (delivered handle actions (create options start).state).map (·.event) = effect.events ∧
      table.entries = effect.table.entries := by
  obtain ⟨hdelivered, last, left, serving, htransfers, hentries⟩ :=
    left_of_run created legacy actions
  obtain rfl : left = table :=
    Option.some.inj (htransfers.symm.trans (serving.table?.symm.trans ht))
  obtain ⟨happened, rest, hsplit, hfollow, -⟩ :=
    exists_follow_accomplished (moments handle actions (create options start).state) .empty
  exact ⟨happened, rest, _, hsplit, hfollow, hdelivered, hentries⟩

/-- The events of a part of the run that has an effect are delivered, after those before it. -/
theorem prefix_delivered [Factory φ ε] {options : EngineOptions} {start : Bridge φ (Recorded ε)}
    {actions : List Action} {first second rest : List Moment} {reached more : Effect}
    (created : (create options start).outcome = .ok handle)
    (legacy : table? handle (create options start).state = some .empty)
    (run : moments handle actions (create options start).state = first ++ (second ++ rest))
    (begun : follow first .empty = some reached)
    (happened : follow second reached.table = some more) :
    reached.events ++ more.events <+:
      (delivered handle actions (create options start).state).map (·.event) := by
  rw [(left_of_run created legacy actions).delivered, run, accomplished_append_of_follow begun,
    accomplished_append_of_follow happened, Effect.events_append, Effect.events_append,
    ← List.append_assoc]
  exact List.prefix_append _ _

end Runs

end Bridge

end Switchboard
