import Switchboard.Proofs.Session.Atomic
import Switchboard.Proofs.Session.Effects
/-!
# What was accomplished

A pass may disable the session or break its lock with some of its moments done. These stay done: the
events wait for the caller, and the transfers are what they had become (`keeps_perform`).
-/

namespace Switchboard

/-- The effect of moments up to the first that has none. -/
def accomplished : List Moment → Transfer.Table → Effect
  | [], table => .still table
  | moment :: rest, table =>
    match moment.effect table with
    | none => .still table
    | some effect => effect.append (accomplished rest effect.table)

section Accomplished

variable {table : Transfer.Table} {effect : Effect}

private theorem accomplished_cons_of_effect {moment : Moment}
    (h : moment.effect table = some effect) (rest : List Moment) :
    accomplished (moment :: rest) table = effect.append (accomplished rest effect.table) := by
  rw [accomplished, h]

private theorem accomplished_cons_of_none {moment : Moment} (h : moment.effect table = none)
    (rest : List Moment) : accomplished (moment :: rest) table = .still table := by
  rw [accomplished, h]

theorem accomplished_append_of_follow {first : List Moment} (h : follow first table = some effect)
    (second : List Moment) :
    accomplished (first ++ second) table = effect.append (accomplished second effect.table) := by
  induction first generalizing table effect with
  | nil =>
    cases h
    exact (Effect.still_append _ _).symm
  | cons moment rest ih =>
    obtain ⟨here, more, he, hm, rfl⟩ := split_of_follow h
    rw [List.cons_append, accomplished_cons_of_effect he, ih hm, Effect.append_assoc]
    rfl

private theorem accomplished_of_follow {moments : List Moment}
    (h : follow moments table = some effect) : accomplished moments table = effect := by
  have happend := accomplished_append_of_follow h []
  rw [List.append_nil] at happend
  rw [happend]
  simp only [accomplished, Effect.append, Effect.still, List.append_nil]

private theorem accomplished_singleton {moment : Moment} (h : moment.effect table = some effect) :
    accomplished [moment] table = effect :=
  accomplished_of_follow ((follow_singleton moment table).trans h)

/-- What comes after a moment without an effect adds nothing. -/
theorem accomplished_append_of_none {first : List Moment} (h : follow first table = none)
    (second : List Moment) : accomplished (first ++ second) table = accomplished first table := by
  induction first generalizing table with
  | nil => cases h
  | cons moment rest ih =>
    cases he : moment.effect table with
    | none => rw [List.cons_append, accomplished_cons_of_none he, accomplished_cons_of_none he]
    | some effect =>
      rw [follow_cons_of_effect he, Option.map_eq_none_iff] at h
      rw [List.cons_append, accomplished_cons_of_effect he, accomplished_cons_of_effect he, ih h]

/-- What was accomplished is the effect of the moments before the first that has none. -/
theorem exists_follow_accomplished (moments : List Moment) (table : Transfer.Table) :
    ∃ happened rest, moments = happened ++ rest ∧
      follow happened table = some (accomplished moments table) ∧
      ∀ moment ∈ rest.head?, moment.effect (accomplished moments table).table = none := by
  induction moments generalizing table with
  | nil => exact ⟨[], [], rfl, rfl, fun _ h => nomatch h⟩
  | cons moment rest ih =>
    cases he : moment.effect table with
    | none =>
      rw [accomplished_cons_of_none he]
      refine ⟨[], moment :: rest, rfl, rfl, fun _ h => ?_⟩
      cases h
      exact he
    | some effect =>
      obtain ⟨happened, later, rfl, hf, hn⟩ := ih effect.table
      rw [accomplished_cons_of_effect he]
      refine ⟨moment :: happened, later, rfl, ?_, hn⟩
      rw [follow_cons_of_effect he, hf]
      rfl

/-- The event comes about at this moment, which finds this table, after the events before it. -/
def Arises (moments : List Moment) (start : Transfer.Table) (before : List Event) (event : Event)
    (moment : Moment) (found : Transfer.Table) : Prop :=
  ∃ earlier later reached here first,
    moments = earlier ++ moment :: later ∧ follow earlier start = some reached ∧
    reached.table = found ∧ moment.effect found = some here ∧
    before = reached.events ++ first ∧ first ++ [event] <+: here.events

private theorem Arises.prefix_accomplished {moments : List Moment} {before : List Event}
    {event : Event} {moment : Moment} {found : Transfer.Table}
    (h : Arises moments table before event moment found) :
    before ++ [event] <+: (accomplished moments table).events := by
  obtain ⟨earlier, later, reached, here, first, rfl, hf, rfl, he, rfl, hin⟩ := h
  rw [accomplished_append_of_follow hf, accomplished_cons_of_effect he, Effect.events_append,
    Effect.events_append, List.append_assoc, List.prefix_append_right_inj]
  exact hin.trans (List.prefix_append _ _)

/-- Each event came about at some moment. -/
theorem exists_arises {moments : List Moment} {before : List Event} {event : Event}
    (h : before ++ [event] <+: (accomplished moments table).events) :
    ∃ moment found, Arises moments table before event moment found := by
  induction moments generalizing table before with
  | nil =>
    have hnil : before ++ [event] = [] := List.prefix_nil.mp h
    exact absurd hnil (by simp)
  | cons moment rest ih =>
    cases he : moment.effect table with
    | none =>
      rw [accomplished_cons_of_none he] at h
      have hnil : before ++ [event] = [] := List.prefix_nil.mp h
      exact absurd hnil (by simp)
    | some effect =>
      rw [accomplished_cons_of_effect he, Effect.events_append] at h
      by_cases hlong : effect.events.length ≤ before.length
      · obtain ⟨more, rfl⟩ : effect.events <+: before :=
          List.prefix_of_prefix_length_le (List.prefix_append _ _)
            ((List.prefix_append _ _).trans h) hlong
        rw [List.append_assoc, List.prefix_append_right_inj] at h
        obtain ⟨found, _, earlier, later, reached, here, first, rfl, hf, rfl, hh, rfl, hin⟩ := ih h
        refine ⟨found, _, moment :: earlier, later, effect.append reached, here, first, rfl, ?_,
          rfl, hh, ?_, hin⟩
        · rw [follow_cons_of_effect he, hf]
          rfl
        · rw [Effect.events_append, List.append_assoc]
      · have hin : before ++ [event] <+: effect.events := by
          apply List.prefix_of_prefix_length_le h (List.prefix_append _ _)
          rw [List.length_append, List.length_singleton]
          omega
        exact ⟨moment, table, [], rest, .still table, effect, before, rfl, rfl, rfl, he, rfl, hin⟩

theorem prefix_accomplished_iff {moments : List Moment} {before : List Event} {event : Event} :
    before ++ [event] <+: (accomplished moments table).events ↔
      ∃ moment found, Arises moments table before event moment found := by
  refine ⟨exists_arises, ?_⟩
  rintro ⟨moment, found, h⟩
  exact h.prefix_accomplished

end Accomplished

/-- A request that is no pass was answered, and not with a failure. -/
def Moment.granted : Moment → Bool
  | .answered _ (.ok _) => true
  | _ => false

/-- A request is a pass, or its answer is its only moment. -/
theorem Request.moments_cases {ε : Type} [Engine ε] (engine : ε) (request : Request)
    (outcome : Outcome CallError Reply) :
    request = .iterate ∨ (∃ fired, request = .invoke fired) ∨
      request.moments engine outcome = [.answered request outcome] ∧ request ≠ .iterate ∧
        ∀ fired, request ≠ .invoke fired := by
  cases request with
  | iterate => exact .inl rfl
  | invoke fired => exact .inr (.inl ⟨fired, rfl⟩)
  | _ => exact .inr (.inr ⟨rfl, fun e => (nomatch e), fun _ e => (nomatch e)⟩)

theorem Request.answered_of_mem {ε : Type} [Engine ε] {engine : ε} {asked request : Request}
    {outcome ended : Outcome CallError Reply}
    (hm : Moment.answered asked ended ∈ request.moments engine outcome) :
    asked = request ∧ ended = outcome ∧
      request.moments engine outcome = [.answered request outcome] ∧ request ≠ .iterate ∧
        ∀ fired, request ≠ .invoke fired := by
  have hpass : ∀ notifications : List Notification,
      Moment.answered asked ended ∉ notifications.map .noticed ++ [.passed outcome] := by
    simp
  rcases request.moments_cases engine outcome with rfl | ⟨fired, rfl⟩ | ⟨hone, hrest⟩
  · exact absurd hm (hpass _)
  · exact absurd hm (hpass _)
  · rw [hone, List.mem_singleton] at hm
    cases hm
    exact ⟨rfl, rfl, hone, hrest⟩

/-- An answer that comes after moments of another request or is the first of them. -/
theorem Request.split_of_answered {ε : Type} [Engine ε] {engine : ε} {asked request : Request}
    {ended outcome : Outcome CallError Reply} {before after later : List Moment}
    (h : request.moments engine outcome ++ later = before ++ .answered asked ended :: after) :
    (∃ more, before = request.moments engine outcome ++ more ∧
        later = more ++ .answered asked ended :: after) ∨
      before = [] ∧ asked = request ∧ ended = outcome ∧ later = after := by
  rcases List.append_eq_append_iff.mp h with ⟨more, hbefore, hlater⟩ | ⟨more, hfirst, hlater⟩
  · exact .inl ⟨more, hbefore, hlater⟩
  · cases more with
    | nil =>
      rw [List.append_nil] at hfirst
      exact .inl ⟨[], by rw [hfirst, List.append_nil], hlater.symm⟩
    | cons moment more =>
      cases hlater
      obtain ⟨rfl, rfl, hone, -⟩ := answered_of_mem (ε := ε)
        (hfirst ▸ List.mem_append_right before List.mem_cons_self)
      rw [hone] at hfirst
      cases before with
      | nil =>
        obtain rfl : more = [] := (List.cons.inj hfirst).2.symm
        exact .inr ⟨rfl, rfl, rfl, rfl⟩
      | cons _ _ => exact absurd (List.cons.inj hfirst).2.symm (by simp)

private theorem Moment.granted_iff {moment : Moment} :
    moment.granted = true ↔ ∃ request reply, moment = .answered request (.ok reply) := by
  constructor
  · intro h
    cases moment with
    | answered request outcome =>
      cases outcome with
      | ok reply => exact ⟨request, reply, rfl⟩
      | _ => cases h
    | _ => cases h
  · rintro ⟨request, reply, rfl⟩
    rfl

theorem Request.not_granted_of_not_ok {ε : Type} [Engine ε] {engine : ε} {request : Request}
    {outcome : Outcome CallError Reply} (h : ∀ reply, outcome ≠ .ok reply) :
    ∀ moment ∈ request.moments engine outcome, moment.granted = false := by
  intro moment hm
  rw [← Bool.not_eq_true, Moment.granted_iff]
  rintro ⟨asked, reply, rfl⟩
  exact h reply (answered_of_mem hm).2.1.symm

namespace HeldSession

variable {ε α : Type}

/-! ## What is kept -/

/-- An answer without an effect would have disabled the session. -/
theorem Atomic.not_ok {now : Timestamp} {held : HeldSession (Recorded ε)}
    {operation : Held (Recorded ε) α} (atomic : Atomic operation) (hv : held.violation = none)
    (followed : Followed now held none (operation held).outcome (operation held).state)
    (value : α) : (operation held).outcome ≠ .ok value := by
  intro hok
  have hatomic := atomic held
  rcases hran : operation held with ⟨outcome, after, entries⟩
  rw [hran] at followed hatomic hok
  dsimp only at followed hatomic hok
  subst hok
  cases followed with
  | disabled hd =>
    rw [hatomic, hv] at hd
    cases hd

variable [Engine ε]

structure Keeps (now : Timestamp) (held : HeldSession ε) (effect : Effect)
    (after : HeldSession ε) : Prop where
  events : after.events = held.events.pushAll now effect.events
  transfers : ∃ table, after.transfers = some table ∧ table.entries = effect.table.entries

section Keeps

variable {now : Timestamp} {held : HeldSession (Recorded ε)} {table : Transfer.Table}

omit [Engine ε] in
private theorem keeps_answered (ht : held.transfers = some table) (hv : held.violation = none)
    {request : Request} {operation : Held (Recorded ε) Reply} (atomic : Atomic operation)
    (followed : Followed now held
      (follow [.answered request (operation held).outcome] table)
      (operation held).outcome (operation held).state) :
    Keeps now held (accomplished [.answered request (operation held).outcome] table)
      (operation held).state := by
  rw [follow_singleton] at followed
  cases he : (Moment.answered request (operation held).outcome).effect table with
  | some effect =>
    rw [he] at followed
    rw [accomplished_singleton he]
    cases followed with
    | shown ho hs => exact ⟨hs.events, effect.table, hs.transfers, rfl⟩
  | none =>
    rw [he] at followed
    rw [accomplished_cons_of_none he]
    obtain ⟨hevents, htransfers⟩ := atomic.same (atomic.not_ok hv followed)
    exact ⟨hevents, table, htransfers.trans ht, rfl⟩

private theorem keeps_dispatch (now : Timestamp) (ht : held.transfers = some table)
    (fired : Fired) :
    let ran := Run.andThen (dispatch now fired held) fun _ => pure Reply.done
    Keeps now held
      (accomplished (fired.notifications.map .noticed ++ [.passed ran.outcome]) table)
      ran.state := by
  obtain ⟨notifications, panics⟩ := fired
  obtain ⟨clean, rest, events, after, rfl, htr, hrest⟩ :=
    Notification.exists_translated notifications held.transfers
  obtain ⟨reached, rfl, hfollow⟩ := follow_translated htr ht
  obtain ⟨ho, hs⟩ := receiveAll_of_translated now htr rest
  dsimp only
  rw [List.map_append, List.append_assoc, accomplished_append_of_follow hfollow]
  have hevents : ∀ more, held.events.pushAll now (events ++ more) =
      (held.events.pushAll now events).pushAll now more :=
    fun more => EventQueue.pushAll_append now events more held.events
  rcases hrest with rfl | ⟨notification, later, violation, rfl, hviolates⟩
  · simp only [List.map_nil, List.nil_append, dispatch, Run.bind_apply, Run.andThen, ho, hs,
      receiveAll, Run.pure_apply]
    cases panics with
    | true => exact ⟨(hevents []).symm, reached, rfl, rfl⟩
    | false =>
      simp only [Bool.false_eq_true, if_false]
      have hsettled := settled_settle now
        { held with events := held.events.pushAll now events, transfers := some reached }
      rcases hran : settle now
        { held with events := held.events.pushAll now events, transfers := some reached } with
        ⟨outcome, state, entries⟩
      rw [hran] at hsettled
      obtain ⟨core, engine⟩ := state
      dsimp only at hsettled ⊢
      cases hsettled with
      | flushed warned hf =>
        have hended := accomplished_singleton
          (show (Moment.passed (.ok .done)).effect reached = some _ from rfl)
        rw [hended]
        exact ⟨(hevents reached.requestChunks.1).symm, _, rfl, rfl⟩
      | undocumented hu => exact ⟨(hevents []).symm, _, rfl, rfl⟩
      | panicked => exact ⟨(hevents []).symm, _, rfl, rfl⟩
  · have hnone : ∀ more, accomplished (.noticed notification :: more) reached = .still reached := by
      intro more
      have hfollow := follow_violates hviolates []
      rw [follow_singleton] at hfollow
      exact accomplished_cons_of_none hfollow more
    obtain ⟨hvo, hvs⟩ := receiveAll_of_violates now
      (show notification.Violates ({ held with
        events := held.events.pushAll now events
        transfers := some reached } : HeldSession (Recorded ε)).transfers violation
        from hviolates) later
    simp only [dispatch, Run.bind_apply, Run.andThen, ho, hs, hvo, hvs, List.map_cons,
      List.cons_append, hnone]
    cases panics with
    | true => exact ⟨(hevents []).symm, reached, rfl, rfl⟩
    | false => exact ⟨(hevents []).symm, reached, rfl, rfl⟩

private theorem keeps_iterate (now : Timestamp) (ht : held.transfers = some table) :
    let ran := Request.perform now .iterate held
    Keeps now held (accomplished (Request.moments held.engine .iterate ran.outcome) table)
      ran.state := by
  rcases hp : Engine.perform .iterate held.engine with ⟨answer, engine⟩
  simp only [Request.perform, iterate, Run.bind_apply, call, hp, Request.moments]
  cases answer with
  | none => exact ⟨rfl, table, ht, rfl⟩
  | some fired =>
    let asked : HeldSession (Recorded ε) := { held with engine := engine }
    have hdispatch := keeps_dispatch now (show asked.transfers = some table from ht) fired
    simp only [Run.andThen_ok]
    rcases hran : dispatch now fired { held with engine := engine } with ⟨outcome, state, entries⟩
    rw [hran] at hdispatch
    cases outcome <;> exact ⟨hdispatch.events, hdispatch.transfers⟩

/-- Whatever a request comes to, what its moments accomplished is kept. -/
theorem keeps_perform (now : Timestamp) (request : Request) (ht : held.transfers = some table)
    (hv : held.violation = none) :
    Keeps now held
      (accomplished (request.moments held.engine (request.perform now held).outcome) table)
      (request.perform now held).state := by
  have hfollowed := followed_perform now request ht hv
  rcases request.moments_cases held.engine (request.perform now held).outcome with
    rfl | ⟨fired, rfl⟩ | ⟨hmoments, hi, hd⟩
  · exact keeps_iterate now ht
  · exact keeps_dispatch now ht fired
  · rw [hmoments] at hfollowed ⊢
    exact keeps_answered ht hv (atomic_perform now hi hd) hfollowed

/-- If the moments of a request come to nothing, none of them is an answer that is no failure. -/
theorem not_granted_of_follow (now : Timestamp) {request : Request}
    (ht : held.transfers = some table) (hv : held.violation = none)
    (h : follow (request.moments held.engine (request.perform now held).outcome) table = none) :
    ∀ moment ∈ request.moments held.engine (request.perform now held).outcome,
      moment.granted = false := by
  intro moment hm
  rw [← Bool.not_eq_true, Moment.granted_iff]
  rintro ⟨asked, reply, rfl⟩
  obtain ⟨-, hok, -, hi, hd⟩ := Request.answered_of_mem hm
  have hfollowed := followed_perform now request ht hv
  rw [h] at hfollowed
  exact (atomic_perform now hi hd).not_ok hv hfollowed reply hok.symm

end Keeps

end HeldSession

end Switchboard
