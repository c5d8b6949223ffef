import Switchboard.Proofs.Recorded
import Switchboard.Proofs.Session.Asked
import Switchboard.Proofs.Session.Moments
import Switchboard.Proofs.Session.Pass
import Switchboard.Proofs.Transfer.Local
/-!
# The effect of requests

A request of a session that has a transfer table has the effect of its moments, or these have none
and the session is disabled or its lock broken (`followed_perform`). All requests but passes and
those about files leave everything but the engine as it was (`Makes`).
-/

namespace Switchboard

namespace Recorded

/-- The calls about transfers among those that were made. -/
def transferCalls {ε : Type} (recorded : Recorded ε) : List Call :=
  recorded.calls.filter Call.isTransfer

theorem transferCalls_perform {ε : Type} [Engine ε] (call : Call) (recorded : Recorded ε) :
    (Engine.perform call recorded).2.transferCalls =
      recorded.transferCalls ++ if call.isTransfer then [call] else [] := by
  have hcalls : (Engine.perform call recorded).2.calls = recorded.calls ++ [call] := rfl
  rw [transferCalls, hcalls, List.filter_append, List.filter_cons]
  rfl

end Recorded

/-- The moments of a request that an engine was asked and that was answered with this. -/
def Request.moments {ε : Type} [Engine ε] (engine : ε) (request : Request)
    (outcome : Outcome CallError Reply) : List Moment :=
  match request with
  | .iterate =>
    (((Engine.perform .iterate engine).1.map (·.notifications)).getD []).map .noticed ++
      [.passed outcome]
  | .invoke fired => fired.notifications.map .noticed ++ [.passed outcome]
  | request => [.answered request outcome]

namespace HeldSession

variable {ε α β : Type}

/-! ## Operations that leave all but the engine -/

/-- The engine was called, and nothing else has changed but that the session may be disabled. -/
inductive Leaves (held : HeldSession (Recorded ε)) (calls : List Call) :
    Outcome CallError α → HeldSession (Recorded ε) → Prop
  | answered (value : α) {engine : Recorded ε} :
    engine.transferCalls = held.engine.transferCalls ++ calls →
    Leaves held calls (.ok value) { held with engine := engine }
  | refused (failure : Failure) {engine : Recorded ε} :
    engine.transferCalls = held.engine.transferCalls ++ calls →
    Leaves held calls (.error (.failed failure)) { held with engine := engine }
  | disabled (cause : BridgeError) (violation : Violation) (engine : Recorded ε) :
    Leaves held calls (.error (.bridge cause))
      { held with engine := engine, violation := some violation }
  | panicked (engine : Recorded ε) : Leaves held calls .panic { held with engine := engine }

/-- From every session the operation makes these calls about transfers, and leaves all but the
engine. -/
def Makes (calls : List Call) (operation : Held (Recorded ε) α) : Prop :=
  ∀ held, Leaves held calls (operation held).outcome (operation held).state

private theorem makes_pure (value : α) : Makes (ε := ε) [] (pure value) :=
  fun _ => .answered value (List.append_nil _).symm

theorem Makes.bind {calls : List Call} {first : Held (Recorded ε) α}
    {next : α → Held (Recorded ε) β} (hf : Makes calls first)
    (hn : ∀ value, Makes [] (next value)) : Makes calls (first >>= next) := by
  intro held
  have hfirst := hf held
  rcases hran : first held with ⟨outcome, state, entries⟩
  rw [hran] at hfirst
  simp only [Run.bind_apply, hran]
  cases hfirst with
  | @answered value engine hc =>
    have hnext := hn value { held with engine := engine }
    simp only [Run.andThen_ok]
    generalize (next value { held with engine := engine }).outcome = outcome,
      (next value { held with engine := engine }).state = last at hnext
    cases hnext with
    | answered result hr =>
      rw [List.append_nil] at hr
      exact .answered result (hr.trans hc)
    | refused failure hr =>
      rw [List.append_nil] at hr
      exact .refused failure (hr.trans hc)
    | disabled cause violation => exact .disabled cause violation _
    | panicked => exact .panicked _
  | refused failure hc => exact .refused failure hc
  | disabled cause violation engine => exact .disabled cause violation engine
  | panicked engine => exact .panicked engine

private theorem makes_log (level : Log.Level) (message : String)
    (fields : List (String × Log.Value)) : Makes (ε := ε) [] (log level message fields) :=
  fun _ => .answered () (List.append_nil _).symm

private theorem makes_poison (violation : Violation) :
    Makes (ε := ε) (α := α) [] (poison violation) :=
  fun held => .disabled _ violation held.engine

private theorem makes_refuse (operation : Operation) (reason : Reason) :
    Makes (ε := ε) (α := α) [] (refuse operation reason) :=
  fun _ => .refused _ (List.append_nil _).symm

section Called

variable [Engine ε]

private theorem makes_call (c : Call) :
    Makes (ε := ε) (if c.isTransfer then [c] else []) (call c) := by
  intro held
  have hcalls := Recorded.transferCalls_perform c held.engine
  rcases hp : Engine.perform c held.engine with ⟨answer, engine⟩
  rw [hp] at hcalls
  simp only [call, hp]
  cases answer with
  | none => exact .panicked engine
  | some value => exact .answered value hcalls

private theorem makes_told {c : Call} (hc : c.isTransfer = true) : Makes (ε := ε) [c] (call c) := by
  have hcall := makes_call (ε := ε) c
  rwa [if_pos hc] at hcall

private theorem makes_asked {c : Call} (hc : c.isTransfer = false) :
    Makes (ε := ε) [] (call c) := by
  have hcall := makes_call (ε := ε) c
  rwa [hc, if_neg Bool.false_ne_true] at hcall

theorem Asks.makes {operation : Held (Recorded ε) α}
    (asks : Asks (fun c => c.isTransfer = false) operation) : Makes [] operation := by
  induction asks with
  | pure value => exact makes_pure value
  | bind _ _ hf hn => exact hf.bind hn
  | call hc => exact makes_asked hc
  | log message fields _ => exact makes_log _ message fields
  | refuse operation reason => exact makes_refuse operation reason
  | poison violation => exact makes_poison violation

private theorem makes_accept (operation : Operation) (reported : Reported α) :
    Makes (ε := ε) [] (accept operation reported) := (asks_accept operation reported).makes

private theorem makes_reported {c : Call} (hc : c.isTransfer = false) {operation : Operation}
    {next : c.Answer → Reported α} :
    Makes (ε := ε) [] (call c >>= fun answer => accept operation (next answer)) :=
  (asks_reported hc).makes

end Called

/-! ## Effects -/

/-- What is to be seen of an effect in the session after it. -/
structure Shows (now : Timestamp) (held : HeldSession (Recorded ε)) (effect : Effect)
    (after : HeldSession (Recorded ε)) : Prop where
  events : after.events = held.events.pushAll now effect.events
  calls : after.engine.transferCalls = held.engine.transferCalls ++ effect.calls
  transfers : after.transfers = some effect.table
  able : after.violation = none

/-- Either there is an effect and it shows, or the session is disabled or breaks its lock. -/
inductive Followed (now : Timestamp) (held : HeldSession (Recorded ε)) :
    Option Effect → Outcome CallError α → HeldSession (Recorded ε) → Prop
  | shown {effect : Effect} {outcome : Outcome CallError α} {after : HeldSession (Recorded ε)} :
    outcome ≠ .panic → Shows now held effect after → Followed now held (some effect) outcome after
  | disabled {outcome : Outcome CallError α} {after : HeldSession (Recorded ε)} :
    after.violation.isSome = true → Followed now held none outcome after
  | panicked (after : HeldSession (Recorded ε)) : Followed now held none .panic after

section Effects

variable {now : Timestamp} {held : HeldSession (Recorded ε)} {table : Transfer.Table}

private theorem followed_of_answer {request : Request} {reply : Reply} {next : Transfer.Table}
    (hcommit : request.commit table reply = some next) {after : HeldSession (Recorded ε)}
    (shows : Shows now held ⟨[], request.calls table, next⟩ after) :
    Followed (α := Reply) now held (follow [.answered request (.ok reply)] table) (.ok reply)
      after := by
  have heffect : (Moment.answered request (.ok reply)).effect table =
      some ⟨[], request.calls table, next⟩ := by
    simp only [Moment.effect, hcommit, Option.map_some]
  rw [follow_singleton, heffect]
  exact .shown (by simp) shows

private theorem followed_of_failure (ht : held.transfers = some table) (hv : held.violation = none)
    {request : Request} (failure : Failure) {engine : Recorded ε}
    (hc : engine.transferCalls = held.engine.transferCalls ++ request.calls table) :
    Followed (α := Reply) now held
      (follow [.answered request (.error (.failed failure))] table) (.error (.failed failure))
      { held with engine := engine } := by
  rw [follow_singleton]
  exact .shown (by simp) ⟨rfl, hc, ht, hv⟩

/-- A request that only asks the engine, and not about transfers. -/
theorem followed_of_makes (ht : held.transfers = some table) (hv : held.violation = none)
    {request : Request} (hcommit : ∀ reply, request.commit table reply = some table)
    (hcalls : request.calls table = []) {outcome : Outcome CallError Reply}
    {after : HeldSession (Recorded ε)} (h : Leaves held [] outcome after) :
    Followed now held (follow [.answered request outcome] table) outcome after := by
  cases h with
  | answered reply hc =>
    rw [← hcalls] at hc
    exact followed_of_answer (hcommit reply) ⟨rfl, hc, ht, hv⟩
  | refused failure hc =>
    rw [← hcalls] at hc
    exact followed_of_failure ht hv failure hc
  | disabled => exact .disabled rfl
  | panicked => exact .panicked _

/-- The engine is asked first, and a failure of its ends the request. -/
theorem followed_andThen (ht : held.transfers = some table) (hv : held.violation = none)
    {request : Request} {first : Held (Recorded ε) α} {next : α → Held (Recorded ε) β}
    {last : β → Held (Recorded ε) Reply} (hf : Makes (request.calls table) first)
    (hn : ∀ (value : α) (engine : Recorded ε),
      engine.transferCalls = held.engine.transferCalls ++ request.calls table →
      let ran := Run.andThen (next value { held with engine := engine }) last
      Followed now held (follow [.answered request ran.outcome] table) ran.outcome ran.state) :
    let ran := Run.andThen (Run.andThen (first held) next) last
    Followed now held (follow [.answered request ran.outcome] table) ran.outcome ran.state := by
  have hleaves := hf held
  rcases hran : first held with ⟨outcome, state, entries⟩
  rw [hran] at hleaves
  cases hleaves with
  | @answered value engine hc =>
    have hnext := hn value engine hc
    rcases hsecond : next value { held with engine := engine } with ⟨outcome, state, entries⟩
    rw [hsecond] at hnext
    simp only [Run.andThen_ok, hsecond]
    cases outcome <;> exact hnext
  | refused failure hc => exact followed_of_failure ht hv failure hc
  | disabled => exact .disabled rfl
  | panicked => exact .panicked _

variable [Engine ε]

private theorem followed_fileSend (ht : held.transfers = some table) (hv : held.violation = none)
    (friend kind : UInt32) (size : UInt64) (name : Bytes) :
    let ran := Request.perform now (.fileSend friend kind size name) held
    Followed now held (follow [.answered (.fileSend friend kind size name) ran.outcome] table)
      ran.outcome ran.state := by
  refine followed_andThen ht hv (makes_reported rfl) fun number engine hc => ?_
  simp only [Run.bind_apply, Run.get_apply, Run.andThen_ok, ht]
  cases hs : table.localSend friend number size with
  | error violation => exact .disabled rfl
  | ok sent =>
    obtain ⟨file, next⟩ := sent
    have hcommit : (Request.fileSend friend kind size name).commit table (.file file) =
        some next := by
      simp only [Transfer.Table.localSend, Transfer.Table.create] at hs
      split at hs
      · split at hs
        · cases hs
        · rename_i hl
          cases hs
          simp only [Request.commit, FileId.split_unify, hl]
      · cases hs
    simp only [updateTransfers, Run.modify_apply, log, Run.bind_apply, Run.andThen_ok,
      Run.pure_apply]
    exact followed_of_answer hcommit ⟨rfl, hc, by simp [ht], hv⟩

private theorem followed_fileControl (ht : held.transfers = some table) (hv : held.violation = none)
    (friend : UInt32) (file : FileId) (control : FileControl) :
    let ran := Request.perform now (.fileControl friend file control) held
    Followed now held (follow [.answered (.fileControl friend file control) ran.outcome] table)
      ran.outcome ran.state := by
  simp only [Request.perform, fileControl, Run.bind_apply, Run.get_apply, Run.andThen_ok, ht]
  cases hr : table.resolveControl friend file control with
  | error reason =>
    simp only [refuse, Run.fail_apply, Run.andThen_error]
    refine followed_of_failure ht hv _ ?_
    simp only [Request.calls, hr, List.append_nil]
  | ok told =>
    have hcalls : Request.calls table (.fileControl friend file control) = [told.call] := by
      simp only [Request.calls, hr]
    have hcommit : (Request.fileControl friend file control).commit table .done =
        some (table.commitControl friend file control) := by
      simp only [Request.commit, hr]
    have hasked : Makes (Request.calls table (.fileControl friend file control))
        (call told.call >>= accept .fileControl : Held (Recorded ε) Unit) := by
      rw [hcalls]
      exact (makes_told rfl).bind fun _ => makes_accept _ _
    refine followed_andThen ht hv hasked fun value engine hc => ?_
    exact followed_of_answer hcommit ⟨rfl, hc, by simp [updateTransfers, ht], hv⟩

private theorem followed_fileSendChunk (ht : held.transfers = some table)
    (hv : held.violation = none) (friend : UInt32) (file : FileId) (position : UInt64)
    (data : Bytes) :
    let ran := Request.perform now (.fileSendChunk friend file position data) held
    Followed now held
      (follow [.answered (.fileSendChunk friend file position data) ran.outcome] table)
      ran.outcome ran.state := by
  simp only [Request.perform, fileSendChunk, Run.bind_apply, Run.get_apply, Run.andThen_ok, ht]
  cases hr : table.resolveChunk friend file position (UInt64.ofNat data.length) with
  | error reason =>
    simp only [refuse, Run.fail_apply, Run.andThen_error]
    refine followed_of_failure ht hv _ ?_
    simp only [Request.calls, hr, List.append_nil]
  | ok index =>
    have hcommit : (Request.fileSendChunk friend file position data).commit table .done =
        some (table.commitChunk friend file (UInt64.ofNat data.length)) := by
      simp only [Request.commit, hr]
    by_cases hd : data = []
    · have hc : held.engine.transferCalls = held.engine.transferCalls ++
          Request.calls table (.fileSendChunk friend file position data) := by
        simp only [Request.calls, hr, if_pos hd, List.append_nil]
      simp only [if_pos hd]
      exact followed_of_answer hcommit ⟨rfl, hc, by simp [updateTransfers, ht], hv⟩
    · have hasked : Makes (Request.calls table (.fileSendChunk friend file position data))
          (call (.legacyFileData friend index data) >>= accept .fileSendChunk :
            Held (Recorded ε) Unit) := by
        simp only [Request.calls, hr, if_neg hd]
        exact (makes_told rfl).bind fun _ => makes_accept _ _
      simp only [if_neg hd]
      refine followed_andThen ht hv hasked fun value engine hc => ?_
      exact followed_of_answer hcommit ⟨rfl, hc, by simp [updateTransfers, ht], hv⟩

/-! ### Passes -/

theorem follow_translated {transfers after : Option Transfer.Table} {clean : List Notification}
    {events : List Event} (h : Notification.Translated transfers clean events after)
    {table : Transfer.Table} (ht : transfers = some table) :
    ∃ reached, after = some reached ∧
      follow (clean.map .noticed) table = some ⟨events, [], reached⟩ := by
  induction h generalizing table with
  | nil => exact ⟨table, ht, rfl⟩
  | @cons _ between _ notification rest block more hi _ ih =>
    subst ht
    obtain ⟨⟨found, next⟩, hl, he⟩ := Notification.map_ok_iff.mp hi
    cases he
    obtain ⟨reached, ha, hf⟩ := ih rfl
    have heffect : (Moment.noticed notification).effect table = some ⟨block, [], next⟩ := by
      simp only [Moment.effect, hl]
    refine ⟨reached, ha, ?_⟩
    rw [List.map_cons, follow_cons_of_effect heffect, hf]
    rfl

theorem follow_violates {notification : Notification} {violation : Violation}
    (h : notification.Violates (some table) violation) (later : List Moment) :
    follow (.noticed notification :: later) table = none := by
  have hi := (Notification.interpret_error_iff _ _ _).mpr h
  rw [Notification.interpret, Notification.map_error_iff] at hi
  simp only [follow, Moment.effect, hi]

private theorem flushed_calls {controls : List Transfer.Outbound} {engine last : Recorded ε}
    (h : Flushed controls engine last) :
    last.transferCalls = engine.transferCalls ++ controls.map Transfer.Outbound.call := by
  have htold : ∀ {control : Transfer.Outbound} {engine next : Recorded ε} {answer},
      told control engine = (answer, next) →
        next.transferCalls = engine.transferCalls ++ [control.call] := by
    intro control engine next answer he
    have hcalls := Recorded.transferCalls_perform control.call engine
    rwa [show Engine.perform control.call engine = (answer, next) from he] at hcalls
  induction h with
  | nil => exact (List.append_nil _).symm
  | taken he _ ih => rw [ih, htold he, List.append_assoc, List.map_cons, List.singleton_append]
  | refused he _ _ ih =>
    rw [ih, htold he, List.append_assoc, List.map_cons, List.singleton_append]

private theorem settle_calls (now : Timestamp) (held : HeldSession (Recorded ε))
    (h : (settle now held).outcome = .ok ()) :
    (settle now held).state.engine.transferCalls =
      held.engine.transferCalls ++ (owed held.transfers).map Transfer.Outbound.call := by
  have htells := tells_tell (owed held.transfers)
    { held with transfers := held.transfers.map (·.takeOutbound.2) }
  simp only [owed] at htells
  simp only [settle, takeOutbound, Run.bind_apply, Run.andThen_ok] at h ⊢
  rcases hran : tell ((held.transfers.map (·.outbound)).getD [])
    { held with transfers := held.transfers.map (·.takeOutbound.2) } with ⟨outcome, state, entries⟩
  rw [hran] at htells h ⊢
  cases htells with
  | @flushed last hf =>
    obtain ⟨warned, entries, hfinish⟩ := finish_apply now
      { held with transfers := held.transfers.map (·.takeOutbound.2), engine := last }
    simp only [Run.andThen_ok, hfinish]
    exact flushed_calls hf
  | undocumented => cases h
  | panicked => cases h

private theorem followed_dispatch (now : Timestamp) (ht : held.transfers = some table)
    (hv : held.violation = none) (fired : Fired) :
    let ran := Run.andThen (dispatch now fired held) fun _ => pure Reply.done
    Followed now held (follow (fired.notifications.map .noticed ++ [.passed ran.outcome]) table)
      ran.outcome ran.state := by
  obtain ⟨notifications, panics⟩ := fired
  obtain ⟨clean, rest, events, after, rfl, htr, hrest⟩ :=
    Notification.exists_translated notifications held.transfers
  obtain ⟨reached, rfl, hfollow⟩ := follow_translated htr ht
  obtain ⟨ho, hs⟩ := receiveAll_of_translated now htr rest
  dsimp only
  rw [List.map_append, List.append_assoc, follow_append, hfollow, Option.bind_some]
  rcases hrest with rfl | ⟨notification, later, violation, rfl, hviolates⟩
  · simp only [List.map_nil, List.nil_append, dispatch, Run.bind_apply, Run.andThen, ho, hs,
      receiveAll, Run.pure_apply]
    cases panics with
    | true => exact .panicked _
    | false =>
      simp only [Bool.false_eq_true, if_false]
      have hsettled := settled_settle now
        { held with events := held.events.pushAll now events, transfers := some reached }
      have hcalls := settle_calls now
        { held with events := held.events.pushAll now events, transfers := some reached }
      rcases hran : settle now
        { held with events := held.events.pushAll now events, transfers := some reached } with
        ⟨outcome, state, entries⟩
      rw [hran] at hsettled hcalls
      obtain ⟨core, engine⟩ := state
      dsimp only at hsettled hcalls ⊢
      cases hsettled with
      | flushed warned hf =>
        simp only [follow_singleton, Moment.effect, Option.map_some]
        refine .shown (by simp) ⟨?_, ?_, rfl, hv⟩
        · exact (EventQueue.pushAll_append now events _ held.events).symm
        · exact hcalls rfl
      | undocumented hu => exact .disabled rfl
      | panicked => exact .panicked _
  · have hviolating : notification.Violates ({ held with
        events := held.events.pushAll now events
        transfers := some reached } : HeldSession (Recorded ε)).transfers violation := hviolates
    obtain ⟨hvo, hvs⟩ := receiveAll_of_violates now hviolating later
    simp only [dispatch, Run.bind_apply, Run.andThen, ho, hs, hvo, hvs, List.map_cons,
      List.cons_append, follow_violates hviolates, Option.map_none]
    cases panics with
    | true => exact .panicked _
    | false => exact .disabled rfl

omit [Engine ε] in
/-- The engine may have been asked something before that is not about transfers. -/
theorem Followed.of_engine {engine : Recorded ε}
    (hc : engine.transferCalls = held.engine.transferCalls) {effect : Option Effect}
    {outcome : Outcome CallError α} {after : HeldSession (Recorded ε)}
    (h : Followed now { held with engine := engine } effect outcome after) :
    Followed now held effect outcome after := by
  cases h with
  | shown ho hs => exact .shown ho ⟨hs.events, hs.calls.trans (by rw [hc]), hs.transfers, hs.able⟩
  | disabled hv => exact .disabled hv
  | panicked => exact .panicked _

private theorem followed_iterate (ht : held.transfers = some table) (hv : held.violation = none) :
    let ran := Request.perform now .iterate held
    Followed now held (follow (Request.moments held.engine .iterate ran.outcome) table)
      ran.outcome ran.state := by
  have hcalls := Recorded.transferCalls_perform .iterate held.engine
  rcases hp : Engine.perform .iterate held.engine with ⟨answer, engine⟩
  rw [hp] at hcalls
  simp only [Request.perform, iterate, Run.bind_apply, call, hp, Request.moments]
  cases answer with
  | none => exact .panicked _
  | some fired =>
    let asked : HeldSession (Recorded ε) := { held with engine := engine }
    have hdispatch := followed_dispatch now (show asked.transfers = some table from ht) hv fired
    simp only [Run.andThen_ok]
    rcases hran : dispatch now fired { held with engine := engine } with ⟨outcome, state, entries⟩
    rw [hran] at hdispatch
    have hsame : engine.transferCalls = held.engine.transferCalls :=
      hcalls.trans (List.append_nil _)
    cases outcome <;> exact hdispatch.of_engine hsame

end Effects

/-! ## Requests -/

/-- Requests that are no passes and not about files leave all but the engine. -/
theorem makes_perform [Engine ε] (now : Timestamp) {request : Request}
    (h : request.isPlain = true) : Makes (ε := ε) [] (request.perform now) :=
  (asks_perform (fun _ hc => hc.isTransfer h) now h).makes

/-- Every request has the effect of its moments. If they have none, the session is disabled, or its
lock breaks. -/
theorem followed_perform [Engine ε] (now : Timestamp) (request : Request)
    {held : HeldSession (Recorded ε)} {table : Transfer.Table} (ht : held.transfers = some table)
    (hv : held.violation = none) :
    Followed now held
      (follow (request.moments held.engine (request.perform now held).outcome) table)
      (request.perform now held).outcome (request.perform now held).state := by
  cases request with
  | iterate => exact followed_iterate ht hv
  | invoke fired => exact followed_dispatch now ht hv fired
  | fileSend friend kind size name => exact followed_fileSend ht hv friend kind size name
  | fileControl friend file control => exact followed_fileControl ht hv friend file control
  | fileSendChunk friend file position data =>
    exact followed_fileSendChunk ht hv friend file position data
  | _ => exact followed_of_makes ht hv (fun _ => rfl) rfl (makes_perform now rfl held)

end HeldSession

end Switchboard
