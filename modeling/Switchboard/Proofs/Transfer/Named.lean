import Switchboard.Proofs.Session.Atomic
import Switchboard.Proofs.Session.Codes
import Switchboard.Proofs.Session.Effects
import Switchboard.Proofs.Session.Refusals
import Switchboard.Proofs.Transfer.Sound
/-!
# The transfer that is named

Controls and data of the peer and requests of the caller name one transfer, and none but it is
changed by them (`sameElsewhere_of_receive`, `sameElsewhere_of_perform`). A request calls the engine
for it alone, in the direction and at the index that its identifier folds together
(`calls_of_named`). Controls count the sides of a transfer one way when they go out and the other
way when they come in; both ways lead to the same transfer (`Table.Echoed`).
-/

namespace Switchboard

open Transfer

/-! ## Names -/

/-- The notification names this transfer. -/
inductive Notification.Names : UInt32 → FileId → Notification → Prop
  | offer (friend : UInt32) (index : UInt8) (size : UInt64) (name : Bytes) :
    Names friend (.unify .receive index) (.legacyFileSendRequest friend index size name)
  | control (friend : UInt32) (side index control : UInt8) :
    Names friend (.unify (notifiedDirection side) index)
      (.legacyFileControl friend side index control)
  | data (friend : UInt32) (index : UInt8) (data : Bytes) :
    Names friend (.unify .receive index) (.legacyFileData friend index data)

/-- The request names this transfer. -/
inductive Request.Names : UInt32 → FileId → Request → Prop
  | control (friend : UInt32) (file : FileId) (control : FileControl) :
    Names friend file (.fileControl friend file control)
  | chunk (friend : UInt32) (file : FileId) (position : UInt64) (data : Bytes) :
    Names friend file (.fileSendChunk friend file position data)

/-- The request can be made of a transfer in this direction: chunks go into uploads only. -/
def Request.Applies (direction : Direction) : Request → Prop
  | .fileSendChunk _ _ _ _ => direction = .send
  | _ => True

def Request.callFor (direction : Direction) (index : UInt8) : Request → List Call
  | .fileControl friend _ control =>
    [.legacyFileControl friend (outboundSide direction) index (controlNumber control)]
  | .fileSendChunk friend _ _ data => [.legacyFileData friend index data]
  | _ => []

namespace Transfer

namespace Table

variable {friend : UInt32} {file : FileId} {table after : Table}

/-- The tables have the same transfers, but for this one. -/
def SameElsewhere (friend : UInt32) (file : FileId) (before after : Table) : Prop :=
  ∀ other id, ¬ (other = friend ∧ id = file) → after.get? other id = before.get? other id

theorem SameElsewhere.refl (friend : UInt32) (file : FileId) (table : Table) :
    SameElsewhere friend file table table := fun _ _ _ => rfl

/-! ## What the peer names -/

/-- To every other transfer the notification means nothing. -/
theorem turn_of_named {notification : Notification} (named : notification.Names friend file)
    {other : UInt32} {id : FileId} (hother : ¬ (other = friend ∧ id = file)) :
    notification.turn other id = .untouched := by
  cases named with
  | offer => exact if_neg fun h => hother ⟨h.1.symm, h.2.symm⟩
  | control => exact if_neg fun h => hother ⟨h.1.symm, h.2.symm⟩
  | data => exact if_neg fun h => hother ⟨h.1.symm, h.2.symm⟩

private theorem sameElsewhere_of_notice (sorted : Keyed.Sorted table.entries)
    {notification : Notification} (named : notification.Names friend file) {events : List Event}
    (h : notification.interpretLegacy table = .ok (events, after)) :
    SameElsewhere friend file table after := by
  intro other id hother
  have course : Course other id _ table ⟨events, [], after⟩ := course_of_notice sorted h
  have hnext := course.next
  rwa [turn_of_named named hother] at hnext

/-! ## What the caller names -/

private theorem sameElsewhere_of_commit (sorted : Keyed.Sorted table.entries) {request : Request}
    (named : request.Names friend file) {reply : Reply}
    (h : request.commit table reply = some after) : SameElsewhere friend file table after := by
  intro other id hother
  have course : Course other id _ table ⟨[], [], after⟩ := course_of_commit sorted h []
  have hnext := course.next
  have hturn : request.turn other id reply = .untouched := by
    cases named with
    | control => exact if_neg fun h => hother ⟨h.1.symm, h.2.symm⟩
    | chunk => exact if_neg fun h => hother ⟨h.1.symm, h.2.symm⟩
  rwa [hturn] at hnext

/-! ## Sides -/

/-- The control for a live transfer goes out for the direction and index that its identifier folds
together, and a control that comes in from there, with the sides counted the other way round, meets
the same transfer. -/
def Echoed (table : Table) : Prop :=
  ∀ friend file live, table.get? friend file = some live →
    ∃ index, file = .unify live.direction index ∧ ∀ control,
      table.resolveControl friend file control =
        .ok ⟨friend, file, outboundSide live.direction, index, controlNumber control⟩ ∧
      ∀ number forwarded, forwarded? number = some forwarded →
        table.remoteControl friend (1 - outboundSide live.direction) index number =
          .ok ([.fileRecvControl friend file forwarded],
            table.applyControl friend file forwarded live)

theorem notifiedDirection_opposite (direction : Direction) :
    notifiedDirection (1 - outboundSide direction) = direction := by
  cases direction <;> decide

theorem Sound.echoed (sound : table.Sound) : table.Echoed := by
  intro friend file live hl
  obtain ⟨index, hsplit⟩ := (sound.get? friend file live hl).split
  have hfile := FileId.eq_unify_of_split hsplit
  refine ⟨index, hfile, fun control => ⟨?_, fun number forwarded hforwarded => ?_⟩⟩
  · exact resolveControl_eq_ok.mpr ⟨live.direction, index, live, hfile, hl, rfl⟩
  · have hback : FileId.unify (notifiedDirection (1 - outboundSide live.direction)) index =
        file := by
      rw [notifiedDirection_opposite, ← hfile]
    have hthere : table.get? friend
        (.unify (notifiedDirection (1 - outboundSide live.direction)) index) = some live := by
      rw [hback, hl]
    have hmeets := remoteControl_of_forwarded hforwarded hthere
    rwa [hback] at hmeets

end Table

end Transfer

/-! ## Requests -/

namespace Request

variable {friend : UInt32} {file : FileId} {table : Table} {request : Request}

theorem calls_of_named (sound : table.Sound) (named : request.Names friend file) :
    request.calls table = [] ∨
      ∃ live index, table.get? friend file = some live ∧ file = .unify live.direction index ∧
        request.Applies live.direction ∧
        request.calls table = request.callFor live.direction index := by
  cases named with
  | control control =>
    cases hr : table.resolveControl friend file control with
    | error reason => exact .inl (by rw [calls, hr])
    | ok told =>
      obtain ⟨direction, index, live, hfile, hl, rfl⟩ := Table.resolveControl_eq_ok.mp hr
      obtain rfl := (sound.get? friend file live hl).direction_eq hfile
      exact .inr ⟨live, index, hl, hfile, trivial, by rw [calls, hr]; rfl⟩
  | chunk position data =>
    cases hr : table.resolveChunk friend file position (UInt64.ofNat data.length) with
    | error reason => exact .inl (by rw [calls, hr])
    | ok index =>
      obtain ⟨hfile, live, hl, -⟩ := Table.resolveChunk_eq_ok.mp hr
      have hsend := (sound.get? friend file live hl).direction_eq hfile
      by_cases hdata : data = []
      · exact .inl (by rw [calls, hr]; exact if_pos hdata)
      · refine .inr ⟨live, index, hl, hsend ▸ hfile, hsend, ?_⟩
        rw [calls, hr]
        exact if_neg hdata

/-- Where no transfer is live that the request can be made of, the request finds none. -/
theorem refused_of_named (sound : table.Sound) (named : request.Names friend file)
    (missing : ∀ live, table.get? friend file = some live → ¬ request.Applies live.direction) :
    ∃ operation, request.operation? = some operation ∧
      request.Refused (some table) operation .transferNotFound := by
  have hnone : request.Applies .receive → request.Applies .send →
      table.get? friend file = none := by
    intro hreceive hsend
    refine Option.eq_none_iff_forall_ne_some.mpr fun live hl => missing live hl ?_
    cases live.direction with
    | send => exact hsend
    | receive => exact hreceive
  cases named with
  | control control =>
    exact ⟨.fileControl, rfl, .controlUnknown rfl (.inr (hnone trivial trivial))⟩
  | chunk position data =>
    refine ⟨.fileSendChunk, rfl, .chunkUnknown rfl ?_⟩
    cases hl : table.get? friend file with
    | none => exact .inr rfl
    | some live =>
      obtain ⟨index, hsplit⟩ := (sound.get? friend file live hl).split
      refine .inl fun other hsend => missing live hl ?_
      rw [hsplit] at hsend
      exact congrArg Prod.fst (Option.some.inj hsend)

end Request

namespace HeldSession

variable {ε : Type} {friend : UInt32} {file : FileId} {table : Table}

/-- A notification changes no transfer but the one it names, whether it is taken in or breaks the
contract. -/
theorem sameElsewhere_of_receive (now : Timestamp) {held : HeldSession ε}
    (ht : held.transfers = some table) (sorted : Keyed.Sorted table.entries)
    {notification : Notification} (named : notification.Names friend file) :
    ∃ after, (receive now notification held).state.transfers = some after ∧
      Table.SameElsewhere friend file table after := by
  simp only [receive, ht, Notification.interpret]
  cases hi : notification.interpretLegacy table with
  | error violation => exact ⟨table, ht, .refl _ _ _⟩
  | ok taken => exact ⟨taken.2, rfl, Table.sameElsewhere_of_notice sorted named hi⟩

variable [Engine ε]

/-- A request changes no transfer but the one it names, whatever the engine makes of it. -/
theorem sameElsewhere_of_perform (now : Timestamp) {held : HeldSession (Recorded ε)}
    (ht : held.transfers = some table) (hv : held.violation = none)
    (sorted : Keyed.Sorted table.entries) {request : Request} (named : request.Names friend file) :
    ∃ after, (request.perform now held).state.transfers = some after ∧
      Table.SameElsewhere friend file table after := by
  have hfollowed := followed_perform now request ht hv
  have hatomic : Atomic (request.perform (ε := Recorded ε) now) := by
    cases named <;> exact atomic_perform now (fun h => nomatch h) (fun _ h => nomatch h)
  have hmoments : request.moments held.engine (request.perform now held).outcome =
      [.answered request (request.perform now held).outcome] := by
    cases named <;> rfl
  rw [hmoments, follow_singleton] at hfollowed
  have hheld := hatomic held
  cases ho : (request.perform now held).outcome with
  | ok reply =>
    rw [ho] at hfollowed hheld
    cases he : (Moment.answered request (.ok reply)).effect table with
    | none =>
      rw [he] at hfollowed
      cases hfollowed with
      | disabled hdisabled =>
        rw [hheld, hv] at hdisabled
        cases hdisabled
    | some effect =>
      rw [he] at hfollowed
      cases hfollowed with
      | shown _ shows =>
        refine ⟨effect.table, shows.transfers, ?_⟩
        cases causes_of_effect he with
        | taken hcommit => exact Table.sameElsewhere_of_commit sorted named hcommit
  | error cause =>
    rw [ho] at hheld
    exact ⟨table, hheld.2.trans ht, .refl _ _ _⟩
  | panic =>
    rw [ho] at hheld
    exact ⟨table, hheld.2.trans ht, .refl _ _ _⟩

/-! ## Calls -/

def CallsOnce {α : Type} (c : Call) (operation : Held (Recorded ε) α) : Prop :=
  ∀ held, (operation held).state.engine.calls = held.engine.calls ++ [c]

private theorem callsOnce_call (c : Call) : CallsOnce (ε := ε) c (call c) := by
  intro held
  have hcalls : (Engine.perform c held.engine).2.calls = held.engine.calls ++ [c] := rfl
  simp only [call]
  split
  · rename_i he
    rwa [he] at hcalls
  · rename_i he
    rwa [he] at hcalls

theorem CallsOnce.bind {α β : Type} {c : Call} {first : Held (Recorded ε) α}
    {next : α → Held (Recorded ε) β} (hf : CallsOnce c first)
    (hn : ∀ value, Built (fun _ => False) False (next value)) : CallsOnce c (first >>= next) := by
  intro held
  have hfirst := hf held
  simp only [Run.bind_apply, Run.andThen]
  split
  · exact ((hn _).engine_same (·.calls) (fun _ h => h.elim) _).trans hfirst
  · exact hfirst
  · exact hfirst

/-- The engine is called for a chunk or control, and then the transfers may be changed. -/
theorem callsOnce_reported (c : Call) {operation : Operation} (read : c.Answer → Reported Unit)
    (change : Table → Table) :
    CallsOnce (ε := ε) c
      (((call c >>= fun answer => accept operation (read answer)) >>= fun _ =>
        updateTransfers change) >>= fun _ => pure Reply.done) :=
  .bind (.bind (.bind (callsOnce_call c) fun _ => (asks_accept operation _).built)
    fun _ => .updateTransfers change) fun _ => .pure _

/-- The engine is called for what the table lets through, and for nothing else. -/
theorem calls_perform_of_named (now : Timestamp) {held : HeldSession (Recorded ε)}
    (ht : held.transfers = some table) {request : Request} (named : request.Names friend file) :
    (request.perform now held).state.engine.calls =
      held.engine.calls ++ request.calls table := by
  cases named with
  | control control =>
    cases hr : table.resolveControl friend file control with
    | error reason =>
      rw [perform_of_refused now (Request.refused_of_resolveControl ht hr), Request.calls, hr]
      exact (List.append_nil _).symm
    | ok told =>
      have hran : Request.perform now (.fileControl friend file control) held =
          (((call (.legacyFileControl told.friend told.side told.index told.control) >>=
            accept .fileControl) >>= fun _ =>
              updateTransfers (·.commitControl friend file control)) >>= fun _ => pure .done)
                held := by
        simp [Request.perform, fileControl, ht, hr]
      rw [hran, Request.calls, hr]
      exact callsOnce_reported told.call id _ held
  | chunk position data =>
    cases hr : table.resolveChunk friend file position (UInt64.ofNat data.length) with
    | error reason =>
      rw [perform_of_refused now (Request.refused_of_resolveChunk ht hr), Request.calls, hr]
      exact (List.append_nil _).symm
    | ok index =>
      by_cases hdata : data = []
      · subst hdata
        simp only [Request.perform, fileSendChunk, Run.bind_apply, Run.get_apply, Run.andThen_ok,
          ht, hr, Request.calls, if_true, List.append_nil]
        rfl
      · have hran : Request.perform now (.fileSendChunk friend file position data) held =
            (((call (.legacyFileData friend index data) >>= accept .fileSendChunk) >>= fun _ =>
              updateTransfers (·.commitChunk friend file (UInt64.ofNat data.length))) >>=
                fun _ => pure .done) held := by
          simp [Request.perform, fileSendChunk, ht, hr, hdata]
        simp only [hran, Request.calls, hr, if_neg hdata]
        exact callsOnce_reported (.legacyFileData friend index data) id _ held

end HeldSession

end Switchboard
