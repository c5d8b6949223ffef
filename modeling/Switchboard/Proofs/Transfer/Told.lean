import Switchboard.Proofs.Transfer.Course
/-!
# What the engine is told about a transfer

The data of a file goes to the engine in the chunks of its own transfer only (`carried_of_other`).
That a file has arrived is told once for each file whose last bytes came: what
was told and what still waits to be told add up (`closings_of_effect`).
-/

namespace Switchboard

open Transfer

namespace Transfer

section Told

variable {table : Table} {effect : Effect}

private theorem calls_of_control {friend : UInt32} {file : FileId} {control : FileControl}
    {call : Call} (h : call ∈ Request.calls table (.fileControl friend file control)) :
    ∃ side index, call = .legacyFileControl friend side index (controlNumber control) := by
  simp only [Request.calls] at h
  split at h
  · rename_i told hr
    obtain ⟨direction, index, -, -, -, rfl⟩ := Table.resolveControl_eq_ok.mp hr
    exact ⟨outboundSide direction, index, List.mem_singleton.mp h⟩
  · cases h

private theorem calls_of_chunk {friend : UInt32} {file : FileId} {position : UInt64} {data : Bytes}
    {call : Call} (h : call ∈ Request.calls table (.fileSendChunk friend file position data)) :
    ∃ index, file = .unify .send index ∧ call = .legacyFileData friend index data := by
  simp only [Request.calls] at h
  split at h
  · rename_i index hr
    obtain ⟨hfile, -⟩ := Table.resolveChunk_eq_ok.mp hr
    split at h
    · cases h
    · exact ⟨index, hfile, List.mem_singleton.mp h⟩
  · cases h

theorem outbound_applyControl (friend : UInt32) (file : FileId) (control : FileControl)
    (live : Transfer) (table : Table) :
    (table.applyControl friend file control live).outbound = table.outbound := by
  cases control <;> rfl

private theorem outbound_commit {request : Request} {reply : Reply} {after : Table}
    (h : request.commit table reply = some after) : after.outbound = table.outbound := by
  cases request with
  | fileSend friend kind size name =>
    cases reply with
    | file file =>
      simp only [Request.commit] at h
      split at h
      · cases h
        rfl
      · cases h
    | _ => cases h
  | fileControl friend file control =>
    simp only [Request.commit] at h
    split at h
    · cases h
      unfold Table.commitControl
      split
      · exact outbound_applyControl _ _ _ _ _
      · rfl
    · cases h
  | fileSendChunk friend file position data =>
    simp only [Request.commit] at h
    split at h
    · cases h
      unfold Table.commitChunk
      split <;> rfl
    · cases h
  | _ =>
    cases h
    rfl

end Told

end Transfer

def Call.carried? (friend : UInt32) (index : UInt8) : Call → Option Bytes
  | .legacyFileData other next data => if other = friend ∧ next = index then some data else none
  | _ => none

/-- The chunk of this transfer that a request is to send, however it was answered. -/
def Moment.chunk? (friend : UInt32) (file : FileId) : Moment → Option (UInt64 × Bytes)
  | .answered (.fileSendChunk other id position data) _ =>
    if other = friend ∧ id = file then some (position, data) else none
  | _ => none

namespace Transfer

section Carried

variable {table : Table} {effect : Effect} {friend : UInt32} {index : UInt8}

private theorem carried_of_request {request : Request} {outcome : Outcome CallError Reply}
    (h : (Moment.answered request outcome).chunk? friend (.unify .send index) = none) :
    (request.calls table).filterMap (Call.carried? friend index) = [] := by
  rw [List.filterMap_eq_nil_iff]
  intro call hm
  cases request with
  | fileControl other id control =>
    obtain ⟨side, found, rfl⟩ := calls_of_control hm
    rfl
  | fileSendChunk other id position data =>
    obtain ⟨found, rfl, rfl⟩ := calls_of_chunk hm
    have hother : ¬ (other = friend ∧ found = index) := by
      rintro ⟨rfl, rfl⟩
      simp [Moment.chunk?] at h
    simp only [Call.carried?, hother, if_false]
  | _ => cases hm

/-- Data of a file is sent only in chunks of its transfer. -/
theorem carried_of_other {moment : Moment} (h : moment.effect table = some effect)
    (hc : moment.chunk? friend (.unify .send index) = none) :
    effect.calls.filterMap (Call.carried? friend index) = [] := by
  cases causes_of_effect h with
  | noticed hi => rfl
  | passed reply =>
    rw [List.filterMap_map, List.filterMap_eq_nil_iff]
    intro control hm
    rfl
  | taken hcommit => exact carried_of_request hc
  | refused request failure => exact carried_of_request hc

end Carried

/-! ### Closing controls -/

def closing (friend : UInt32) (index : UInt8) : Outbound :=
  ⟨friend, .unify .receive index, outboundSide .receive, index, finishedControl⟩

/-- How many closing controls of a file wait in the table. -/
def Table.closingsOwed (friend : UInt32) (index : UInt8) (table : Table) : Nat :=
  (table.outbound.map Outbound.call).count (closing friend index).call

section Closings

variable {table : Table} {effect : Effect}

/-- What a notification makes the table owe: the closing control of a file whose last bytes come. -/
def closes (table : Table) : Notification → List Outbound
  | .legacyFileData friend index data =>
    match table.get? friend (.unify .receive index) with
    | some live =>
      if live.position + UInt64.ofNat data.length = live.size then [closing friend index] else []
    | none => []
  | _ => []

theorem outbound_of_notice {notification : Notification} {events : List Event} {after : Table}
    (h : notification.interpretLegacy table = .ok (events, after)) :
    after.outbound = table.outbound ++ closes table notification := by
  cases hl : notification.isLegacyFile with
  | false =>
    have hnone : closes table notification = [] := by
      cases notification <;> first | rfl | cases hl
    rw [Notification.interpretLegacy_of_plain hl] at h
    rw [hnone, List.append_nil]
    split at h
    · cases h
    · obtain ⟨event, -, he⟩ := Notification.map_ok_iff.mp h
      cases he
      rfl
  | true =>
    cases notification with
    | legacyFileSendRequest friend index size name =>
      cases hf : table.get? friend (.unify .receive index) with
      | some live =>
        rw [Notification.interpretLegacy, Table.remoteOffer_of_live hf] at h
        cases h
      | none =>
        rw [Notification.interpretLegacy, Table.remoteOffer_of_free hf] at h
        cases h
        exact (List.append_nil _).symm
    | legacyFileControl friend side index control =>
      refine Eq.trans ?_ (List.append_nil _).symm
      rw [Notification.interpretLegacy, Table.remoteControl] at h
      split at h
      · unfold Table.remoteFinished at h
        split at h
        · cases h
        · cases h
          rfl
      · split at h
        · cases h
        · split at h
          · cases h
          · cases h
            exact outbound_applyControl _ _ _ _ _
    | legacyFileData friend index data =>
      cases hf : table.get? friend (.unify .receive index) with
      | none =>
        rw [Notification.interpretLegacy, Table.remoteData_of_missing hf] at h
        cases h
      | some live =>
        by_cases ho : live.size < live.position + UInt64.ofNat data.length
        · rw [Notification.interpretLegacy, Table.remoteData_of_overrun hf ho] at h
          cases h
        by_cases hd : live.position + UInt64.ofNat data.length = live.size
        · rw [Notification.interpretLegacy, Table.remoteData_of_complete hf hd] at h
          cases h
          simp [closes, hf, hd, closing]
        · rw [Notification.interpretLegacy, Table.remoteData_of_more hf ho hd] at h
          cases h
          simp [closes, hf, hd, Table.put]
    | _ => cases hl

private theorem call_closing_inj {friend other : UInt32} {index next : UInt8} :
    (closing other next).call = (closing friend index).call ↔ other = friend ∧ next = index := by
  simp [closing, Outbound.call]

private theorem count_closes (table : Table) (notification : Notification) (friend : UInt32)
    (index : UInt8) :
    ((closes table notification).map Outbound.call).count (closing friend index).call =
      (notification.turn friend (.unify .receive index)).closings
        (table.get? friend (.unify .receive index)) := by
  cases notification with
  | legacyFileData other next data =>
    have hkey : (other = friend ∧ FileId.unify .receive next = .unify .receive index) ↔
        (other = friend ∧ next = index) := by
      simp [FileId.unify_inj]
    by_cases hk : other = friend ∧ next = index
    · obtain ⟨rfl, rfl⟩ := hk
      simp only [closes, Notification.turn, and_self, if_true]
      cases table.get? other (.unify .receive next) with
      | none => rfl
      | some live =>
        dsimp only [Turn.closings]
        split <;> simp
    · have hne : (closing other next).call ≠ (closing friend index).call :=
        fun e => hk (call_closing_inj.mp e)
      simp only [closes, Notification.turn, hkey, hk, if_false]
      split
      · split
        · simp [hne, Turn.closings]
        · rfl
      · rfl
  | legacyFileSendRequest other next size name =>
    simp only [closes, Notification.turn]
    split <;> rfl
  | legacyFileControl other side next control =>
    simp only [closes, Notification.turn]
    split
    · split
      · rfl
      · split <;> rfl
    · rfl
  | _ => rfl

private theorem closings_of_answer (request : Request) (outcome : Outcome CallError Reply)
    (friend : UInt32) (file : FileId) (live : Option Transfer) :
    ((Moment.answered request outcome).turn friend file).closings live = 0 := by
  have hmeans := means_turn (.answered request outcome) friend file
  cases hturn : (Moment.answered request outcome).turn friend file with
  | arrived data =>
    rw [hturn] at hmeans
    obtain ⟨index, -, he⟩ := hmeans
    cases he
  | _ => rfl

private theorem count_closing_calls (request : Request) (table : Table) (friend : UInt32)
    (index : UInt8) : (request.calls table).count (closing friend index).call = 0 := by
  rw [List.count_eq_zero]
  intro hm
  cases request with
  | fileControl other file control =>
    obtain ⟨side, next, he⟩ := calls_of_control hm
    cases control <;> simp [closing, Outbound.call, controlNumber, acceptControl, pauseControl,
      killControl, finishedControl] at he
  | fileSendChunk other file position data =>
    obtain ⟨next, -, he⟩ := calls_of_chunk hm
    cases he
  | _ => cases hm

/-- Closing controls are neither lost nor made up: what was told and what still waits is what waited
before, and one more for the turn that completes the file. -/
theorem closings_of_effect {moment : Moment} (h : moment.effect table = some effect)
    (friend : UInt32) (index : UInt8) :
    effect.calls.count (closing friend index).call + effect.table.closingsOwed friend index =
      table.closingsOwed friend index +
        (moment.turn friend (.unify .receive index)).closings
          (table.get? friend (.unify .receive index)) := by
  cases causes_of_effect h with
  | noticed hi =>
    rw [Table.closingsOwed, outbound_of_notice hi, List.map_append, List.count_append,
      count_closes, List.count_nil, Nat.zero_add]
    rfl
  | passed reply => rfl
  | taken hc =>
    rw [count_closing_calls, closings_of_answer, Table.closingsOwed, outbound_commit hc,
      Nat.zero_add]
    rfl
  | refused request failure =>
    rw [count_closing_calls, closings_of_answer, Nat.zero_add]
    rfl

/-- Until it is offered again, nothing is owed for a transfer that is gone. -/
theorem closings_of_absent {moments : List Moment} (h : follow moments table = some effect)
    (sorted : Keyed.Sorted table.entries) {friend : UInt32} {index : UInt8}
    (absent : table.get? friend (.unify .receive index) = none)
    (closed : ∀ moment ∈ moments, (moment.turn friend (.unify .receive index)).opens = false) :
    effect.calls.count (closing friend index).call + effect.table.closingsOwed friend index =
      table.closingsOwed friend index := by
  induction moments generalizing table effect with
  | nil =>
    cases h
    exact Nat.zero_add _
  | cons moment rest ih =>
    obtain ⟨first, more, he, hm, rfl⟩ := split_of_follow h
    have course := course_of_effect he sorted friend (.unify .receive index)
    have hfirst := closings_of_effect he friend index
    have hgone := course.next
    rw [absent, Turn.closings_none] at hfirst
    rw [absent, Turn.next_none (closed moment List.mem_cons_self)] at hgone
    have hmore := ih hm course.sorted hgone fun later hlater =>
      closed later (List.mem_cons_of_mem _ hlater)
    rw [Effect.calls_append, Effect.table_append, List.count_append]
    omega

/-- At the end of a pass the engine is told what waits, in the order it was queued. -/
theorem told_of_pass {notices : List Notification} {outcome : Outcome CallError Reply}
    (h : follow (notices.map .noticed ++ [.passed outcome]) table = some effect) :
    effect.table.outbound = [] ∧
      ∃ more, effect.calls = (table.outbound ++ more).map Outbound.call := by
  induction notices generalizing table effect with
  | nil =>
    rw [List.map_nil, List.nil_append, follow_singleton] at h
    cases outcome with
    | ok reply =>
      cases h
      exact ⟨rfl, [], by rw [List.append_nil]⟩
    | _ => cases h
  | cons notification rest ih =>
    obtain ⟨first, more, he, hm, rfl⟩ := split_of_follow h
    obtain ⟨hempty, later, hlater⟩ := ih hm
    refine ⟨hempty, closes table notification ++ later, ?_⟩
    cases causes_of_effect he with
    | noticed hi =>
      rw [Effect.calls_append, List.nil_append, hlater, outbound_of_notice hi, List.append_assoc]

end Closings

end Transfer

end Switchboard
