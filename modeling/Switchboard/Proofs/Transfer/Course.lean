import Switchboard.Proofs.Session.Moments
import Switchboard.Proofs.Session.Translation
import Switchboard.Proofs.Transfer.Local
/-!
# The course of one transfer

Transfers do not depend on each other. What a moment means to one of them (`Turn`) can be told
without the rest of the table, and it settles what becomes of the transfer and which chunks the
caller is given of it and is asked for (`course_of_effect`).
-/

namespace Switchboard

namespace Transfer

/-- What a moment means to one transfer. -/
inductive Turn where
  /-- Nothing. -/
  | untouched
  | offered (direction : Direction) (size : UInt64)
  /-- The peer controls it, or the engine takes the caller's control. -/
  | controlled (control : FileControl)
  /-- The peer says that all bytes have arrived. -/
  | finished
  | arrived (data : Bytes)
  /-- The engine takes a chunk of the caller's. -/
  | sent (position : UInt64) (data : Bytes)
  /-- A pass ends. -/
  | passed
  deriving DecidableEq

namespace Turn

def next : Turn → Option Transfer → Option Transfer
  | .untouched, live => live
  | .offered direction size, _ => some (.offered direction size)
  | .finished, _ => none
  | _, none => none
  | .controlled .resume, some live => some { live with progress := .running }
  | .controlled .pause, some live => some { live with progress := .paused }
  | .controlled .cancel, some _ => none
  | .arrived data, some live =>
    if live.position + UInt64.ofNat data.length = live.size then none
    else
      some { live with
        progress := if live.progress = .paused then .running else live.progress
        position := live.position + UInt64.ofNat data.length }
  | .sent _ data, some live =>
    some { live with
      position := live.position + UInt64.ofNat data.length
      requestPending := false }
  | .passed, some live => some (Table.asked live)

/-- The chunks of the transfer that the caller is given. -/
def received : Turn → Option Transfer → List (UInt64 × Bytes)
  | .arrived data, some live =>
    (live.position, data) ::
      if live.position + UInt64.ofNat data.length = live.size then [(live.size, [])] else []
  | _, _ => []

/-- The chunks of the transfer that the caller is asked for. -/
def requested : Turn → Option Transfer → List (UInt64 × UInt64)
  | .finished, some live => [(live.position, 0)]
  | .passed, some live => (Table.nextChunk? live).toList
  | _, _ => []

/-- The turn can be taken by a transfer with this identifier. -/
def Possible (file : FileId) : Turn → Option Transfer → Prop
  | .untouched, _ => True
  | .offered direction _, live => live = none ∧ ∃ index, file = .unify direction index
  | .controlled _, live => live.isSome
  | .finished, live => live.isSome
  | .arrived data, live => (∃ index, file = .unify .receive index) ∧
    ∃ transfer, live = some transfer ∧
      ¬ transfer.size < transfer.position + UInt64.ofNat data.length
  | .sent position data, live => (∃ index, file = .unify .send index) ∧
    ∃ transfer, live = some transfer ∧
      Table.Fits position (UInt64.ofNat data.length) transfer
  | .passed, _ => True

def closings : Turn → Option Transfer → Nat
  | .arrived data, some live =>
    if live.position + UInt64.ofNat data.length = live.size then 1 else 0
  | _, _ => 0

def opens : Turn → Bool
  | .offered _ _ => true
  | _ => false

/-- The turn removes a transfer before all of it has come. -/
def ends : Turn → Bool
  | .controlled .cancel => true
  | .finished => true
  | _ => false

variable {file : FileId} {index : UInt8}

theorem not_possible_offered (direction : Direction) (size : UInt64) (live : Transfer) :
    ¬ (offered direction size).Possible file (some live) :=
  fun h => nomatch h.1

theorem not_possible_arrived (data : Bytes) (live : Option Transfer) :
    ¬ (arrived data).Possible (.unify .send index) live := by
  rintro ⟨⟨other, h⟩, -⟩
  cases (FileId.unify_inj.mp h).1

theorem not_possible_sent (position : UInt64) (data : Bytes) (live : Option Transfer) :
    ¬ (sent position data).Possible (.unify .receive index) live := by
  rintro ⟨⟨other, h⟩, -⟩
  cases (FileId.unify_inj.mp h).1

theorem next_none {turn : Turn} (h : turn.opens = false) : turn.next none = none := by
  cases turn with
  | offered => cases h
  | controlled control => cases control <;> rfl
  | _ => rfl

private theorem received_none (turn : Turn) : turn.received none = [] := by
  cases turn <;> rfl

theorem requested_none (turn : Turn) : turn.requested none = [] := by
  cases turn <;> rfl

theorem closings_none (turn : Turn) : turn.closings none = 0 := by
  cases turn <;> rfl

end Turn

end Transfer

open Transfer

/-- What a notification means to a transfer. -/
def Notification.turn (friend : UInt32) (file : FileId) : Notification → Turn
  | .legacyFileSendRequest other index size _ =>
    if other = friend ∧ .unify .receive index = file then .offered .receive size else .untouched
  | .legacyFileControl other side index control =>
    if other = friend ∧ .unify (notifiedDirection side) index = file then
      if control = finishedControl then .finished
      else
        match Table.forwarded? control with
        | some forwarded => .controlled forwarded
        | none => .untouched
    else .untouched
  | .legacyFileData other index data =>
    if other = friend ∧ .unify .receive index = file then .arrived data else .untouched
  | _ => .untouched

/-- What it means to a transfer that a request is answered with this. -/
def Request.turn (friend : UInt32) (file : FileId) : Request → Reply → Turn
  | .fileSend other _ size _, .file id =>
    if other = friend ∧ id = file then .offered .send size else .untouched
  | .fileControl other id control, _ =>
    if other = friend ∧ id = file then .controlled control else .untouched
  | .fileSendChunk other id position data, _ =>
    if other = friend ∧ id = file then .sent position data else .untouched
  | _, _ => .untouched

def Moment.turn (friend : UInt32) (file : FileId) : Moment → Turn
  | .noticed notification => notification.turn friend file
  | .passed (.ok _) => .passed
  | .passed _ => .untouched
  | .answered request (.ok reply) => request.turn friend file reply
  | .answered _ _ => .untouched

namespace Transfer

/-- How a moment comes to mean something to a transfer. -/
inductive Touches (friend : UInt32) (file : FileId) : Moment → Turn → Prop
  | other {moment : Moment} : Touches friend file moment .untouched
  | peerOffers {index : UInt8} (size : UInt64) (name : Bytes) : file = .unify .receive index →
    Touches friend file (.noticed (.legacyFileSendRequest friend index size name))
      (.offered .receive size)
  | callerOffers (kind : UInt32) (size : UInt64) (name : Bytes) :
    Touches friend file (.answered (.fileSend friend kind size name) (.ok (.file file)))
      (.offered .send size)
  | peerControls {side index control : UInt8} {forwarded : FileControl} :
    file = .unify (notifiedDirection side) index → Table.forwarded? control = some forwarded →
    Touches friend file (.noticed (.legacyFileControl friend side index control))
      (.controlled forwarded)
  | callerControls (control : FileControl) (reply : Reply) :
    Touches friend file (.answered (.fileControl friend file control) (.ok reply))
      (.controlled control)
  | peerFinishes {side index : UInt8} : file = .unify (notifiedDirection side) index →
    Touches friend file (.noticed (.legacyFileControl friend side index finishedControl)) .finished
  | dataArrives {index : UInt8} (data : Bytes) : file = .unify .receive index →
    Touches friend file (.noticed (.legacyFileData friend index data)) (.arrived data)
  | chunkGoes (position : UInt64) (data : Bytes) (reply : Reply) :
    Touches friend file (.answered (.fileSendChunk friend file position data) (.ok reply))
      (.sent position data)
  | passEnds (reply : Reply) : Touches friend file (.passed (.ok reply)) .passed

theorem touches_turn (moment : Moment) (friend : UInt32) (file : FileId) :
    Touches friend file moment (moment.turn friend file) := by
  cases moment with
  | noticed notification =>
    cases notification with
    | legacyFileSendRequest other index size name =>
      simp only [Moment.turn, Notification.turn]
      split
      · rename_i hk
        obtain ⟨rfl, rfl⟩ := hk
        exact .peerOffers size name rfl
      · exact .other
    | legacyFileControl other side index control =>
      simp only [Moment.turn, Notification.turn]
      split
      · rename_i hk
        obtain ⟨rfl, rfl⟩ := hk
        split
        · rename_i hc
          rw [hc]
          exact .peerFinishes rfl
        · split
          · rename_i hf
            exact .peerControls rfl hf
          · exact .other
      · exact .other
    | legacyFileData other index data =>
      simp only [Moment.turn, Notification.turn]
      split
      · rename_i hk
        obtain ⟨rfl, rfl⟩ := hk
        exact .dataArrives data rfl
      · exact .other
    | _ => exact .other
  | passed outcome =>
    cases outcome with
    | ok reply => exact .passEnds reply
    | _ => exact .other
  | answered request outcome =>
    cases outcome with
    | ok reply =>
      cases request with
      | fileSend other kind size name =>
        cases reply with
        | file id =>
          simp only [Moment.turn, Request.turn]
          split
          · rename_i hk
            obtain ⟨rfl, rfl⟩ := hk
            exact .callerOffers kind size name
          · exact .other
        | _ => exact .other
      | fileControl other id control =>
        simp only [Moment.turn, Request.turn]
        split
        · rename_i hk
          obtain ⟨rfl, rfl⟩ := hk
          exact .callerControls control reply
        · exact .other
      | fileSendChunk other id position data =>
        simp only [Moment.turn, Request.turn]
        split
        · rename_i hk
          obtain ⟨rfl, rfl⟩ := hk
          exact .chunkGoes position data reply
        · exact .other
      | _ => exact .other
    | _ => exact .other

/-- Which moment it is that brings the transfer data, sends a chunk of it or ends a pass. -/
def Turn.Means (friend : UInt32) (file : FileId) (moment : Moment) : Turn → Prop
  | .arrived data =>
    ∃ index, file = .unify .receive index ∧
      moment = .noticed (.legacyFileData friend index data)
  | .sent position data =>
    ∃ reply, moment = .answered (.fileSendChunk friend file position data) (.ok reply)
  | .passed => ∃ reply, moment = .passed (.ok reply)
  | _ => True

theorem means_turn (moment : Moment) (friend : UInt32) (file : FileId) :
    (moment.turn friend file).Means friend file moment := by
  have htouches := touches_turn moment friend file
  generalize moment.turn friend file = turn at htouches ⊢
  cases htouches with
  | dataArrives data hfile => exact ⟨_, hfile, rfl⟩
  | chunkGoes position data reply => exact ⟨reply, rfl⟩
  | passEnds reply => exact ⟨reply, rfl⟩
  | _ => trivial

/-- What an effect is to one transfer, by the turn it takes. -/
structure Course (friend : UInt32) (file : FileId) (turn : Turn) (table : Table)
    (effect : Effect) : Prop where
  sorted : Keyed.Sorted effect.table.entries
  possible : turn.Possible file (table.get? friend file)
  next : effect.table.get? friend file = turn.next (table.get? friend file)
  received : effect.events.filterMap (Event.received? friend file) =
    turn.received (table.get? friend file)
  requested : effect.events.filterMap (Event.requested? friend file) =
    turn.requested (table.get? friend file)

section Noticed

variable {table : Table} {friend : UInt32} {file : FileId}

/-- News about anything but files says nothing about chunks. -/
theorem plainEvent_no_chunk {notification : Notification} {event : Event} {text : Bytes → Bytes}
    (h : notification.plainEvent text = .ok event) (hu : notification.isUnifiedFile = false) :
    event.received? friend file = none ∧ event.requested? friend file = none := by
  cases notification <;> simp only [Notification.plainEvent, Notification.map_ok_iff,
    Except.ok.injEq, reduceCtorEq] at h <;>
    first
      | (subst h; exact ⟨rfl, rfl⟩)
      | (obtain ⟨_, -, rfl⟩ := h; exact ⟨rfl, rfl⟩)
      | cases hu

private theorem course_of_untouched (sorted : Keyed.Sorted table.entries) {event : Event}
    (h : event.received? friend file = none ∧ event.requested? friend file = none) :
    Course friend file .untouched table ⟨[event], [], table⟩ where
  sorted := sorted
  possible := trivial
  next := rfl
  received := by rw [List.filterMap_cons, h.1]; rfl
  requested := by rw [List.filterMap_cons, h.2]; rfl

private theorem course_of_offer (sorted : Keyed.Sorted table.entries) {other : UInt32}
    {index : UInt8} {size : UInt64} {name : Bytes} {events : List Event} {after : Table}
    (h : table.remoteOffer other index size name = .ok (events, after)) :
    Course friend file ((Notification.legacyFileSendRequest other index size name).turn friend file)
      table ⟨events, [], after⟩ := by
  cases hl : table.get? other (.unify .receive index) with
  | some live =>
    rw [Table.remoteOffer_of_live hl] at h
    cases h
  | none =>
    rw [Table.remoteOffer_of_free hl] at h
    cases h
    have hget := Table.get?_put friend other file (.unify .receive index)
      (offered .receive size) table
    rw [Notification.turn]
    by_cases hk : other = friend ∧ .unify .receive index = file
    · rw [if_pos hk] at hget ⊢
      obtain ⟨rfl, rfl⟩ := hk
      exact ⟨sorted.put _ _, ⟨hl, index, rfl⟩, hget, rfl, rfl⟩
    · rw [if_neg hk] at hget ⊢
      exact ⟨sorted.put _ _, trivial, hget, rfl, rfl⟩

private theorem sorted_applyControl (sorted : Keyed.Sorted table.entries) (other : UInt32)
    (id : FileId) (control : FileControl) (live : Transfer) :
    Keyed.Sorted (table.applyControl other id control live).entries := by
  cases control with
  | resume => exact sorted.put _ _
  | pause => exact sorted.put _ _
  | cancel => exact sorted.erase _

/-- A control that is forwarded or was accepted, in the place of this transfer or of another. -/
theorem get?_controlled {other : UInt32} {id : FileId} (control : FileControl) {live : Transfer}
    (hl : table.get? other id = some live) (friend : UInt32) (file : FileId) :
    (table.applyControl other id control live).get? friend file =
      (if other = friend ∧ id = file then Turn.controlled control else .untouched).next
        (table.get? friend file) := by
  rw [Table.get?_applyControl]
  by_cases hk : other = friend ∧ id = file
  · rw [if_pos hk, if_pos hk]
    obtain ⟨rfl, rfl⟩ := hk
    rw [hl]
    cases control <;> rfl
  · rw [if_neg hk, if_neg hk]
    rfl

private theorem course_of_controlled (sorted : Keyed.Sorted table.entries) {other : UInt32}
    {id : FileId} (control : FileControl) {live : Transfer} (hl : table.get? other id = some live)
    {events : List Event} (calls : List Call)
    (hreceived : events.filterMap (Event.received? friend file) = [])
    (hrequested : events.filterMap (Event.requested? friend file) = []) :
    Course friend file
      (if other = friend ∧ id = file then Turn.controlled control else .untouched) table
      ⟨events, calls, table.applyControl other id control live⟩ := by
  refine ⟨sorted_applyControl sorted _ _ _ _, ?_, get?_controlled control hl friend file, ?_, ?_⟩
  · by_cases hk : other = friend ∧ id = file
    · rw [if_pos hk]
      obtain ⟨rfl, rfl⟩ := hk
      rw [Turn.Possible, hl]
      rfl
    · rw [if_neg hk]
      trivial
  · rw [hreceived]
    split <;> rfl
  · rw [hrequested]
    split <;> rfl

private theorem course_of_control (sorted : Keyed.Sorted table.entries) {other : UInt32}
    {side index control : UInt8} {events : List Event} {after : Table}
    (h : table.remoteControl other side index control = .ok (events, after)) :
    Course friend file ((Notification.legacyFileControl other side index control).turn friend file)
      table ⟨events, [], after⟩ := by
  by_cases hc : finishedControl < control
  · rw [Table.remoteControl_of_unknown hc] at h
    cases h
  cases hl : table.get? other (.unify (notifiedDirection side) index) with
  | none =>
    rw [Table.remoteControl_of_missing (UInt8.not_lt.mp hc) hl] at h
    cases h
  | some live =>
    rw [Notification.turn]
    by_cases he : control = finishedControl
    · subst he
      rw [Table.remoteControl_of_finished hl] at h
      cases h
      have hget := Table.get?_erase friend other file (.unify (notifiedDirection side) index) table
      by_cases hk : other = friend ∧ .unify (notifiedDirection side) index = file
      · rw [if_pos hk] at hget
        rw [if_pos hk, if_pos rfl]
        obtain ⟨rfl, rfl⟩ := hk
        refine ⟨sorted.erase _, ?_, hget, rfl, ?_⟩
        · rw [Turn.Possible, hl]
          rfl
        · simp [Event.requested?, Turn.requested, hl]
      · rw [if_neg hk] at hget
        rw [if_neg hk]
        exact ⟨sorted.erase _, trivial, hget, rfl, by simp [Event.requested?, Turn.requested, hk]⟩
    · cases hf : Table.forwarded? control with
      | none => exact absurd ((Table.forwarded?_eq_none_iff he).mp hf) hc
      | some forwarded =>
        rw [Table.remoteControl_of_forwarded hf hl] at h
        cases h
        rw [if_neg he]
        exact course_of_controlled sorted forwarded hl [] rfl rfl

private theorem course_of_data (sorted : Keyed.Sorted table.entries) {other : UInt32}
    {index : UInt8} {data : Bytes} {events : List Event} {after : Table}
    (h : table.remoteData other index data = .ok (events, after)) :
    Course friend file ((Notification.legacyFileData other index data).turn friend file) table
      ⟨events, [], after⟩ := by
  cases hl : table.get? other (.unify .receive index) with
  | none =>
    rw [Table.remoteData_of_missing hl] at h
    cases h
  | some live =>
    by_cases ho : live.size < live.position + UInt64.ofNat data.length
    · rw [Table.remoteData_of_overrun hl ho] at h
      cases h
    rw [Notification.turn]
    by_cases hd : live.position + UInt64.ofNat data.length = live.size
    · rw [Table.remoteData_of_complete hl hd] at h
      cases h
      have hget := Table.get?_erase friend other file (.unify .receive index) table
      by_cases hk : other = friend ∧ .unify .receive index = file
      · rw [if_pos hk] at hget ⊢
        obtain ⟨rfl, rfl⟩ := hk
        refine ⟨sorted.erase _, ⟨⟨index, rfl⟩, live, hl, ho⟩, ?_, ?_, rfl⟩
        · exact hget.trans (by simp [Turn.next, hl, hd])
        · simp [Event.received?, Turn.received, hl, hd]
      · rw [if_neg hk] at hget ⊢
        exact ⟨sorted.erase _, trivial, hget, by simp [Event.received?, Turn.received, hk], rfl⟩
    · rw [Table.remoteData_of_more hl ho hd] at h
      cases h
      have hget := Table.get?_put friend other file (.unify .receive index)
        { live with
          progress := if live.progress = .paused then .running else live.progress
          position := live.position + UInt64.ofNat data.length } table
      by_cases hk : other = friend ∧ .unify .receive index = file
      · rw [if_pos hk] at hget ⊢
        obtain ⟨rfl, rfl⟩ := hk
        refine ⟨sorted.put _ _, ⟨⟨index, rfl⟩, live, hl, ho⟩, ?_, ?_, rfl⟩
        · exact hget.trans (by simp [Turn.next, hl, hd])
        · simp [Event.received?, Turn.received, hl, hd]
      · rw [if_neg hk] at hget ⊢
        exact ⟨sorted.put _ _, trivial, hget, by simp [Event.received?, Turn.received, hk], rfl⟩

theorem course_of_notice (sorted : Keyed.Sorted table.entries) {notification : Notification}
    {events : List Event} {after : Table}
    (h : notification.interpretLegacy table = .ok (events, after)) :
    Course friend file (notification.turn friend file) table ⟨events, [], after⟩ := by
  cases hl : notification.isLegacyFile with
  | true =>
    cases notification with
    | legacyFileSendRequest => exact course_of_offer sorted h
    | legacyFileControl => exact course_of_control sorted h
    | legacyFileData => exact course_of_data sorted h
    | _ => cases hl
  | false =>
    rw [Notification.interpretLegacy_of_plain hl] at h
    have huntouched : notification.turn friend file = .untouched := by
      cases notification <;> first | rfl | cases hl
    split at h
    · cases h
    · rename_i hu
      obtain ⟨event, hp, he⟩ := Notification.map_ok_iff.mp h
      cases he
      rw [huntouched]
      exact course_of_untouched sorted (plainEvent_no_chunk hp (Bool.eq_false_iff.mpr hu))

end Noticed

section Answered

variable {table : Table} {friend : UInt32} {file : FileId}

private theorem course_of_pass (sorted : Keyed.Sorted table.entries) (friend : UInt32)
    (file : FileId) :
    Course friend file .passed table
      ⟨table.requestChunks.1, table.outbound.map Outbound.call,
        table.takeOutbound.2.requestChunks.2⟩ where
  sorted := Table.sorted_requestChunks sorted
  possible := trivial
  next := by
    have hget := Table.get?_requestChunks friend file table.takeOutbound.2
    have hsame : table.takeOutbound.2.get? friend file = table.get? friend file := rfl
    rw [hget, hsame]
    cases table.get? friend file <;> rfl
  received := by
    rw [Table.received_requestChunks]
    cases table.get? friend file <;> rfl
  requested := by
    rw [Table.requested_requestChunks sorted]
    cases table.get? friend file <;> rfl

theorem course_of_commit (sorted : Keyed.Sorted table.entries) {request : Request} {reply : Reply}
    {after : Table} (h : request.commit table reply = some after) (calls : List Call) :
    Course friend file (request.turn friend file reply) table ⟨[], calls, after⟩ := by
  have huntouched : ∀ {after}, some table = some after →
      Course friend file .untouched table ⟨[], calls, after⟩ := by
    intro after e
    cases e
    exact ⟨sorted, trivial, rfl, rfl, rfl⟩
  cases request with
  | fileSend other kind size name =>
    cases reply with
    | file id =>
      simp only [Request.commit] at h
      split at h
      · rename_i index hs hl
        cases h
        have hget := Table.get?_put friend other file id (offered .send size) table
        have hid := FileId.eq_unify_of_split hs
        rw [Request.turn]
        by_cases hk : other = friend ∧ id = file
        · rw [if_pos hk] at hget ⊢
          obtain ⟨rfl, rfl⟩ := hk
          exact ⟨sorted.put _ _, ⟨hl, index, hid⟩, hget, rfl, rfl⟩
        · rw [if_neg hk] at hget ⊢
          exact ⟨sorted.put _ _, trivial, hget, rfl, rfl⟩
      · cases h
    | _ => cases h
  | fileControl other id control =>
    simp only [Request.commit] at h
    split at h
    · rename_i told hr
      cases h
      obtain ⟨-, -, live, -, hl, -⟩ := Table.resolveControl_eq_ok.mp hr
      rw [Table.commitControl_of_live hl, Request.turn]
      exact course_of_controlled sorted control hl calls rfl rfl
    · cases h
  | fileSendChunk other id position data =>
    simp only [Request.commit] at h
    split at h
    · rename_i index hr
      cases h
      obtain ⟨hid, live, hl, hfits⟩ := Table.resolveChunk_eq_ok.mp hr
      have hget := Table.get?_put friend other file id
        { live with
          position := live.position + UInt64.ofNat data.length
          requestPending := false } table
      rw [Table.commitChunk_of_live hl, Request.turn]
      by_cases hk : other = friend ∧ id = file
      · rw [if_pos hk] at hget ⊢
        obtain ⟨rfl, rfl⟩ := hk
        refine ⟨sorted.put _ _, ⟨⟨index, hid⟩, live, hl, hfits⟩, ?_, rfl, rfl⟩
        exact hget.trans (by rw [hl]; rfl)
      · rw [if_neg hk] at hget ⊢
        exact ⟨sorted.put _ _, trivial, hget, rfl, rfl⟩
    · cases h
  | _ => exact huntouched h

end Answered

/-- What becomes of a transfer, and what the caller hears of its chunks, depends on it alone. -/
theorem course_of_effect {moment : Moment} {table : Table} {effect : Effect}
    (h : moment.effect table = some effect) (sorted : Keyed.Sorted table.entries)
    (friend : UInt32) (file : FileId) :
    Course friend file (moment.turn friend file) table effect := by
  cases causes_of_effect h with
  | noticed hi => exact course_of_notice sorted hi
  | passed reply => exact course_of_pass sorted friend file
  | taken hc => exact course_of_commit sorted hc _
  | refused request failure => exact ⟨sorted, trivial, rfl, rfl, rfl⟩

theorem sorted_of_follow {moments : List Moment} {table : Table} {effect : Effect}
    (h : follow moments table = some effect) (sorted : Keyed.Sorted table.entries) :
    Keyed.Sorted effect.table.entries := by
  induction moments generalizing table effect with
  | nil =>
    cases h
    exact sorted
  | cons moment rest ih =>
    obtain ⟨first, more, he, hm, rfl⟩ := split_of_follow h
    have hrest := ih hm (course_of_effect he sorted 0 ⟨0⟩).sorted
    exact hrest

theorem live_of_offered {moments : List Moment} {moment : Moment} {table : Table}
    {effect : Effect} (h : follow (moments ++ [moment]) table = some effect)
    (sorted : Keyed.Sorted table.entries) {friend : UInt32} {file : FileId}
    {direction : Direction} {size : UInt64}
    (opens : moment.turn friend file = .offered direction size) :
    effect.table.get? friend file = some (.offered direction size) := by
  obtain ⟨first, last, hf, hl, rfl⟩ := split_of_last h
  have hnext := (course_of_effect hl (sorted_of_follow hf sorted) friend file).next
  rw [opens] at hnext
  exact hnext

/-- Until it is offered again, nothing is heard of a transfer that is gone. -/
theorem absent_of_follow {moments : List Moment} {table : Table} {effect : Effect}
    (h : follow moments table = some effect) (sorted : Keyed.Sorted table.entries)
    {friend : UInt32} {file : FileId} (absent : table.get? friend file = none)
    (closed : ∀ moment ∈ moments, (moment.turn friend file).opens = false) :
    effect.table.get? friend file = none ∧
      effect.events.filterMap (Event.received? friend file) = [] ∧
      effect.events.filterMap (Event.requested? friend file) = [] := by
  induction moments generalizing table effect with
  | nil =>
    cases h
    exact ⟨absent, rfl, rfl⟩
  | cons moment rest ih =>
    obtain ⟨first, more, he, hm, rfl⟩ := split_of_follow h
    have course := course_of_effect he sorted friend file
    have hnext := course.next
    have hreceived := course.received
    have hrequested := course.requested
    rw [absent] at hnext hreceived hrequested
    rw [Turn.next_none (closed moment List.mem_cons_self)] at hnext
    rw [Turn.received_none] at hreceived
    rw [Turn.requested_none] at hrequested
    obtain ⟨hgone, hmore, hmore'⟩ := ih hm course.sorted hnext
      fun later hlater => closed later (List.mem_cons_of_mem _ hlater)
    refine ⟨hgone, ?_, ?_⟩
    · rw [Effect.events_append, List.filterMap_append, hreceived, hmore]
      rfl
    · rw [Effect.events_append, List.filterMap_append, hrequested, hmore']
      rfl

end Transfer

end Switchboard
