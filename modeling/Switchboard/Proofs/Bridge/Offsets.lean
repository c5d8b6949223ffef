import Switchboard.Proofs.Bridge.Accomplished
import Switchboard.Proofs.Bridge.Download
import Switchboard.Proofs.Transfer.Sound
/-!
# The offsets of an upload

An upload is asked for one chunk at a time. It is asked for the next when the caller has sent one,
from where that one ended (`AsksOn`). An empty chunk ends where it starts, so the same offset is
asked for again after it, and after nothing else (`upload_offsets_advance`).
-/

namespace Switchboard

open Transfer

namespace Transfer

/-- The chunk of the caller's that the engine takes in this turn. -/
def Turn.sent? : Turn → Option Bytes
  | .sent _ data => some data
  | _ => none

end Transfer

/-- The chunk of the caller's that is taken for the transfer at this moment. -/
def Moment.sent? (friend : UInt32) (file : FileId) (moment : Moment) : Option Bytes :=
  (moment.turn friend file).sent?

namespace Transfer

/-- The chunks of a transfer that events ask for, with position and length, without the mark of the
end. -/
def asks (friend : UInt32) (file : FileId) (events : List Event) : List (UInt64 × UInt64) :=
  (events.filterMap (Event.requested? friend file)).filter (·.2 ≠ 0)

private theorem asks_append (friend : UInt32) (file : FileId) (first second : List Event) :
    asks friend file (first ++ second) = asks friend file first ++ asks friend file second := by
  rw [asks, List.filterMap_append, List.filter_append]
  rfl

/-- How the position that an upload is asked for later follows from one it was asked for, when these
chunks were taken in between. -/
structure AsksOn (position later : UInt64) (sent : List Bytes) : Prop where
  answered : sent ≠ []
  advanced : later.toNat = position.toNat + total sent
  /-- The same position is asked for again if all of them were empty, and only then. -/
  again_iff : later = position ↔ ∀ data ∈ sent, data = []

/-- A chunk of a transfer is asked for, and after these moments another. -/
def AsksTwice (friend : UInt32) (file : FileId) (moments : List Moment) (table : Table)
    (between : List Moment) (chunk next : UInt64 × UInt64) : Prop :=
  ∃ earlier asking again later reached asked passed repeated,
    moments = earlier ++ asking :: (between ++ again :: later) ∧
    follow earlier table = some reached ∧ asking.effect reached.table = some asked ∧
    follow between asked.table = some passed ∧ again.effect passed.table = some repeated ∧
    chunk ∈ asks friend file asked.events ∧ next ∈ asks friend file repeated.events

/-- What an upload becomes when these chunks of it are taken. -/
structure Advances (before after : Transfer) (sent : List Bytes) : Prop where
  direction : after.direction = before.direction
  size : after.size = before.size
  position : after.position.toNat = before.position.toNat + total sent
  /-- A request stays open until a chunk is taken. -/
  pending : sent = [] → before.requestPending = true → after.requestPending = true

theorem Advances.refl (live : Transfer) : Advances live live [] := ⟨rfl, rfl, rfl, fun _ h => h⟩

theorem Advances.trans {first second third : Transfer} {sent more : List Bytes}
    (h₁ : Advances first second sent) (h₂ : Advances second third more) :
    Advances first third (sent ++ more) where
  direction := h₂.direction.trans h₁.direction
  size := h₂.size.trans h₁.size
  position := by rw [h₂.position, h₁.position, total_append, Nat.add_assoc]
  pending := by
    intro hnone hpending
    obtain ⟨hsent, hmore⟩ := List.append_eq_nil_iff.mp hnone
    exact h₂.pending hmore (h₁.pending hsent hpending)

section Offsets

variable {friend : UInt32} {file : FileId} {live : Transfer} {table : Table} {effect : Effect}

/-- A chunk that fits, of a file whose end is at least a chunk below the last position. -/
theorem toNat_position_sent (sound : Sound file live) {position : UInt64} {data : Bytes}
    (fits : Table.Fits position (UInt64.ofNat data.length) live)
    (room : live.size.toNat + 1371 < 2 ^ 64) (brief : data.length < 2 ^ 64) :
    (live.position + UInt64.ofNat data.length).toNat = live.position.toNat + data.length := by
  have hposition := UInt64.le_iff_toNat_le.mp sound.position_le
  have hlength := UInt64.le_iff_toNat_le.mp (UInt64.not_lt.mp fits.length_le)
  have hdata : (UInt64.ofNat data.length).toNat = data.length := UInt64.toNat_ofNat_of_lt' brief
  have hmax := Table.toNat_maxChunk
  rw [UInt64.toNat_add, hdata]
  exact Nat.mod_eq_of_lt (by omega)

private theorem advances_next {turn : Turn} (possible : turn.Possible file (some live))
    (sound : Sound file live) (send : live.direction = .send)
    (room : live.size.toNat + 1371 < 2 ^ 64)
    (brief : ∀ data ∈ turn.sent?, data.length < 2 ^ 64) :
    ∀ after ∈ turn.next (some live), Advances live after turn.sent?.toList := by
  intro after hafter
  cases turn with
  | untouched =>
    cases hafter
    exact .refl live
  | offered direction size => exact absurd possible (Turn.not_possible_offered _ _ _)
  | finished => cases hafter
  | controlled control =>
    cases control with
    | cancel => cases hafter
    | _ =>
      cases hafter
      exact ⟨rfl, rfl, rfl, fun _ h => h⟩
  | arrived data =>
    obtain ⟨⟨index, hfile⟩, -⟩ := possible
    rw [sound.direction_eq hfile] at send
    cases send
  | sent position data =>
    obtain ⟨-, _, he, hfits⟩ := possible
    cases he
    cases hafter
    refine ⟨rfl, rfl, ?_, fun hnone => nomatch hnone⟩
    rw [show (Turn.sent position data).sent?.toList = [data] from rfl, total_singleton]
    exact toNat_position_sent sound hfits room (brief data rfl)
  | passed =>
    cases hafter
    unfold Table.asked
    split
    · exact ⟨rfl, rfl, rfl, fun _ _ => rfl⟩
    · exact .refl live

theorem advances_of_follow {moments : List Moment} (h : follow moments table = some effect)
    (sound : table.Sound) {before after : Transfer} (send : before.direction = .send)
    (room : before.size.toNat + 1371 < 2 ^ 64)
    (brief : ∀ data ∈ moments.filterMap (·.sent? friend file), data.length < 2 ^ 64)
    (closed : ∀ moment ∈ moments, (moment.turn friend file).opens = false)
    (hb : table.get? friend file = some before)
    (ha : effect.table.get? friend file = some after) :
    Advances before after (moments.filterMap (·.sent? friend file)) := by
  induction moments generalizing table effect before with
  | nil =>
    cases h
    obtain rfl : before = after := Option.some.inj (hb.symm.trans ha)
    exact .refl before
  | cons moment rest ih =>
    obtain ⟨first, more, he, hm, rfl⟩ := split_of_follow h
    have course := course_of_effect he sound.sorted friend file
    have hpossible := course.possible
    have hnext := course.next
    rw [hb] at hpossible hnext
    have hsound : first.table.Sound := sound_of_follow ((follow_singleton _ _).trans he) sound
    have hclosed : ∀ later ∈ rest, (later.turn friend file).opens = false :=
      fun later hl => closed later (List.mem_cons_of_mem _ hl)
    have hsplit : (moment :: rest).filterMap (·.sent? friend file) =
        (moment.turn friend file).sent?.toList ++ rest.filterMap (·.sent? friend file) := by
      rw [List.filterMap_cons, Moment.sent?]
      cases (moment.turn friend file).sent? <;> rfl
    rw [hsplit] at brief ⊢
    cases hl : first.table.get? friend file with
    | none =>
      rw [Effect.table_append, (absent_of_follow hm hsound.sorted hl hclosed).1] at ha
      cases ha
    | some live =>
      have hfirst := advances_next hpossible (sound.get? friend file before hb) send room
        (fun data hd => brief data (List.mem_append_left _ (Option.mem_toList.mpr hd)))
        live (hnext.symm.trans hl)
      have hrest := ih hm hsound (hfirst.direction.trans send) (hfirst.size ▸ room)
        (fun data hd => brief data (List.mem_append_right _ hd)) hclosed hl ha
      exact hfirst.trans hrest

/-- A moment asks for one chunk at most, from where the transfer is. -/
theorem asked_of_mem {moment : Moment} (h : moment.effect table = some effect)
    (sorted : Keyed.Sorted table.entries) {chunk : UInt64 × UInt64}
    (hm : chunk ∈ asks friend file effect.events) :
    asks friend file effect.events = [chunk] ∧
      ∃ live, table.get? friend file = some live ∧ live.direction = .send ∧
        live.requestPending = false ∧ chunk.1 = live.position ∧
        effect.table.get? friend file = some { live with requestPending := true } := by
  have course := course_of_effect h sorted friend file
  have hnext := course.next
  rw [asks, course.requested] at hm ⊢
  cases hl : table.get? friend file with
  | none =>
    rw [hl, Turn.requested_none] at hm
    cases hm
  | some live =>
    rw [hl] at hm hnext
    generalize moment.turn friend file = turn at hm hnext ⊢
    cases turn with
    | finished => simp [Turn.requested] at hm
    | passed =>
      obtain ⟨hmem, hlength⟩ := List.mem_filter.mp hm
      have hchunk : Table.nextChunk? live = some chunk := Option.mem_toList.mp hmem
      obtain ⟨hneeds, hposition⟩ := Table.nextChunk?_eq_some_iff.mp hchunk
      obtain ⟨hsend, -, hfree, -⟩ := Table.needsRequest_iff.mp hneeds
      have hasked : Table.asked live = { live with requestPending := true } := if_pos hneeds
      refine ⟨?_, live, rfl, hsend, hfree, by rw [hposition], hnext.trans (congrArg some hasked)⟩
      simp only [Turn.requested, hchunk, Option.toList_some]
      exact List.filter_cons_of_pos hlength
    | _ => cases hm

private theorem total_eq_zero_iff (chunks : List Bytes) :
    total chunks = 0 ↔ ∀ data ∈ chunks, data = [] := by
  induction chunks with
  | nil => exact ⟨fun _ _ h => (nomatch h), fun _ => rfl⟩
  | cons data rest ih =>
    rw [total_cons, Nat.add_eq_zero_iff, ih, List.length_eq_zero_iff, List.forall_mem_cons]

/-- A transfer that was asked for is asked for again only after a chunk was taken. -/
theorem asksOn_of_asks {between : List Moment} {asking again : Moment}
    {asked passed repeated : Effect} {chunk next : UInt64 × UInt64} (sound : table.Sound)
    (room : ∀ live ∈ table.get? friend file, live.size.toNat + 1371 < 2 ^ 64)
    (ha : asking.effect table = some asked) (hp : follow between asked.table = some passed)
    (hr : again.effect passed.table = some repeated)
    (brief : ∀ data ∈ between.filterMap (·.sent? friend file), data.length < 2 ^ 64)
    (closed : ∀ moment ∈ between, (moment.turn friend file).opens = false)
    (first : chunk ∈ asks friend file asked.events)
    (second : next ∈ asks friend file repeated.events) :
    AsksOn chunk.1 next.1 (between.filterMap (·.sent? friend file)) := by
  have hsound : asked.table.Sound := sound_of_follow ((follow_singleton _ _).trans ha) sound
  obtain ⟨-, live, hl, hsend, -, hposition, hasked⟩ := asked_of_mem ha sound.sorted first
  obtain ⟨-, later, hlater, -, hfree, hnext, -⟩ :=
    asked_of_mem hr (sorted_of_follow hp hsound.sorted) second
  have hadvances : Advances { live with requestPending := true } later
      (between.filterMap (·.sent? friend file)) := by
    refine advances_of_follow hp hsound ?_ ?_ brief closed hasked hlater
    · exact hsend
    · exact room live hl
  have hadvanced : next.1.toNat =
      chunk.1.toNat + total (between.filterMap (·.sent? friend file)) := by
    rw [hnext, hposition]
    exact hadvances.position
  refine ⟨fun hnone => ?_, hadvanced, ?_⟩
  · have hpending := hadvances.pending hnone rfl
    rw [hfree] at hpending
    cases hpending
  · rw [← total_eq_zero_iff, ← UInt64.toNat_inj, hadvanced]
    omega

private theorem exists_moment_of_asked {moments : List Moment}
    (h : follow moments table = some effect) {chunk : UInt64 × UInt64}
    (hm : chunk ∈ asks friend file effect.events) :
    ∃ earlier moment later reached here, moments = earlier ++ moment :: later ∧
      follow earlier table = some reached ∧ moment.effect reached.table = some here ∧
      chunk ∈ asks friend file here.events := by
  induction moments generalizing table effect with
  | nil =>
    cases h
    cases hm
  | cons moment rest ih =>
    obtain ⟨first, more, he, hf, rfl⟩ := split_of_follow h
    rw [Effect.events_append, asks_append] at hm
    rcases List.mem_append.mp hm with hm | hm
    · exact ⟨[], moment, rest, .still table, first, rfl, rfl, he, hm⟩
    · obtain ⟨earlier, other, later, reached, here, rfl, hr, hh, hin⟩ := ih hf hm
      refine ⟨moment :: earlier, other, later, first.append reached, here, rfl, ?_, hh, hin⟩
      rw [follow_cons_of_effect he, hr]
      rfl

/-- What relates any two requests relates all of them. -/
theorem pairwise_asks {R : UInt64 × UInt64 → UInt64 × UInt64 → Prop} {moments : List Moment}
    (h : follow moments table = some effect) (sorted : Keyed.Sorted table.entries)
    (two : ∀ between chunk next, AsksTwice friend file moments table between chunk next →
      R chunk next) :
    (asks friend file effect.events).Pairwise R := by
  induction moments generalizing table effect with
  | nil =>
    cases h
    exact .nil
  | cons moment rest ih =>
    obtain ⟨first, more, he, hf, rfl⟩ := split_of_follow h
    rw [Effect.events_append, asks_append]
    refine List.pairwise_append.mpr ⟨?_, ?_, ?_⟩
    · cases hasked : asks friend file first.events with
      | nil => exact .nil
      | cons chunk others =>
        have hone := (asked_of_mem he sorted (hasked ▸ List.mem_cons_self)).1
        rw [hasked] at hone
        rw [hone]
        exact List.pairwise_singleton _ _
    · refine ih hf (course_of_effect he sorted friend file).sorted fun between chunk next htwo => ?_
      obtain ⟨earlier, asking, again, later, reached, asked, passed, repeated, rfl, hr, hrest⟩ :=
        htwo
      refine two between chunk next ⟨moment :: earlier, asking, again, later, first.append reached,
        asked, passed, repeated, rfl, ?_, hrest⟩
      rw [follow_cons_of_effect he, hr]
      rfl
    · intro chunk hc next hn
      obtain ⟨between, again, later, passed, repeated, rfl, hp, hr, hin⟩ :=
        exists_moment_of_asked hf hn
      exact two between chunk next ⟨[], moment, again, later, .still table, first, passed, repeated,
        rfl, rfl, he, hp, hr, hc, hin⟩

/-- From its offer on, one request of an upload leads to the next. -/
theorem asksOn_of_asksTwice {moments between : List Moment} {size : UInt64}
    {chunk next : UInt64 × UInt64} (sound : table.Sound)
    (hl : table.get? friend file = some (.offered .send size))
    (closed : ∀ moment ∈ moments, (moment.turn friend file).opens = false)
    (room : size.toNat + 1371 < 2 ^ 64)
    (brief : ∀ data ∈ moments.filterMap (·.sent? friend file), data.length < 2 ^ 64)
    (h : AsksTwice friend file moments table between chunk next) :
    AsksOn chunk.1 next.1 (between.filterMap (·.sent? friend file)) := by
  obtain ⟨earlier, asking, again, later, reached, asked, passed, repeated, rfl, hr, ha, hp, hg,
    first, second⟩ := h
  have hbrief : ∀ part : List Moment,
      part.Sublist (earlier ++ asking :: (between ++ again :: later)) →
      ∀ data ∈ part.filterMap (·.sent? friend file), data.length < 2 ^ 64 :=
    fun part hpart data hd => brief data ((hpart.filterMap _).subset hd)
  have hbetween : between.Sublist (earlier ++ asking :: (between ++ again :: later)) :=
    ((List.sublist_append_left _ _).cons _).trans (List.sublist_append_right _ _)
  refine asksOn_of_asks (sound_of_follow hr sound) (fun live hlive => ?_) ha hp hg
    (hbrief between hbetween) (fun moment hm => closed moment (hbetween.subset hm)) first second
  have hadvances := advances_of_follow hr sound
    (show (offered .send size).direction = .send from rfl) room
    (hbrief earlier (List.sublist_append_left _ _))
    (fun moment hm => closed moment (List.mem_append_left _ hm)) hl hlive
  rw [hadvances.size]
  exact room

end Offsets

end Transfer

namespace Bridge

/-- From its offer on, until another file is offered in its place, an upload is asked for positions
that do not decrease. Between two requests the caller has sent at least one chunk, and the later one
is for the position behind all that was sent in between, so for the same position only if this was
nothing. Sizes must leave room for one chunk more; `brief` holds of all data that fits into memory.
-/
theorem upload_offsets_advance {φ ε : Type} [Engine ε] [Factory φ ε] {options : EngineOptions}
    {start : Bridge φ (Recorded ε)} {handle : Handle} {actions : List Action}
    {friend kind : UInt32} {index : UInt8} {size : UInt64} {name : Bytes}
    {before during after : List Moment} {offered life : Effect}
    (created : (create options start).outcome = .ok handle)
    (legacy : table? handle (create options start).state = some .empty)
    (run : moments handle actions (create options start).state =
      (before ++
          [.answered (.fileSend friend kind size name) (.ok (.file (.unify .send index)))]) ++
        (during ++ after))
    (begun : follow (before ++
      [.answered (.fileSend friend kind size name) (.ok (.file (.unify .send index)))]) .empty =
        some offered)
    (happened : follow during offered.table = some life)
    (closed : ∀ moment ∈ during, (moment.turn friend (.unify .send index)).opens = false)
    (room : size.toNat + 1371 < 2 ^ 64)
    (brief : ∀ data ∈ during.filterMap (·.sent? friend (.unify .send index)),
      data.length < 2 ^ 64) :
    offered.events ++ life.events <+:
        (delivered handle actions (create options start).state).map (·.event) ∧
      (asks friend (.unify .send index) life.events).Pairwise
        (fun chunk next => chunk.1 ≤ next.1) ∧
      ∀ between chunk next,
        AsksTwice friend (.unify .send index) during offered.table between chunk next →
        AsksOn chunk.1 next.1 (between.filterMap (·.sent? friend (.unify .send index))) := by
  have hsound := sound_of_follow begun Table.sound_empty
  have hoffer : offered.table.get? friend (.unify .send index) = some (.offered .send size) := by
    apply live_of_offered begun Keyed.sorted_nil
    simp [Moment.turn, Request.turn]
  have htwice : ∀ between chunk next,
      AsksTwice friend (.unify .send index) during offered.table between chunk next →
      AsksOn chunk.1 next.1 (between.filterMap (·.sent? friend (.unify .send index))) :=
    fun between chunk next => asksOn_of_asksTwice hsound hoffer closed room brief
  refine ⟨?_, ?_, htwice⟩
  · exact prefix_delivered created legacy run begun happened
  · refine pairwise_asks happened hsound.sorted fun between chunk next h => ?_
    rw [UInt64.le_iff_toNat_le, (htwice between chunk next h).advanced]
    exact Nat.le_add_right _ _

/-- A file of five bytes is offered and accepted. The caller sends no bytes of it, and then two. -/
def emptyAnswer : List Action :=
  [.request .epoch (.friendAddNorequest friendKey),
    .request .epoch (.fileSend 0 0 5 [97]),
    passing [.legacyFileControl 0 notifiedSending 0 acceptControl],
    .request .epoch (.fileSendChunk 0 (.unify .send 0) 0 []), .request .epoch .iterate,
    .request .epoch (.fileSendChunk 0 (.unify .send 0) 0 [1, 2]), .drain,
    .request .epoch .iterate]

def emptyAnswerMoments : List Moment :=
  [.noticed (.legacyFileControl 0 notifiedSending 0 acceptControl), .passed (.ok .done),
    .answered (.fileSendChunk 0 (.unify .send 0) 0 []) (.ok .done), .passed (.ok .done),
    .answered (.fileSendChunk 0 (.unify .send 0) 0 [1, 2]) (.ok .done), .passed (.ok .done)]

def answeredTable (progress : Progress) (position : UInt64) (pending : Bool) : Table :=
  ⟨[(⟨0, .unify .send 0⟩, ⟨.send, progress, position, 5, pending⟩)], []⟩

theorem upload_offsets_after_empty_answer :
    (asks 0 (.unify .send 0)
      ((delivered ⟨0, 1⟩ emptyAnswer (create {} legacyBridge).state).map (·.event))) =
        [(0, 5), (0, 5), (2, 3)] ∧
      AsksOn 0 0 [[]] ∧ AsksOn 0 2 [[1, 2]] := by
  have run : moments ⟨0, 1⟩ emptyAnswer (create {} legacyBridge).state =
      ([.answered (.friendAddNorequest friendKey) (.ok (.number 0))] ++
          [.answered (.fileSend 0 0 5 [97]) (.ok (.file (.unify .send 0)))]) ++
        (emptyAnswerMoments ++ []) := by decide +kernel
  have begun : follow
      ([.answered (.friendAddNorequest friendKey) (.ok (.number 0))] ++
        [.answered (.fileSend 0 0 5 [97]) (.ok (.file (.unify .send 0)))]) .empty =
      some ⟨[], [], answeredTable .paused 0 false⟩ := by decide +kernel
  have happened : follow emptyAnswerMoments (answeredTable .paused 0 false) =
      some ⟨[.fileRecvControl 0 (.unify .send 0) .resume, .fileChunkRequest 0 (.unify .send 0) 0 5,
          .fileChunkRequest 0 (.unify .send 0) 0 5, .fileChunkRequest 0 (.unify .send 0) 2 3],
        [.legacyFileData 0 0 [1, 2]], answeredTable .running 2 true⟩ := by decide +kernel
  obtain ⟨-, -, hasks⟩ :=
    upload_offsets_advance create_legacyBridge table?_legacyBridge run begun happened
      (by decide +kernel) (by decide) (by decide +kernel)
  refine ⟨by decide +kernel, ?_, ?_⟩
  · exact hasks [.answered (.fileSendChunk 0 (.unify .send 0) 0 []) (.ok .done)] (0, 5) (0, 5)
      ⟨[.noticed (.legacyFileControl 0 notifiedSending 0 acceptControl)], .passed (.ok .done),
        .passed (.ok .done),
        [.answered (.fileSendChunk 0 (.unify .send 0) 0 [1, 2]) (.ok .done), .passed (.ok .done)],
        ⟨[.fileRecvControl 0 (.unify .send 0) .resume], [], answeredTable .running 0 false⟩,
        ⟨[.fileChunkRequest 0 (.unify .send 0) 0 5], [], answeredTable .running 0 true⟩,
        ⟨[], [], answeredTable .running 0 false⟩,
        ⟨[.fileChunkRequest 0 (.unify .send 0) 0 5], [], answeredTable .running 0 true⟩,
        rfl, by decide +kernel⟩
  · exact hasks [.answered (.fileSendChunk 0 (.unify .send 0) 0 [1, 2]) (.ok .done)] (0, 5) (2, 3)
      ⟨[.noticed (.legacyFileControl 0 notifiedSending 0 acceptControl), .passed (.ok .done),
          .answered (.fileSendChunk 0 (.unify .send 0) 0 []) (.ok .done)],
        .passed (.ok .done), .passed (.ok .done), [],
        ⟨[.fileRecvControl 0 (.unify .send 0) .resume, .fileChunkRequest 0 (.unify .send 0) 0 5],
          [], answeredTable .running 0 false⟩,
        ⟨[.fileChunkRequest 0 (.unify .send 0) 0 5], [], answeredTable .running 0 true⟩,
        ⟨[], [.legacyFileData 0 0 [1, 2]], answeredTable .running 2 false⟩,
        ⟨[.fileChunkRequest 0 (.unify .send 0) 2 3], [], answeredTable .running 2 true⟩,
        rfl, by decide +kernel⟩

/-- The first position of the file is asked for twice. -/
theorem not_upload_offsets_increase :
    (delivered ⟨0, 1⟩ emptyAnswer (create {} legacyBridge).state).map (·.event) =
        [.fileRecvControl 0 (.unify .send 0) .resume, .fileChunkRequest 0 (.unify .send 0) 0 5,
          .fileChunkRequest 0 (.unify .send 0) 0 5, .fileChunkRequest 0 (.unify .send 0) 2 3] ∧
      ¬ (asks 0 (.unify .send 0)
        ((delivered ⟨0, 1⟩ emptyAnswer (create {} legacyBridge).state).map (·.event))).Pairwise
          (fun chunk next => chunk.1 < next.1) := by
  decide +kernel

end Bridge

end Switchboard
