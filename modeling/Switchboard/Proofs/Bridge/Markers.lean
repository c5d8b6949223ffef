import Switchboard.Proofs.Bridge.Accomplished
import Switchboard.Proofs.Transfer.Sound
/-!
# The end of uploads

The caller is told that an upload has ended by a request for a chunk of no bytes. This comes about
only when the peer says that a transfer has finished, whichever transfer that is and however far it
has come, so it can be trusted exactly as far as the peer can (`upload_marker_true_iff`).
-/

namespace Switchboard

open Transfer

/-- If the moment is the peer's word that a transfer has finished, this is an upload of which
everything was sent. -/
def Moment.FinishesTruly (table : Table) : Moment → Prop
  | .noticed (.legacyFileControl friend side index control) =>
    control = finishedControl →
      ∀ live ∈ table.get? friend (.unify (notifiedDirection side) index),
        live.direction = .send ∧ live.position = live.size
  | _ => True

instance (table : Table) (moment : Moment) : Decidable (moment.FinishesTruly table) := by
  unfold Moment.FinishesTruly
  split <;> infer_instance

namespace Transfer

/-- The position is that of the end of an upload in the table of which everything was sent. -/
def EndsUpload (table : Table) (friend : UInt32) (file : FileId) (position : UInt64) : Prop :=
  ∃ index live, file.split = some (.send, index) ∧ table.get? friend file = some live ∧
    live.position = live.size ∧ position = live.size

section Markers

variable {table : Table} {friend : UInt32} {file : FileId} {position : UInt64}

/-- A pass asks for no chunk without bytes. -/
theorem nextChunk?_ne_zero (live : Transfer) (position : UInt64) :
    Table.nextChunk? live ≠ some (position, 0) := by
  intro h
  obtain ⟨hneeds, hchunk⟩ := Table.nextChunk?_eq_some_iff.mp h
  have hmore := UInt64.lt_iff_toNat_lt.mp (Table.needsRequest_iff.mp hneeds).2.2.2
  have hlength := Table.toNat_min_maxChunk_sub
    (UInt64.le_iff_toNat_le.mpr (Nat.le_of_lt hmore))
  have hzero : 0 = min maxChunk (live.size - live.position) := (Prod.ext_iff.mp hchunk).2
  have hnone : (0 : UInt64).toNat = 0 := rfl
  rw [← hzero] at hlength
  omega

/-- The marker is the peer's word about a transfer that is live, and stands where this has come. -/
theorem finished_of_marker {moment : Moment} {here : Effect}
    (h : moment.effect table = some here) (sorted : Keyed.Sorted table.entries)
    (marker : .fileChunkRequest friend file position 0 ∈ here.events) :
    ∃ side index live,
      moment = .noticed (.legacyFileControl friend side index finishedControl) ∧
      file = .unify (notifiedDirection side) index ∧
      table.get? friend file = some live ∧ position = live.position := by
  have course := course_of_effect h sorted friend file
  have hrequested : (position, 0) ∈
      (moment.turn friend file).requested (table.get? friend file) := by
    rw [← course.requested]
    exact List.mem_filterMap.mpr ⟨_, marker, by simp [Event.requested?]⟩
  have htouches := touches_turn moment friend file
  generalize moment.turn friend file = turn at hrequested htouches
  cases hl : table.get? friend file with
  | none =>
    rw [hl, Turn.requested_none] at hrequested
    cases hrequested
  | some live =>
    rw [hl] at hrequested
    cases htouches with
    | @peerFinishes side index hfile =>
      obtain ⟨hposition, -⟩ := Prod.ext_iff.mp (List.mem_singleton.mp hrequested)
      exact ⟨side, index, live, rfl, hfile, rfl, hposition⟩
    | passEnds reply =>
      exact absurd (Option.mem_toList.mp hrequested) (nextChunk?_ne_zero live position)
    | _ => cases hrequested

private theorem marker_of_finished {side index : UInt8} {live : Transfer}
    (hl : table.get? friend (.unify (notifiedDirection side) index) = some live) :
    (Moment.noticed (.legacyFileControl friend side index finishedControl)).effect table =
      some ⟨[.fileChunkRequest friend (.unify (notifiedDirection side) index) live.position 0], [],
        table.erase friend (.unify (notifiedDirection side) index)⟩ := by
  simp only [Moment.effect, Notification.interpretLegacy, Table.remoteControl_of_finished hl]

/-- The moment happens after these events, and finds this table. -/
def Happens (moments : List Moment) (start : Table) (before : List Event) (moment : Moment)
    (found : Table) : Prop :=
  ∃ earlier later reached, moments = earlier ++ moment :: later ∧
    follow earlier start = some reached ∧ reached.events = before ∧ reached.table = found

/-- A marker comes about exactly when the peer says that a live transfer has finished. -/
theorem marker_arises_iff {moments : List Moment} (sorted : Keyed.Sorted table.entries)
    {before : List Event} {moment : Moment} {found : Table} :
    Arises moments table before (.fileChunkRequest friend file position 0) moment found ↔
      Happens moments table before moment found ∧ ∃ side index live,
        moment = .noticed (.legacyFileControl friend side index finishedControl) ∧
        file = .unify (notifiedDirection side) index ∧
        found.get? friend file = some live ∧ position = live.position := by
  constructor
  · rintro ⟨earlier, later, reached, here, first, hsplit, hf, rfl, he, rfl, hin⟩
    have hmem : .fileChunkRequest friend file position 0 ∈ here.events :=
      hin.subset (List.mem_append_right _ (List.mem_singleton_self _))
    obtain ⟨side, index, live, rfl, rfl, hl, rfl⟩ :=
      finished_of_marker he (sorted_of_follow hf sorted) hmem
    rw [marker_of_finished hl] at he
    cases he
    have hfirst : first = [] := by
      have hlength := hin.length_le
      rw [List.length_append, List.length_singleton] at hlength
      exact List.length_eq_zero_iff.mp (by omega)
    refine ⟨⟨earlier, later, reached, hsplit, hf, ?_, rfl⟩, side, index, live, rfl, rfl, hl, rfl⟩
    rw [hfirst, List.append_nil]
  · rintro ⟨⟨earlier, later, reached, hsplit, hf, rfl, rfl⟩, side, index, live, rfl, rfl, hl, rfl⟩
    exact ⟨earlier, later, reached, _, [], hsplit, hf, rfl, marker_of_finished hl,
      (List.append_nil _).symm, List.prefix_refl _⟩

/-- All markers tell the truth if the peer does. -/
theorem markers_true_iff {moments : List Moment} (sound : table.Sound) :
    (∀ before friend file position moment found,
        Arises moments table before (.fileChunkRequest friend file position 0) moment found →
        EndsUpload found friend file position) ↔
      Along Moment.FinishesTruly moments table := by
  rw [along_iff]
  constructor
  · intro h earlier moment later reached hsplit hf
    unfold Moment.FinishesTruly
    split
    · rename_i friend side index control
      rintro rfl live hl
      have harises := (marker_arises_iff sound.sorted).mpr
        ⟨⟨earlier, later, reached, hsplit, hf, rfl, rfl⟩, side, index, live, rfl, rfl, hl, rfl⟩
      obtain ⟨index', other, hfile, hother, hend, -⟩ := h _ _ _ _ _ _ harises
      obtain rfl : live = other := Option.some.inj (hl.symm.trans hother)
      have hlive := (sound_of_follow hf sound).get? friend _ live hl
      exact ⟨hlive.direction_eq (FileId.eq_unify_of_split hfile), hend⟩
    · trivial
  · intro h before friend file position moment found harises
    obtain ⟨⟨earlier, later, reached, hsplit, hf, -, rfl⟩, side, index, live, rfl, rfl, hl, rfl⟩ :=
      (marker_arises_iff sound.sorted).mp harises
    obtain ⟨hsend, hend⟩ := h earlier _ later reached hsplit hf rfl live hl
    obtain ⟨index', hfile⟩ := ((sound_of_follow hf sound).get? friend _ live hl).split
    rw [hsend] at hfile
    exact ⟨index', live, hfile, hl, hend, hend⟩

end Markers

end Transfer

namespace Bridge

/-- The caller is given the events that come about at the moments of the run, in their order. A
request for a chunk of no bytes is among them each time the peer says that a live transfer has
finished, at the position this has come to. So it marks the end of an upload of which everything
was sent, as it should, exactly if the peer says this of such uploads only. -/
theorem upload_marker_true_iff {φ ε : Type} [Engine ε] [Factory φ ε] {options : EngineOptions}
    {start : Bridge φ (Recorded ε)} {handle : Handle}
    (created : (create options start).outcome = .ok handle)
    (legacy : table? handle (create options start).state = some .empty) (actions : List Action) :
    (∀ before event,
      before ++ [event] <+:
          (delivered handle actions (create options start).state).map (·.event) ↔
        ∃ moment found, Arises (moments handle actions (create options start).state) .empty before
          event moment found) ∧
    (∀ before friend file position moment found,
      Arises (moments handle actions (create options start).state) .empty before
          (.fileChunkRequest friend file position 0) moment found ↔
        Happens (moments handle actions (create options start).state) .empty before moment found ∧
          ∃ side index live,
            moment = .noticed (.legacyFileControl friend side index finishedControl) ∧
            file = .unify (notifiedDirection side) index ∧
            found.get? friend file = some live ∧ position = live.position) ∧
    ((∀ before friend file position moment found,
        Arises (moments handle actions (create options start).state) .empty before
          (.fileChunkRequest friend file position 0) moment found →
        EndsUpload found friend file position) ↔
      Along Moment.FinishesTruly (moments handle actions (create options start).state) .empty) := by
  refine ⟨fun before event => ?_, fun before friend file position moment found => ?_, ?_⟩
  · rw [(left_of_run created legacy actions).delivered]
    exact prefix_accomplished_iff
  · exact marker_arises_iff Keyed.sorted_nil
  · exact markers_true_iff Table.sound_empty

def timelyEnd : List Action :=
  [.request .epoch (.friendAddNorequest friendKey),
    .request .epoch (.fileSend 0 0 2 [97]),
    passing [.legacyFileControl 0 notifiedSending 0 acceptControl],
    .request .epoch (.fileSendChunk 0 (.unify .send 0) 0 [1, 2]), .drain,
    passing [.legacyFileControl 0 notifiedSending 0 finishedControl]]

/-- The table when the peer finishes the file. -/
def sentTable : Table := ⟨[(⟨0, .unify .send 0⟩, ⟨.send, .running, 2, 2, false⟩)], []⟩

theorem upload_marker_true_in_time :
    [.fileRecvControl 0 (.unify .send 0) .resume, .fileChunkRequest 0 (.unify .send 0) 0 2] ++
        [.fileChunkRequest 0 (.unify .send 0) 2 0] <+:
      (delivered ⟨0, 1⟩ timelyEnd (create {} legacyBridge).state).map (·.event) ∧
    EndsUpload sentTable 0 (.unify .send 0) 2 := by
  have run : moments ⟨0, 1⟩ timelyEnd (create {} legacyBridge).state =
      [.answered (.friendAddNorequest friendKey) (.ok (.number 0)),
          .answered (.fileSend 0 0 2 [97]) (.ok (.file (.unify .send 0))),
          .noticed (.legacyFileControl 0 notifiedSending 0 acceptControl), .passed (.ok .done),
          .answered (.fileSendChunk 0 (.unify .send 0) 0 [1, 2]) (.ok .done)] ++
        .noticed (.legacyFileControl 0 notifiedSending 0 finishedControl) ::
          [.passed (.ok .done)] := by decide +kernel
  have arises : Arises (moments ⟨0, 1⟩ timelyEnd (create {} legacyBridge).state) .empty
      [.fileRecvControl 0 (.unify .send 0) .resume, .fileChunkRequest 0 (.unify .send 0) 0 2]
      (.fileChunkRequest 0 (.unify .send 0) 2 0)
      (.noticed (.legacyFileControl 0 notifiedSending 0 finishedControl)) sentTable :=
    ⟨_, _, ⟨[.fileRecvControl 0 (.unify .send 0) .resume,
        .fileChunkRequest 0 (.unify .send 0) 0 2], [.legacyFileData 0 0 [1, 2]], sentTable⟩,
      ⟨[.fileChunkRequest 0 (.unify .send 0) 2 0], [], .empty⟩, [], run, by decide +kernel, rfl,
      by decide +kernel, rfl, List.prefix_refl _⟩
  obtain ⟨hdelivered, -, htrue⟩ :=
    upload_marker_true_iff create_legacyBridge table?_legacyBridge timelyEnd
  have truly : Along Moment.FinishesTruly
      (moments ⟨0, 1⟩ timelyEnd (create {} legacyBridge).state) .empty := by decide +kernel
  exact ⟨(hdelivered _ _).mpr ⟨_, _, arises⟩, htrue.mpr truly _ _ _ _ _ _ arises⟩

/-- The peer finishes a file it has sent nothing of, and one of which nothing was sent to it. -/
def untimelyEnds : List Action :=
  [.request .epoch (.friendAddNorequest friendKey),
    .request .epoch (.fileSend 0 0 4 [97]),
    passing [.legacyFileSendRequest 4 7 5 [97], .legacyFileControl 4 0 7 finishedControl,
      .legacyFileControl 0 notifiedSending 0 finishedControl]]

/-- Both transfers get a marker, and it is true of neither. -/
theorem not_upload_marker_always_true :
    (delivered ⟨0, 1⟩ untimelyEnds (create {} legacyBridge).state).map (·.event) =
        [.fileRecv 4 (.unify .receive 7) 0 5 [97], .fileChunkRequest 4 (.unify .receive 7) 0 0,
          .fileChunkRequest 0 (.unify .send 0) 0 0] ∧
      ¬ ∀ before friend file position moment found,
        Arises (moments ⟨0, 1⟩ untimelyEnds (create {} legacyBridge).state) .empty before
          (.fileChunkRequest friend file position 0) moment found →
        EndsUpload found friend file position := by
  refine ⟨by decide +kernel, fun h => ?_⟩
  have untrue : ¬ Along Moment.FinishesTruly
      (moments ⟨0, 1⟩ untimelyEnds (create {} legacyBridge).state) .empty := by decide +kernel
  exact untrue ((markers_true_iff Table.sound_empty).mp h)

end Bridge

end Switchboard
