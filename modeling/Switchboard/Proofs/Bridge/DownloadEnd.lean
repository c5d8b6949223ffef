import Switchboard.Proofs.Bridge.Accomplished
import Switchboard.Proofs.Bridge.Download
import Switchboard.Proofs.Transfer.Sound
/-!
# The end of downloads

The caller is told that a download has ended by an empty chunk. It is told so once, at the end of
the file and after all other chunks, exactly if the peer brings no empty data
(`download_end_once_iff`): such data becomes an empty chunk too, wherever the file is.
-/

namespace Switchboard

namespace Transfer

/-- An empty chunk comes at most once, at the end of the file, and after all other chunks. -/
structure EndsOnce (size : UInt64) (chunks : List (UInt64 × Bytes)) : Prop where
  once : chunks.countP (·.2.isEmpty) ≤ 1
  at_size : ∀ chunk ∈ chunks, chunk.2 = [] → chunk.1 = size
  last : ∀ chunk ∈ chunks.dropLast, chunk.2 ≠ []

section EndsOnce

variable {size position : UInt64} {data : Bytes} {chunks : List (UInt64 × Bytes)}

private theorem endsOnce_nil (size : UInt64) : EndsOnce size [] :=
  ⟨Nat.zero_le _, fun _ h => (nomatch h), fun _ h => nomatch h⟩

private theorem endsOnce_end (size : UInt64) : EndsOnce size [(size, [])] where
  once := Nat.le_refl _
  at_size := fun chunk h _ => by rw [List.mem_singleton.mp h]
  last := fun _ h => nomatch h

/-- A chunk that holds something does not matter. -/
theorem endsOnce_cons_iff (nonempty : data ≠ []) :
    EndsOnce size ((position, data) :: chunks) ↔ EndsOnce size chunks := by
  have hcount : ((position, data) :: chunks).countP (·.2.isEmpty) =
      chunks.countP (·.2.isEmpty) := by
    rw [List.countP_cons_of_neg]
    simpa using nonempty
  constructor
  · rintro ⟨once, at_size, last⟩
    refine ⟨hcount ▸ once, fun chunk h => at_size chunk (List.mem_cons_of_mem _ h), ?_⟩
    intro chunk h
    cases chunks with
    | nil => cases h
    | cons next rest => exact last chunk (List.mem_cons_of_mem _ h)
  · rintro ⟨once, at_size, last⟩
    refine ⟨hcount ▸ once, ?_, ?_⟩
    · intro chunk h hempty
      rcases List.mem_cons.mp h with rfl | h
      · exact absurd hempty nonempty
      · exact at_size chunk h hempty
    · intro chunk h
      cases chunks with
      | nil => cases h
      | cons next rest =>
        rcases List.mem_cons.mp h with rfl | h
        · exact nonempty
        · exact last chunk h

/-- After an empty chunk, or with one that is not at the end, there is more than one end. -/
theorem not_endsOnce_cons_empty (h : position ≠ size ∨ chunks ≠ []) :
    ¬ EndsOnce size ((position, []) :: chunks) := by
  rintro ⟨-, at_size, last⟩
  rcases h with h | h
  · exact h (at_size _ List.mem_cons_self rfl)
  · obtain ⟨next, rest, rfl⟩ := List.exists_cons_of_ne_nil h
    exact last (position, []) List.mem_cons_self rfl

end EndsOnce

section During

variable {friend : UInt32} {index : UInt8} {size : UInt64} {table : Table} {effect : Effect}

/-- Data arrives for live transfers only. -/
theorem data?_of_absent {moments : List Moment} (h : follow moments table = some effect)
    (sorted : Keyed.Sorted table.entries)
    (absent : table.get? friend (.unify .receive index) = none)
    (closed : ∀ moment ∈ moments, (moment.turn friend (.unify .receive index)).opens = false) :
    ∀ moment ∈ moments, moment.data? friend index = none := by
  induction moments generalizing table effect with
  | nil => exact fun _ h => nomatch h
  | cons moment rest ih =>
    obtain ⟨first, more, he, hm, rfl⟩ := split_of_follow h
    have course := course_of_effect he sorted friend (.unify .receive index)
    have hpossible := course.possible
    have hnext := course.next
    rw [absent] at hpossible hnext
    rw [Turn.next_none (closed moment List.mem_cons_self)] at hnext
    intro other ho
    rcases List.mem_cons.mp ho with rfl | ho
    · cases hd : other.data? friend index with
      | none => rfl
      | some data =>
        rw [turn_of_data? hd] at hpossible
        obtain ⟨-, _, hlive, -⟩ := hpossible
        cases hlive
    · exact ih hm course.sorted hnext (fun later hl => closed later (List.mem_cons_of_mem _ hl))
        other ho

private theorem received_of_other {turn : Turn} (h : ∀ data, turn ≠ .arrived data)
    (live : Option Transfer) : turn.received live = [] := by
  cases turn with
  | arrived data => exact absurd rfl (h data)
  | _ => rfl

/-- A download ends once in what the caller is given of it, exactly if no empty data comes. -/
theorem endsOnce_iff_of_follow {moments : List Moment} (h : follow moments table = some effect)
    (sorted : Keyed.Sorted table.entries)
    (sized : ∀ live ∈ table.get? friend (.unify .receive index), live.size = size)
    (closed : ∀ moment ∈ moments, (moment.turn friend (.unify .receive index)).opens = false) :
    EndsOnce size (effect.events.filterMap (Event.received? friend (.unify .receive index))) ↔
      ∀ moment ∈ moments, moment.data? friend index ≠ some [] := by
  induction moments generalizing table effect with
  | nil =>
    cases h
    exact ⟨fun _ _ hm => absurd hm List.not_mem_nil, fun _ => endsOnce_nil size⟩
  | cons moment rest ih =>
    cases hl : table.get? friend (.unify .receive index) with
    | none =>
      obtain ⟨-, hreceived, -⟩ := absent_of_follow h sorted hl closed
      have hdata := data?_of_absent h sorted hl closed
      rw [hreceived]
      refine ⟨fun _ other hm => ?_, fun _ => endsOnce_nil size⟩
      rw [hdata other hm]
      simp
    | some live =>
      obtain ⟨first, more, he, hm, rfl⟩ := split_of_follow h
      have course := course_of_effect he sorted friend (.unify .receive index)
      have hpossible := course.possible
      have hnext := course.next
      have hreceived := course.received
      rw [hl] at hpossible hnext hreceived
      obtain rfl : live.size = size := sized live hl
      have hclosed : ∀ later ∈ rest, (later.turn friend (.unify .receive index)).opens = false :=
        fun later hr => closed later (List.mem_cons_of_mem _ hr)
      have hsized : ∀ after ∈ first.table.get? friend (.unify .receive index),
          after.size = live.size := by
        rw [hnext]
        exact fun after hafter => (same_next hpossible after hafter).2
      rw [Effect.events_append, List.filterMap_append, hreceived, List.forall_mem_cons]
      cases hd : moment.data? friend index with
      | none =>
        have hother : ∀ data, moment.turn friend (.unify .receive index) ≠ .arrived data := by
          intro data hturn
          rw [data?_of_arrived hturn] at hd
          cases hd
        rw [received_of_other hother, List.nil_append, ih hm course.sorted hsized hclosed]
        exact ⟨fun hrest => ⟨by simp, hrest⟩, And.right⟩
      | some data =>
        rw [turn_of_data? hd] at hnext ⊢
        simp only [Turn.received, Turn.next, List.cons_append] at hnext ⊢
        by_cases hempty : data = []
        · subst hempty
          refine iff_of_false (not_endsOnce_cons_empty ?_) fun hall => hall.1 rfl
          by_cases hend : live.position = live.size
          · right
            rw [if_pos]
            · exact List.cons_ne_nil _ _
            · rw [hend]
              exact UInt64.add_zero _
          · exact .inl hend
        · rw [endsOnce_cons_iff hempty]
          have hdata : some data ≠ some [] := fun e => hempty (Option.some.inj e)
          by_cases hend : live.position + UInt64.ofNat data.length = live.size
          · rw [if_pos hend] at hnext ⊢
            obtain ⟨-, hrest, -⟩ := absent_of_follow hm course.sorted hnext hclosed
            have hnone := data?_of_absent hm course.sorted hnext hclosed
            rw [hrest, List.append_nil]
            refine ⟨fun _ => ⟨hdata, fun later hr => ?_⟩, fun _ => endsOnce_end live.size⟩
            rw [hnone later hr]
            simp
          · rw [if_neg hend, List.nil_append, ih hm course.sorted hsized hclosed]
            exact ⟨fun hrest => ⟨hdata, hrest⟩, And.right⟩

end During

end Transfer

namespace Bridge

open Transfer

/-- From its offer on, until another file is offered in its place, the chunks that the caller is
given of a download tell its end once, at its size and after all others, exactly if the peer brings
no empty data for it. -/
theorem download_end_once_iff {φ ε : Type} [Engine ε] [Factory φ ε] {options : EngineOptions}
    {start : Bridge φ (Recorded ε)} {handle : Handle} {actions : List Action} {friend : UInt32}
    {index : UInt8} {size : UInt64} {name : Bytes} {before during after : List Moment}
    {offered received : Effect}
    (created : (create options start).outcome = .ok handle)
    (legacy : table? handle (create options start).state = some .empty)
    (run : moments handle actions (create options start).state =
      (before ++ [.noticed (.legacyFileSendRequest friend index size name)]) ++ (during ++ after))
    (begun : follow (before ++ [.noticed (.legacyFileSendRequest friend index size name)]) .empty =
      some offered)
    (happened : follow during offered.table = some received)
    (closed : ∀ moment ∈ during, (moment.turn friend (.unify .receive index)).opens = false) :
    offered.events ++ received.events <+:
        (delivered handle actions (create options start).state).map (·.event) ∧
      (EndsOnce size
          (received.events.filterMap (Event.received? friend (.unify .receive index))) ↔
        ∀ moment ∈ during, moment.data? friend index ≠ some []) := by
  have hsorted := sorted_of_follow begun Keyed.sorted_nil
  have hoffer : offered.table.get? friend (.unify .receive index) =
      some (.offered .receive size) := by
    apply live_of_offered begun Keyed.sorted_nil
    simp [Moment.turn, Notification.turn]
  constructor
  · exact prefix_delivered created legacy run begun happened
  · refine endsOnce_iff_of_follow happened hsorted (fun live hl => ?_) closed
    rw [hoffer] at hl
    cases hl
    rfl

/-- What the caller is given of five bytes that come in two chunks. -/
theorem download_ends_once_after_two_chunks :
    [.fileRecv 4 (.unify .receive 7) 0 5 [97]] ++
        [.fileRecvChunk 4 (.unify .receive 7) 0 [1, 2],
          .fileRecvChunk 4 (.unify .receive 7) 2 [3, 4, 5],
          .fileRecvChunk 4 (.unify .receive 7) 5 [], .friendName 4 [65]] <+:
      (delivered ⟨0, 1⟩ twoChunks (create {} legacyBridge).state).map (·.event) ∧
    EndsOnce 5 [(0, [1, 2]), (2, [3, 4, 5]), (5, [])] := by
  have run : moments ⟨0, 1⟩ twoChunks (create {} legacyBridge).state =
      ([] ++ [.noticed (.legacyFileSendRequest 4 7 5 [97])]) ++
        ([.noticed (.legacyFileData 4 7 [1, 2]), .passed (.ok .done),
          .answered (.fileControl 4 (.unify .receive 7) .pause) (.ok .done),
          .noticed (.legacyFileData 4 7 [3, 4, 5]), .noticed (.friendName 4 [65])] ++
            [.passed (.ok .done)]) := by decide +kernel
  have begun : follow ([] ++ [.noticed (.legacyFileSendRequest 4 7 5 [97])]) .empty =
      some ⟨[.fileRecv 4 (.unify .receive 7) 0 5 [97]], [], offeredTable⟩ := by decide +kernel
  have happened : follow
      [.noticed (.legacyFileData 4 7 [1, 2]), .passed (.ok .done),
        .answered (.fileControl 4 (.unify .receive 7) .pause) (.ok .done),
        .noticed (.legacyFileData 4 7 [3, 4, 5]), .noticed (.friendName 4 [65])] offeredTable =
      some ⟨[.fileRecvChunk 4 (.unify .receive 7) 0 [1, 2],
          .fileRecvChunk 4 (.unify .receive 7) 2 [3, 4, 5],
          .fileRecvChunk 4 (.unify .receive 7) 5 [], .friendName 4 [65]],
        [.legacyFileControl 4 1 7 pauseControl],
        ⟨[], [closing 4 7]⟩⟩ := by decide +kernel
  obtain ⟨hdelivered, hends⟩ :=
    download_end_once_iff create_legacyBridge table?_legacyBridge run begun happened
      (by decide +kernel)
  exact ⟨hdelivered, hends.mpr (by decide +kernel)⟩

/-- The peer offers five bytes and brings none of them first. -/
def emptyFirst : List Action :=
  [passing [.legacyFileSendRequest 4 7 5 [97], .legacyFileData 4 7 [],
    .legacyFileData 4 7 [1, 2, 3, 4, 5]]]

/-- The caller is told that the file has ended before any of it has come, and again at its end. -/
theorem not_download_always_ends_once :
    (delivered ⟨0, 1⟩ emptyFirst (create {} legacyBridge).state).map (·.event) =
        [.fileRecv 4 (.unify .receive 7) 0 5 [97], .fileRecvChunk 4 (.unify .receive 7) 0 [],
          .fileRecvChunk 4 (.unify .receive 7) 0 [1, 2, 3, 4, 5],
          .fileRecvChunk 4 (.unify .receive 7) 5 []] ∧
      ¬ EndsOnce 5
        (((delivered ⟨0, 1⟩ emptyFirst (create {} legacyBridge).state).map (·.event)).filterMap
          (Event.received? 4 (.unify .receive 7))) := by
  have hdelivered : (delivered ⟨0, 1⟩ emptyFirst (create {} legacyBridge).state).map (·.event) =
      [.fileRecv 4 (.unify .receive 7) 0 5 [97], .fileRecvChunk 4 (.unify .receive 7) 0 [],
        .fileRecvChunk 4 (.unify .receive 7) 0 [1, 2, 3, 4, 5],
        .fileRecvChunk 4 (.unify .receive 7) 5 []] := by decide +kernel
  refine ⟨hdelivered, ?_⟩
  rw [hdelivered]
  exact not_endsOnce_cons_empty (.inl (by decide))

end Bridge

end Switchboard
