import Mathlib
import Switchboard.Proofs.Bridge.Moments
import Switchboard.Proofs.Transfer.Told
/-!
# Downloads

A file that the peer sends in chunks, over however many passes and with whatever else goes on, is
given to the caller chunk by chunk at the right positions, its end is told once, and the engine is
told once that it has arrived (`download_reassembled`).
-/

namespace Switchboard

open Transfer

/-- The data that a moment brings for the file with this index. -/
def Moment.data? (friend : UInt32) (index : UInt8) : Moment → Option Bytes
  | .noticed (.legacyFileData other next data) =>
    if other = friend ∧ next = index then some data else none
  | _ => none

namespace Transfer

/-- Chunks with the positions they have if they follow each other from `start`. -/
def positioned (start : Nat) : List Bytes → List (UInt64 × Bytes)
  | [] => []
  | data :: rest => (UInt64.ofNat start, data) :: positioned (start + data.length) rest

/-- How many bytes chunks are together. -/
def total (chunks : List Bytes) : Nat := (chunks.map List.length).sum

theorem total_append (first second : List Bytes) :
    total (first ++ second) = total first + total second := by
  simp only [total, List.map_append, List.sum_append]

theorem total_cons (data : Bytes) (rest : List Bytes) :
    total (data :: rest) = data.length + total rest := rfl

theorem total_singleton (data : Bytes) : total [data] = data.length := Nat.add_zero _

private theorem positioned_append (start : Nat) (first second : List Bytes) :
    positioned start (first ++ second) =
      positioned start first ++ positioned (start + total first) second := by
  induction first generalizing start with
  | nil => rfl
  | cons data rest ih =>
    simp only [List.cons_append, positioned, ih, total, List.map_cons, List.sum_cons, Nat.add_assoc]

/-- A download of which so many bytes have come. -/
structure Receiving (size : UInt64) (got : Nat) (live : Transfer) : Prop where
  direction : live.direction = .receive
  size : live.size = size
  position : live.position.toNat = got

theorem receiving_offered (size : UInt64) : Receiving size 0 (.offered .receive size) :=
  ⟨rfl, rfl, rfl⟩

section Download

variable {friend : UInt32} {index : UInt8} {size : UInt64} {got : Nat} {live : Transfer}
  {table : Table}

/-- The end of a chunk that fits. -/
theorem Receiving.toNat_add (receiving : Receiving size got live) {data : Bytes}
    (hfits : got + data.length ≤ size.toNat) :
    (live.position + UInt64.ofNat data.length).toNat = got + data.length := by
  rw [← receiving.position] at hfits ⊢
  exact Table.toNat_reached hfits

/-- What comes before the end has an effect, and completes nothing. -/
theorem Receiving.more (receiving : Receiving size got live) {data : Bytes}
    (hfits : got + data.length < size.toNat) :
    ¬ live.size < live.position + UInt64.ofNat data.length ∧
      live.position + UInt64.ofNat data.length ≠ live.size := by
  have hadd := receiving.toNat_add (Nat.le_of_lt hfits)
  rw [UInt64.lt_iff_toNat_lt, receiving.size, hadd]
  refine ⟨by omega, fun e => ?_⟩
  rw [← e, hadd] at hfits
  exact Nat.lt_irrefl _ hfits

theorem Receiving.complete (receiving : Receiving size got live) {data : Bytes}
    (hfits : got + data.length = size.toNat) :
    live.position + UInt64.ofNat data.length = live.size := by
  apply UInt64.toNat.inj
  rw [receiving.toNat_add (Nat.le_of_eq hfits), receiving.size, hfits]

private theorem eq_of_data? {moment : Moment} {data : Bytes}
    (h : moment.data? friend index = some data) :
    moment = .noticed (.legacyFileData friend index data) := by
  unfold Moment.data? at h
  split at h
  · split at h
    · rename_i hk
      cases h
      rw [hk.1, hk.2]
    · cases h
  · cases h

/-- That a chunk arrives means that there is data for the file. -/
theorem data?_of_arrived {moment : Moment} {data : Bytes}
    (h : moment.turn friend (.unify .receive index) = .arrived data) :
    moment.data? friend index = some data := by
  have hmeans := means_turn moment friend (.unify .receive index)
  rw [h] at hmeans
  obtain ⟨next, hfile, rfl⟩ := hmeans
  obtain ⟨-, rfl⟩ := FileId.unify_inj.mp hfile
  simp [Moment.data?]

theorem turn_of_data? {moment : Moment} {data : Bytes}
    (h : moment.data? friend index = some data) :
    moment.turn friend (.unify .receive index) = .arrived data := by
  rw [eq_of_data? h]
  simp [Moment.turn, Notification.turn]

private theorem effect_of_data (hl : table.get? friend (.unify .receive index) = some live)
    (receiving : Receiving size got live) {moment : Moment} {data : Bytes}
    (hd : moment.data? friend index = some data) (hfits : got + data.length < size.toNat) :
    ∃ effect, moment.effect table = some effect := by
  obtain ⟨hinside, hmore⟩ := receiving.more hfits
  rw [eq_of_data? hd]
  simp only [Moment.effect, Notification.interpretLegacy, Table.remoteData_of_more hl hinside hmore]
  exact ⟨_, rfl⟩

/-- What a moment before the end makes of a download: the data it brings is added and given to the
caller, and nothing is owed to the engine for it. -/
theorem receiving_step {moment : Moment} {effect : Effect} (h : moment.effect table = some effect)
    (sorted : Keyed.Sorted table.entries)
    (hl : table.get? friend (.unify .receive index) = some live)
    (receiving : Receiving size got live)
    (hends : (moment.turn friend (.unify .receive index)).ends = false)
    (hfits : ∀ data, moment.data? friend index = some data → got + data.length < size.toNat) :
    (∃ after, effect.table.get? friend (.unify .receive index) = some after ∧
        Receiving size (got + total (moment.data? friend index).toList) after) ∧
      effect.events.filterMap (Event.received? friend (.unify .receive index)) =
        positioned got (moment.data? friend index).toList ∧
      effect.calls.count (closing friend index).call + effect.table.closingsOwed friend index =
        table.closingsOwed friend index := by
  have course := course_of_effect h sorted friend (.unify .receive index)
  have hclosings := closings_of_effect h friend index
  have hpossible := course.possible
  have hnext := course.next
  have hreceived := course.received
  rw [hl] at hpossible hnext hreceived hclosings
  have hnone : (∀ data, moment.turn friend (.unify .receive index) ≠ .arrived data) →
      moment.data? friend index = none := by
    intro hturn
    cases hd : moment.data? friend index with
    | none => rfl
    | some data => exact absurd (turn_of_data? hd) (hturn data)
  have hposition : live.position.toNat = got := receiving.position
  cases hturn : moment.turn friend (.unify .receive index) with
  | untouched =>
    rw [hturn] at hnext hreceived hclosings
    rw [hnone (by simp [hturn])]
    exact ⟨⟨live, hnext, receiving⟩, hreceived, hclosings⟩
  | offered direction declared =>
    rw [hturn] at hpossible
    exact absurd hpossible (Turn.not_possible_offered _ _ _)
  | controlled control =>
    rw [hturn] at hnext hreceived hclosings hends
    rw [hnone (by simp [hturn])]
    cases control with
    | resume =>
      exact ⟨⟨_, hnext, receiving.direction, receiving.size, hposition⟩, hreceived, hclosings⟩
    | pause =>
      exact ⟨⟨_, hnext, receiving.direction, receiving.size, hposition⟩, hreceived, hclosings⟩
    | cancel => cases hends
  | finished =>
    rw [hturn] at hends
    cases hends
  | arrived data =>
    have hd := data?_of_arrived hturn
    obtain ⟨-, hmore⟩ := receiving.more (hfits data hd)
    have hadd := receiving.toNat_add (Nat.le_of_lt (hfits data hd))
    have hstart : live.position = UInt64.ofNat got := by
      rw [← hposition, UInt64.ofNat_toNat]
    rw [hturn] at hnext hreceived hclosings
    simp only [Turn.next, Turn.received, Turn.closings, hmore, if_false]
      at hnext hreceived hclosings
    rw [hd]
    refine ⟨⟨_, hnext, receiving.direction, receiving.size, hadd⟩, ?_, hclosings⟩
    rw [hreceived, hstart]
    rfl
  | sent position data =>
    rw [hturn] at hpossible
    exact absurd hpossible (Turn.not_possible_sent _ _ _)
  | passed =>
    rw [hturn] at hnext hreceived hclosings
    have hasked : Table.asked live = live := by
      simp [Table.asked, Table.needsRequest, receiving.direction]
    rw [Turn.next, hasked] at hnext
    rw [hnone (by simp [hturn])]
    exact ⟨⟨live, hnext, receiving⟩, hreceived, hclosings⟩

/-- What all moments before the end make of it. -/
theorem receiving_follow {moments : List Moment} (sorted : Keyed.Sorted table.entries)
    (hl : table.get? friend (.unify .receive index) = some live)
    (receiving : Receiving size got live)
    (hends : ∀ moment ∈ moments, (moment.turn friend (.unify .receive index)).ends = false)
    (hfits : got + total (moments.filterMap (·.data? friend index)) < size.toNat)
    (orderly : Along (fun table moment =>
      (moment.data? friend index).isSome = true ∨ moment.Peaceful table) moments table) :
    ∃ effect, follow moments table = some effect ∧
      (∃ after, effect.table.get? friend (.unify .receive index) = some after ∧
        Receiving size (got + total (moments.filterMap (·.data? friend index))) after) ∧
      effect.events.filterMap (Event.received? friend (.unify .receive index)) =
        positioned got (moments.filterMap (·.data? friend index)) ∧
      effect.calls.count (closing friend index).call + effect.table.closingsOwed friend index =
        table.closingsOwed friend index := by
  induction moments generalizing table live got with
  | nil => exact ⟨.still table, rfl, ⟨live, hl, receiving⟩, rfl, Nat.zero_add _⟩
  | cons moment rest ih =>
    obtain ⟨hmoment, hrest⟩ := orderly
    have hsplit : (moment :: rest).filterMap (·.data? friend index) =
        (moment.data? friend index).toList ++ rest.filterMap (·.data? friend index) := by
      rw [List.filterMap_cons]
      cases moment.data? friend index <;> rfl
    rw [hsplit, total_append] at hfits
    have hhere : ∀ data, moment.data? friend index = some data →
        got + data.length < size.toNat := by
      intro data hd
      rw [hd, Option.toList_some, total_singleton] at hfits
      omega
    obtain ⟨effect, he⟩ : ∃ effect, moment.effect table = some effect := by
      rcases hmoment with hd | hpeaceful
      · obtain ⟨data, hd⟩ := Option.isSome_iff_exists.mp hd
        exact effect_of_data hl receiving hd (hhere data hd)
      · exact Option.isSome_iff_exists.mp hpeaceful
    obtain ⟨⟨between, hbetween, hgot⟩, hevents, hclosings⟩ :=
      receiving_step he sorted hl receiving (hends moment List.mem_cons_self) hhere
    have hsorted := (course_of_effect he sorted friend (.unify .receive index)).sorted
    obtain ⟨more, hm, hafter, hevents', hclosings'⟩ := ih hsorted hbetween hgot
      (fun later hlater => hends later (List.mem_cons_of_mem _ hlater)) (by omega) (hrest effect he)
    refine ⟨effect.append more, ?_, ?_, ?_, ?_⟩
    · rw [follow_cons_of_effect he, hm]
      rfl
    · rw [hsplit, total_append, ← Nat.add_assoc]
      exact hafter
    · rw [hsplit, positioned_append, Effect.events_append, List.filterMap_append, hevents, hevents']
    · rw [Effect.calls_append, Effect.table_append, List.count_append]
      omega

/-! ### The last chunk -/

/-- What has become of a download when its last chunk has come. -/
structure Arrived (friend : UInt32) (index : UInt8) (size : UInt64) (chunks : List Bytes)
    (offered : Table) (arrived : Effect) : Prop where
  received : arrived.events.filterMap (Event.received? friend (.unify .receive index)) =
    positioned 0 chunks ++ [(size, [])]
  gone : arrived.table.get? friend (.unify .receive index) = none
  /-- What was told and what still waits is one more than waited at the offer, for this download, -/
  once : arrived.calls.count (closing friend index).call + arrived.table.closingsOwed friend index =
    offered.closingsOwed friend index + 1
  /-- which still waits. -/
  waits : ∃ queue, arrived.table.outbound = queue ++ [closing friend index]

private theorem effect_of_last (hl : table.get? friend (.unify .receive index) = some live)
    (receiving : Receiving size got live) {data : Bytes} (hfits : got + data.length = size.toNat) :
    ∃ effect, (Moment.noticed (.legacyFileData friend index data)).effect table = some effect ∧
      effect.table.get? friend (.unify .receive index) = none ∧
      effect.events.filterMap (Event.received? friend (.unify .receive index)) =
        [(UInt64.ofNat got, data), (size, [])] ∧
      effect.calls = [] ∧ effect.table.outbound = table.outbound ++ [closing friend index] := by
  have hcomplete := receiving.complete hfits
  have hstart : UInt64.ofNat got = live.position := by
    rw [← receiving.position, UInt64.ofNat_toNat]
  simp only [Moment.effect, Notification.interpretLegacy,
    Table.remoteData_of_complete hl hcomplete]
  refine ⟨_, rfl, ?_, ?_, rfl, rfl⟩
  · have hget := Table.get?_erase friend friend (.unify .receive index)
      (.unify .receive index) table
    rw [if_pos ⟨rfl, rfl⟩] at hget
    exact hget
  · simp [Event.received?, hstart, receiving.size]

/-- A download arrives with its last chunk. -/
theorem arrived_follow {moments : List Moment} {last : Bytes}
    (sorted : Keyed.Sorted table.entries)
    (hl : table.get? friend (.unify .receive index) = some (.offered .receive size))
    (nonempty : last ≠ [])
    (whole : total (moments.filterMap (·.data? friend index) ++ [last]) = size.toNat)
    (kept : ∀ moment ∈ moments, (moment.turn friend (.unify .receive index)).ends = false)
    (orderly : Along (fun table moment =>
      (moment.data? friend index).isSome = true ∨ moment.Peaceful table) moments table) :
    ∃ arrived,
      follow (moments ++ [.noticed (.legacyFileData friend index last)]) table = some arrived ∧
      Arrived friend index size (moments.filterMap (·.data? friend index) ++ [last]) table
        arrived := by
  have hlast : 0 < last.length := List.length_pos_iff.mpr nonempty
  rw [total_append, total_singleton] at whole
  obtain ⟨effect, he, ⟨between, hbetween, receiving⟩, hevents, hclosings⟩ :=
    receiving_follow sorted hl (receiving_offered size) kept (by omega) orderly
  rw [Nat.zero_add] at receiving
  obtain ⟨final, hf, hgone, hreceived, hcalls, hwaits⟩ :=
    effect_of_last hbetween receiving whole
  refine ⟨effect.append final, ?_, ?_, hgone, ?_, effect.table.outbound, hwaits⟩
  · rw [follow_append, he, Option.bind_some, follow_singleton, hf, Option.map_some]
  · rw [Effect.events_append, List.filterMap_append, hevents, hreceived, positioned_append,
      Nat.zero_add, List.append_assoc]
    rfl
  · have howed : final.table.closingsOwed friend index =
        effect.table.closingsOwed friend index + 1 := by
      rw [Table.closingsOwed, hwaits, List.map_append, List.count_append]
      simp [Table.closingsOwed]
    rw [Effect.calls_append, Effect.table_append, hcalls, List.append_nil]
    omega

/-! ### The end of the pass -/

/-- What has become of it when the pass has ended that the last chunk came in, after these
notifications. -/
structure Closed (friend : UInt32) (index : UInt8) (rest : List Notification)
    (arrived closed : Effect) : Prop where
  /-- The engine is told all that waits, so also of this file, -/
  told : ∃ more, closed.calls = (arrived.table.outbound ++ more).map Outbound.call
  settled : closed.table.outbound = []
  /-- and nothing else about the file, unless another is offered in its place. -/
  alone : (∀ notification ∈ rest,
      (notification.turn friend (.unify .receive index)).opens = false) →
    closed.calls.count (closing friend index).call = arrived.table.closingsOwed friend index ∧
      closed.events.filterMap (Event.received? friend (.unify .receive index)) = [] ∧
      closed.table.get? friend (.unify .receive index) = none

private theorem closed_follow {rest : List Notification} {outcome : Outcome CallError Reply}
    {arrived closed : Effect} (sorted : Keyed.Sorted arrived.table.entries)
    (gone : arrived.table.get? friend (.unify .receive index) = none)
    (h : follow (rest.map .noticed ++ [.passed outcome]) arrived.table = some closed) :
    Closed friend index rest arrived closed := by
  obtain ⟨hsettled, htold⟩ := told_of_pass h
  refine ⟨htold, hsettled, fun hrest => ?_⟩
  have hopens : ∀ moment ∈ rest.map Moment.noticed ++ [.passed outcome],
      (moment.turn friend (.unify .receive index)).opens = false := by
    intro moment hm
    rcases List.mem_append.mp hm with hm | hm
    · obtain ⟨notification, hn, rfl⟩ := List.mem_map.mp hm
      exact hrest notification hn
    · rw [List.mem_singleton.mp hm]
      cases outcome <;> rfl
  have hcount := closings_of_absent h sorted gone hopens
  obtain ⟨hgone, hreceived, -⟩ := absent_of_follow h sorted gone hopens
  have hnone : closed.table.closingsOwed friend index = 0 := by
    rw [Table.closingsOwed, hsettled]
    rfl
  exact ⟨by omega, hreceived, hgone⟩

end Download

end Transfer

namespace Bridge

open Transfer

/-- A file that is offered and comes in chunks, in whatever passes and with whatever goes on
between them, is given to the caller chunk by chunk, each at its position, and then its end. It is
gone with the last chunk, and in the pass of that chunk the engine is told, once, that the file has
arrived. What else happens must not disable the session or break its lock, nor cancel or finish the
transfer; only the last chunk has to hold something. -/
theorem download_reassembled {φ ε : Type} [Engine ε] [Factory φ ε] {options : EngineOptions}
    {start : Bridge φ (Recorded ε)} {handle : Handle} {actions : List Action} {friend : UInt32}
    {index : UInt8} {size : UInt64} {name last : Bytes} {before during : List Moment}
    {rest : List Notification} {outcome : Outcome CallError Reply} {offered : Effect}
    (created : (create options start).outcome = .ok handle)
    (legacy : table? handle (create options start).state = some .empty)
    (run : moments handle actions (create options start).state =
      (before ++ [.noticed (.legacyFileSendRequest friend index size name)]) ++
        ((during ++ [.noticed (.legacyFileData friend index last)]) ++
          (rest.map .noticed ++ [.passed outcome])))
    (begun : follow (before ++ [.noticed (.legacyFileSendRequest friend index size name)]) .empty =
      some offered)
    (nonempty : last ≠ [])
    (whole : total (during.filterMap (·.data? friend index) ++ [last]) = size.toNat)
    (kept : ∀ moment ∈ during, (moment.turn friend (.unify .receive index)).ends = false)
    (orderly : Along (fun table moment =>
      (moment.data? friend index).isSome = true ∨ moment.Peaceful table) during offered.table)
    (ending : ∀ arrived,
      follow (during ++ [.noticed (.legacyFileData friend index last)]) offered.table =
        some arrived →
      Along Moment.Peaceful (rest.map .noticed ++ [.passed outcome]) arrived.table) :
    ∃ arrived closed,
      follow (during ++ [.noticed (.legacyFileData friend index last)]) offered.table =
        some arrived ∧
      follow (rest.map .noticed ++ [.passed outcome]) arrived.table = some closed ∧
      Arrived friend index size (during.filterMap (·.data? friend index) ++ [last]) offered.table
        arrived ∧
      Closed friend index rest arrived closed ∧
      Shown handle actions (create options start).state
        (offered.append (arrived.append closed)) := by
  have hempty : Keyed.Sorted Table.empty.entries := Keyed.sorted_nil
  have hsorted := sorted_of_follow begun hempty
  have hoffer : offered.table.get? friend (.unify .receive index) =
      some (.offered .receive size) := by
    apply live_of_offered begun hempty
    simp [Moment.turn, Notification.turn]
  obtain ⟨arrived, ha, harrived⟩ := arrived_follow hsorted hoffer nonempty whole kept orderly
  obtain ⟨closed, hc⟩ := exists_follow_of_peaceful (ending arrived ha)
  refine ⟨arrived, closed, ha, hc, harrived,
    closed_follow (sorted_of_follow ha hsorted) harrived.gone hc, ?_⟩
  apply run_of_follow created legacy
  rw [run, follow_append, begun, Option.bind_some, follow_append, ha, Option.bind_some, hc]
  rfl

def offeredTable : Table := ⟨[(⟨4, .unify .receive 7⟩, .offered .receive 5)], []⟩

/-- Five bytes in two chunks, with a pause by the caller and news of the friend. -/
def twoChunks : List Action :=
  [passing [.legacyFileSendRequest 4 7 5 [97], .legacyFileData 4 7 [1, 2]],
    .request .epoch (.fileControl 4 (.unify .receive 7) .pause), .drain,
    passing [.legacyFileData 4 7 [3, 4, 5], .friendName 4 [65]]]

theorem download_of_two_chunks :
    ∃ arrived closed,
      Arrived 4 7 5 [[1, 2], [3, 4, 5]] offeredTable arrived ∧
      Closed 4 7 [.friendName 4 [65]] arrived closed ∧
      Shown ⟨0, 1⟩ twoChunks (create {} legacyBridge).state
        (Effect.append ⟨[.fileRecv 4 (.unify .receive 7) 0 5 [97]], [], offeredTable⟩
          (arrived.append closed)) := by
  have created : (create {} legacyBridge).outcome = .ok ⟨0, 1⟩ := by decide +kernel
  have legacy : table? ⟨0, 1⟩ (create {} legacyBridge).state = some .empty := by decide +kernel
  have run : moments ⟨0, 1⟩ twoChunks (create {} legacyBridge).state =
      ([] ++ [.noticed (.legacyFileSendRequest 4 7 5 [97])]) ++
        (([.noticed (.legacyFileData 4 7 [1, 2]), .passed (.ok .done),
            .answered (.fileControl 4 (.unify .receive 7) .pause) (.ok .done)] ++
              [.noticed (.legacyFileData 4 7 [3, 4, 5])]) ++
          ([.friendName 4 [65]].map .noticed ++ [.passed (.ok .done)])) := by decide +kernel
  have begun : follow ([] ++ [.noticed (.legacyFileSendRequest 4 7 5 [97])]) .empty =
      some ⟨[.fileRecv 4 (.unify .receive 7) 0 5 [97]], [], offeredTable⟩ := by decide +kernel
  have hending : (follow
      ([.noticed (.legacyFileData 4 7 [1, 2]), .passed (.ok .done),
          .answered (.fileControl 4 (.unify .receive 7) .pause) (.ok .done)] ++
        [.noticed (.legacyFileData 4 7 [3, 4, 5])]) offeredTable).all
      (fun arrived => decide (Along Moment.Peaceful
        ([.friendName 4 [65]].map .noticed ++ [.passed (.ok .done)]) arrived.table)) = true := by
    decide +kernel
  obtain ⟨arrived, closed, -, -, harrived, hclosed, hshown⟩ :=
    download_reassembled created legacy run begun (by decide) (by decide +kernel)
      (by decide +kernel) (by decide +kernel) fun arrived h => by
        rw [h] at hending
        exact of_decide_eq_true hending
  exact ⟨arrived, closed, harrived, hclosed, hshown⟩

end Bridge

end Switchboard
