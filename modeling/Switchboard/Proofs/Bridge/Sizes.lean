import Switchboard.Proofs.Bridge.Accomplished
import Switchboard.Proofs.Bridge.Download
import Switchboard.Proofs.Bridge.Passes
import Switchboard.Proofs.Session.Pass
import Switchboard.Proofs.Session.Refusals
import Switchboard.Proofs.Transfer.Sizes
/-!
# Sizes in a run

In every run, as long as the position after a chunk is a number of 64 bits, data and chunks are
refused for their length exactly if they go beyond the size (`size_checks_exact`). Uploads that are
paused are not compared with their size, and sums that are no numbers of 64 bits are compared with
what is left of them (`not_size_checks_always_exact`).
-/

namespace Switchboard

open Transfer

variable {φ ε : Type} [Engine ε]

namespace HeldSession

variable {friend : UInt32} {index : UInt8} {table : Table} {live : Transfer} {data : Bytes}

/-- An undocumented code is another violation. -/
theorem Settled.not_overrun {α : Type} {value : α} {now : Timestamp} {reached core : Session.Core}
    {engine : ε} {outcome : Outcome CallError α} (h : Settled value now reached engine outcome core)
    (friend : UInt32) (file : FileId) (position length size : UInt64) :
    outcome ≠
      .error (.bridge (.contract (.transferOverrun friend file position length size))) := by
  cases h <;> exact fun h => nomatch h

/-- A pass that takes in nothing but data disables the session for its length exactly if the data
goes beyond the size. -/
theorem overrun_iff (now : Timestamp) {held : HeldSession ε} (ht : held.transfers = some table)
    (hl : table.get? friend (.unify .receive index) = some live)
    (countable : live.Countable data.length) :
    (Request.perform now (.invoke ⟨[.legacyFileData friend index data], false⟩) held).outcome =
        .error (.bridge (.contract (.transferOverrun friend (.unify .receive index) live.position
          (UInt64.ofNat data.length) live.size))) ↔ live.Exceeds data.length := by
  have exact := Table.exactData_of_countable hl countable
  rw [(Session.perform_of_fires now (.invoke [.legacyFileData friend index data]) held.toCore).1]
  by_cases h : live.Exceeds data.length
  · have hviolates := Notification.remoteData_error_iff.mp (exact.refused_iff.mpr h)
    have hdispatch := (dispatch_of_violates now held (.nil _) (ht ▸ hviolates) []).1
    refine iff_of_true ?_ h
    simp only [List.nil_append] at hdispatch
    simp only [Run.andThen, hdispatch]
  · obtain ⟨events, after, hran⟩ := exact.taken_iff.mpr h
    have hi : Notification.interpret (.legacyFileData friend index data) held.transfers =
        .ok (events, some after) := by
      rw [ht, Notification.interpret, Notification.interpretLegacy, hran]
      rfl
    have settled := (dispatch_of_translated now held (.cons hi (.nil _))).andThen Reply.done
    exact iff_of_false (settled.not_overrun _ _ _ _ _) h

/-- The next chunk of a running upload is refused for its length without a call exactly if it goes
beyond the size. -/
theorem chunkLength_iff (now : Timestamp) {held : HeldSession (Recorded ε)}
    (ht : held.transfers = some table) (hl : table.get? friend (.unify .send index) = some live)
    (running : live.progress = .running) (short : data.length ≤ 1371)
    (countable : live.Countable data.length) :
    ((Request.perform now (.fileSendChunk friend (.unify .send index) live.position data)
          held).outcome = .error (.failed ⟨.fileSendChunk, .chunkLength⟩) ∧
        (Request.perform now (.fileSendChunk friend (.unify .send index) live.position data)
          held).state.engine.calls = held.engine.calls) ↔ live.Exceeds data.length := by
  refine (uncalled_iff_refused now (by simp) (by simp) held ⟨.fileSendChunk, .chunkLength⟩).trans ?_
  rw [ht, ← countable.size_lt_iff]
  constructor
  · intro refused
    cases refused with
    | chunkTooLong htable hsplit hlive _ _ htoo =>
      cases htable
      cases hl.symm.trans hlive
      exact htoo.resolve_left (Table.not_maxChunk_lt short)
  · intro ho
    exact .chunkTooLong rfl (FileId.split_unify .send index) hl running rfl (.inr ho)

end HeldSession

namespace Bridge

variable {handle : Handle}

/-- What a session with this table answers to data and to chunks, by their length. -/
structure SizesTold (handle : Handle) (table : Table) (bridge : Bridge φ (Recorded ε)) : Prop where
  data : ∀ now friend index live data, table.get? friend (.unify .receive index) = some live →
    live.Countable data.length →
    ((Bridge.request now handle (.invoke ⟨[.legacyFileData friend index data], false⟩)
        bridge).outcome =
      .error (.bridge (.contract (.transferOverrun friend (.unify .receive index) live.position
        (UInt64.ofNat data.length) live.size))) ↔ live.Exceeds data.length)
  chunk : ∀ now friend index live data, table.get? friend (.unify .send index) = some live →
    live.progress = .running → data.length ≤ 1371 → live.Countable data.length →
    let ran := Bridge.request now handle
      (.fileSendChunk friend (.unify .send index) live.position data) bridge
    (ran.outcome = .error (.failed ⟨.fileSendChunk, .chunkLength⟩) ∧
        (engine? handle ran.state).map (·.calls) = (engine? handle bridge).map (·.calls)) ↔
      live.Exceeds data.length

theorem sizesTold_of_usable {bridge : Bridge φ (Recorded ε)} {held : HeldSession (Recorded ε)}
    (usable : bridge.registry.Usable handle held) {table : Table}
    (ht : table? handle bridge = some table) : SizesTold handle table bridge := by
  have hheld := transfers_of_usable usable ht
  constructor
  · intro now friend index live data hl countable
    rw [(request_of_usable usable now _).1]
    exact HeldSession.overrun_iff now hheld hl countable
  · intro now friend index live data hl running short countable ran
    obtain ⟨hout, -, broken, -, hoccupant⟩ := request_of_usable usable now
      (.fileSendChunk friend (.unify .send index) live.position data)
    rw [← HeldSession.chunkLength_iff now hheld hl running short countable]
    simp only [ran, engine?, hout, hoccupant, usable.occupant, Option.bind_some, Option.map_some,
      Option.some.injEq]

/-- In every run and at each of its moments, as long as the position after it is a number of 64
bits, data is refused exactly if it goes beyond the size, and so is the next chunk of a running
upload that is not too long to be sent; what is taken moves the transfer on by its length. -/
theorem size_checks_exact [Factory φ ε] {options : EngineOptions}
    {start : Bridge φ (Recorded ε)} (created : (create options start).outcome = .ok handle)
    (legacy : table? handle (create options start).state = some .empty) (actions : List Action) :
    let reached := (serve handle actions (create options start).state).bridge
    (∀ happened rest effect, moments handle actions (create options start).state =
        happened ++ rest → follow happened .empty = some effect → effect.table.ExactSizes) ∧
    ∀ table, table? handle reached = some table → table.ExactSizes ∧
      ∀ held, reached.registry.Usable handle held → SizesTold handle table reached := by
  constructor
  · intro happened rest effect _ hfollow
    exact (sound_of_follow hfollow Table.sound_empty).exactSizes
  · intro table ht
    obtain ⟨happened, rest, effect, -, hfollow, -, hentries⟩ :=
      follow_of_run created legacy actions ht
    have hsound := (sound_of_follow hfollow Table.sound_empty).of_entries hentries
    exact ⟨hsound.exactSizes, fun held usable => sizesTold_of_usable usable ht⟩

def underway : List Action :=
  [.request .epoch (.friendAddNorequest friendKey), .request .epoch (.fileSend 0 0 5 [97]),
    passing [.legacyFileControl 0 notifiedSending 0 acceptControl,
      .legacyFileSendRequest 4 7 7 [98], .legacyFileData 4 7 [1, 2]]]

def underwayTable : Table :=
  ⟨[(⟨0, .unify .send 0⟩, ⟨.send, .running, 0, 5, true⟩),
    (⟨4, .unify .receive 7⟩, ⟨.receive, .running, 2, 7, false⟩)], []⟩

/-- Six bytes are too many for both of them. -/
theorem six_bytes_refused :
    let before := (serve ⟨0, 1⟩ underway (create {} legacyBridge).state).bridge
    underwayTable.ExactSizes ∧
      (Bridge.request .epoch ⟨0, 1⟩ (.fileSendChunk 0 (.unify .send 0) 0 [1, 2, 3, 4, 5, 6])
        before).outcome = .error (.failed ⟨.fileSendChunk, .chunkLength⟩) ∧
      (Bridge.request .epoch ⟨0, 1⟩ (.invoke ⟨[.legacyFileData 4 7 [1, 2, 3, 4, 5, 6]], false⟩)
        before).outcome =
          .error (.bridge (.contract (.transferOverrun 4 (.unify .receive 7) 2 6 7))) := by
  intro before
  have ht : table? ⟨0, 1⟩ before = some underwayTable := by decide +kernel
  have hsend : underwayTable.get? 0 (.unify .send 0) = some ⟨.send, .running, 0, 5, true⟩ := by
    decide +kernel
  have hreceive : underwayTable.get? 4 (.unify .receive 7) =
      some ⟨.receive, .running, 2, 7, false⟩ := by decide +kernel
  have succeeded : (Bridge.request .epoch ⟨0, 1⟩ .iterate before).outcome = .ok .done := by
    decide +kernel
  obtain ⟨held, usable, -⟩ := usable_of_ok succeeded
  obtain ⟨-, hreached⟩ := size_checks_exact create_legacyBridge table?_legacyBridge underway
  obtain ⟨hexact, htold⟩ := hreached underwayTable ht
  obtain ⟨hdata, hchunk⟩ := htold held usable
  refine ⟨hexact, ?_, ?_⟩
  · have hiff := hchunk .epoch 0 0 _ [1, 2, 3, 4, 5, 6] hsend rfl (by decide)
      (hexact.countable _ _ _ _ hsend (by decide))
    exact (hiff.mpr (show 5 < 0 + 6 by decide)).1
  · have hiff := hdata .epoch 4 7 _ [1, 2, 3, 4, 5, 6] hreceive
      (hexact.countable _ _ _ _ hreceive (by decide))
    exact hiff.mpr (show 7 < 2 + 6 by decide)

def fourOffered : List Action :=
  [.request .epoch (.friendAddNorequest friendKey), .request .epoch (.fileSend 0 0 4 [97])]

/-- The largest size that can be declared. -/
def largest : UInt64 := 0xFFFFFFFFFFFFFFFF

/-- The peer offers a file of the largest size, and sends these bytes of it twice. -/
def sentTwice (half : Bytes) : List Notification :=
  [.legacyFileSendRequest 4 7 largest [97], .legacyFileData 4 7 half, .legacyFileData 4 7 half]

private theorem moments_of_passing (notifications : List Notification) :
    ∃ rest, moments ⟨0, 1⟩ [passing notifications] (create {} legacyBridge).state =
      notifications.map .noticed ++ rest := by
  have hengine : (engine? ⟨0, 1⟩ (create {} legacyBridge).state).isSome = true := by
    decide +kernel
  obtain ⟨engine, he⟩ := Option.isSome_iff_exists.mp hengine
  simp only [moments, passing, he, Option.map_some, Option.getD_some, List.append_nil]
  exact ⟨_, moments_of_fires (.invoke notifications) _⟩

/-- Two times `2 ^ 63 - 1` bytes leave one byte of the file. -/
theorem receiving_sentTwice {half : Bytes} (hhalf : half.length = 2 ^ 63 - 1) :
    ∃ effect live, follow ((sentTwice half).map .noticed) .empty = some effect ∧
      effect.table.get? 4 (.unify .receive 7) = some live ∧
      Receiving largest (2 ^ 64 - 2) live := by
  let offered : Table := Table.empty.put 4 (.unify .receive 7) (.offered .receive largest)
  let arrival : Moment := .noticed (.legacyFileData 4 7 half)
  have hoffer : (Moment.noticed (.legacyFileSendRequest 4 7 largest [97])).effect .empty =
      some ⟨[.fileRecv 4 (.unify .receive 7) 0 largest [97]], [], offered⟩ := rfl
  have hl : offered.get? 4 (.unify .receive 7) = some (.offered .receive largest) := by
    rw [Table.get?_put, if_pos ⟨rfl, rfl⟩]
  have hdata : arrival.data? 4 7 = some half := by simp [arrival, Moment.data?]
  have htotal : total ([arrival, arrival].filterMap (·.data? 4 7)) = 2 ^ 64 - 2 := by
    rw [List.filterMap_cons, List.filterMap_cons, hdata, List.filterMap_nil, total_cons,
      total_singleton, hhalf]
    norm_num
  have hends : ∀ moment ∈ [arrival, arrival],
      (moment.turn 4 (.unify .receive 7)).ends = false := by
    intro moment hm
    obtain rfl : moment = arrival := by simpa using hm
    rw [turn_of_data? hdata]
    rfl
  have horderly : Along (fun table moment =>
      (moment.data? 4 7).isSome = true ∨ moment.Peaceful table) [arrival, arrival] offered := by
    have hsome : (arrival.data? 4 7).isSome = true := by
      rw [hdata]
      rfl
    exact ⟨.inl hsome, fun _ _ => ⟨.inl hsome, fun _ _ => trivial⟩⟩
  obtain ⟨effect, hfollow, ⟨live, hlive, receiving⟩, -⟩ :=
    receiving_follow (Keyed.sorted_nil.put _ _) hl (receiving_offered _) hends
      (by rw [htotal]; decide) horderly
  rw [htotal, Nat.zero_add] at receiving
  refine ⟨Effect.append ⟨[.fileRecv 4 (.unify .receive 7) 0 largest [97]], [], offered⟩ effect,
    live, ?_, hlive, receiving⟩
  refine (follow_cons_of_effect hoffer [arrival, arrival]).trans ?_
  rw [hfollow, Option.map_some]

/-- A chunk of five bytes is not refused for its length while the upload of four bytes is paused,
and two bytes are taken of which only one is left, since their sum with the position is zero. -/
theorem not_size_checks_always_exact :
    (¬ ∀ actions table friend index live data,
      let reached := (serve ⟨0, 1⟩ actions (create {} legacyBridge).state).bridge
      table? ⟨0, 1⟩ reached = some table →
      table.get? friend (.unify .send index) = some live → data.length ≤ 1371 →
      ((Bridge.request .epoch ⟨0, 1⟩
          (.fileSendChunk friend (.unify .send index) live.position data) reached).outcome =
        .error (.failed ⟨.fileSendChunk, .chunkLength⟩) ↔ live.Exceeds data.length)) ∧
    ¬ ∀ actions happened rest effect friend index live data,
      moments ⟨0, 1⟩ actions (create {} legacyBridge).state = happened ++ rest →
      follow happened .empty = some effect →
      effect.table.get? friend (.unify .receive index) = some live →
      data.length ≤ 2 ^ 63 - 1 →
      (effect.table.remoteData friend index data =
        .error (.transferOverrun friend (.unify .receive index) live.position
          (UInt64.ofNat data.length) live.size) ↔ live.Exceeds data.length) := by
  constructor
  · intro exact
    have ht : table? ⟨0, 1⟩ (serve ⟨0, 1⟩ fourOffered (create {} legacyBridge).state).bridge =
        some ⟨[(⟨0, .unify .send 0⟩, .offered .send 4)], []⟩ := by decide +kernel
    have paused : (Bridge.request .epoch ⟨0, 1⟩
        (.fileSendChunk 0 (.unify .send 0) 0 [1, 2, 3, 4, 5])
        (serve ⟨0, 1⟩ fourOffered (create {} legacyBridge).state).bridge).outcome =
          .error (.failed ⟨.fileSendChunk, .transferNotRunning⟩) := by decide +kernel
    have hiff := exact fourOffered _ 0 0 (.offered .send 4) [1, 2, 3, 4, 5] ht (by decide +kernel)
      (by decide)
    have hrefused := hiff.mpr (show 4 < 0 + 5 by decide)
    cases paused.symm.trans hrefused
  · intro exact
    obtain ⟨half, hhalf⟩ : ∃ half : Bytes, half.length = 2 ^ 63 - 1 :=
      ⟨List.replicate (2 ^ 63 - 1) 0, List.length_replicate⟩
    obtain ⟨rest, hsplit⟩ := moments_of_passing (sentTwice half)
    obtain ⟨effect, live, hfollow, hl, receiving⟩ := receiving_sentTwice hhalf
    have hposition : live.position = 18446744073709551614 :=
      UInt64.toNat.inj (receiving.position.trans (by decide))
    have hsize : live.size = largest := receiving.size
    have hsum : live.position + UInt64.ofNat 2 = 0 := by
      rw [hposition]
      decide
    have hexceeds : live.Exceeds 2 := by
      unfold Exceeds
      rw [hposition, hsize]
      decide
    have hrefused := (exact [passing (sentTwice half)] _ rest effect 4 7 live [1, 2] hsplit hfollow
      hl (by decide)).mpr hexceeds
    have hinside : ¬ live.size < live.position + UInt64.ofNat 2 := by
      rw [hsum, hsize]
      decide
    have hmore : live.position + UInt64.ofNat 2 ≠ live.size := by
      rw [hsum, hsize]
      decide
    have hran : effect.table.remoteData 4 7 [1, 2] = .ok _ :=
      Table.remoteData_of_more hl hinside hmore
    cases hran.symm.trans hrefused

end Bridge

end Switchboard
