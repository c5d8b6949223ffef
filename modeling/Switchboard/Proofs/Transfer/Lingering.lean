import Switchboard.Proofs.Bridge.Contiguous
import Switchboard.Proofs.Session.Closing
/-!
# Downloads that stay

Only data closes a download. So one that is live has bytes to come unless it was offered with none
(`Sound.lingers_iff`), and every one that data completes is closed: the caller is given its end, and
the engine is told (`closed_of_pass`).
-/

namespace Switchboard

namespace Transfer

variable {table : Table} {effect : Effect} {friend : UInt32} {file : FileId}

/-- A live download has bytes to come exactly if it was not offered empty. -/
theorem Sound.lingers_iff {live : Transfer} (sound : Sound file live)
    (incoming : live.direction = .receive) : live.position < live.size ↔ live.size ≠ 0 := by
  constructor
  · intro hlt hzero
    rw [hzero] at hlt
    exact absurd (UInt64.lt_iff_toNat_lt.mp hlt) (Nat.not_lt_zero _)
  · intro hsize
    rcases UInt64.lt_or_eq_of_le sound.position_le with hlt | heq
    · exact hlt
    · exact absurd (sound.incoming incoming heq) hsize

/-- A download that is live was offered by the peer, with this size, and not offered anew since. -/
theorem exists_peer_offer {moments : List Moment} {live : Transfer}
    (h : follow moments .empty = some effect) (hl : effect.table.get? friend file = some live)
    (incoming : live.direction = .receive) :
    ∃ index before name during, file = .unify .receive index ∧
      moments =
        before ++ .noticed (.legacyFileSendRequest friend index live.size name) :: during ∧
      ∀ moment ∈ during, (moment.turn friend file).opens = false := by
  obtain ⟨index, hfile⟩ := ((sound_of_follow h Table.sound_empty).get? friend file live hl).split
  obtain rfl : file = .unify .receive index := incoming ▸ FileId.eq_unify_of_split hfile
  obtain ⟨before, opening, during, rfl, hopens, hclosed⟩ :=
    exists_opening h Keyed.sorted_nil rfl hl
  rw [List.append_cons, follow_append, Option.bind_eq_some_iff] at h
  obtain ⟨reached, hreached, hmore⟩ := h
  obtain ⟨more, hduring, rfl⟩ := Option.map_eq_some_iff.mp hmore
  have hsound := sound_of_follow hreached Table.sound_empty
  obtain ⟨first, last, hfirst, hlast, -⟩ := split_of_last hreached
  have hpossible := (course_of_effect hlast (sound_of_follow hfirst Table.sound_empty).sorted friend
    (.unify .receive index)).possible
  have htouches := touches_turn opening friend (.unify .receive index)
  generalize hturn : opening.turn friend (.unify .receive index) = turn at hopens hpossible htouches
  generalize hid : FileId.unify .receive index = file at *
  cases htouches with
  | peerOffers size name hreceive =>
    have hoffer := live_of_offered hreached Keyed.sorted_nil hturn
    obtain rfl : live.size = size := (same_of_follow hduring hsound.sorted hclosed hoffer hl).2
    exact ⟨_, before, name, during, hreceive, rfl, hclosed⟩
  | callerOffers kind size name =>
    obtain ⟨-, slot, hsend⟩ := hpossible
    rw [← hid] at hsend
    cases (FileId.unify_inj.mp hsend).1
  | _ => cases hopens

theorem marker_of_completed {notification : Notification} {events : List Event} {after : Table}
    {download : UInt32 × UInt8} (hi : notification.interpretLegacy table = .ok (events, after))
    (hc : notification.completed? table = some download) :
    ∃ size, .fileRecvChunk download.1 (.unify .receive download.2) size [] ∈ events := by
  cases notification with
  | legacyFileData friend index data =>
    simp only [Notification.completed?, Notification.completes] at hc
    cases hl : table.get? friend (.unify .receive index) with
    | none => simp [hl] at hc
    | some live =>
      by_cases hend : live.position + UInt64.ofNat data.length = live.size
      · rw [Notification.interpretLegacy, Table.remoteData_of_complete hl hend] at hi
        simp only [hl, hend, decide_true, if_true] at hc
        cases hi
        cases hc
        exact ⟨live.size, List.mem_cons_of_mem _ (List.mem_singleton.mpr rfl)⟩
      · simp [hl, hend] at hc
  | _ => cases hc

/-- A pass tells the engine of each download that it completes, and the caller that it has ended. -/
theorem closed_of_pass {notices : List Notification} {outcome : Outcome CallError Reply}
    (h : follow (notices.map .noticed ++ [.passed outcome]) table = some effect) :
    effect.calls =
        table.outbound.map Outbound.call ++ (completions notices table).map closingCall ∧
      ∀ download ∈ completions notices table, ∃ size,
        .fileRecvChunk download.1 (.unify .receive download.2) size [] ∈ effect.events := by
  induction notices generalizing table effect with
  | nil =>
    rw [List.map_nil, List.nil_append, follow_singleton] at h
    cases outcome with
    | ok reply =>
      cases h
      exact ⟨(List.append_nil _).symm, fun _ hmem => nomatch hmem⟩
    | _ => cases h
  | cons notification rest ih =>
    obtain ⟨first, more, he, hm, rfl⟩ := split_of_follow h
    obtain ⟨hcalls, hends⟩ := ih hm
    cases causes_of_effect he with
    | @noticed _ events after hi =>
      rw [completions, hi]
      constructor
      · rw [Effect.calls_append, List.nil_append, hcalls, outbound_of_notice hi, List.map_append,
          calls_closes, List.map_append, List.append_assoc]
      · intro download hmem
        rcases List.mem_append.mp hmem with hmem | hmem
        · obtain ⟨size, hmarker⟩ := marker_of_completed hi (Option.mem_toList.mp hmem)
          exact ⟨size, List.mem_append_left _ hmarker⟩
        · obtain ⟨size, hmarker⟩ := hends download hmem
          exact ⟨size, List.mem_append_right _ hmarker⟩

end Transfer

end Switchboard
