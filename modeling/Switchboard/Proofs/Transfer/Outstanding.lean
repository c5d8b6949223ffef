import Switchboard.Proofs.Transfer.Sound
/-!
# Outstanding requests

A transfer that has a request outstanding has come just as far as when it was asked for that chunk.
So the chunk is the last one that was asked for (`awaits_of_follow`), it is still the next, and any
part it begins with is let through (`outstanding_of_awaits`). At the end of a pass every running
upload with bytes to go has such a request (`pending_of_pass`).
-/

namespace Switchboard

theorem TransferKey.rank_lt_iff {first second : TransferKey} :
    Ranked.rank first < Ranked.rank second ↔
      first.friend < second.friend ∨
        first.friend = second.friend ∧ first.file.raw < second.file.raw := by
  have hfirst := first.file.raw.toNat_lt
  have hsecond := second.file.raw.toNat_lt
  rw [UInt32.lt_iff_toNat_lt, UInt32.lt_iff_toNat_lt, ← UInt32.toNat_inj]
  simp only [Ranked.rank]
  omega

namespace Transfer

/-- The next chunk of a transfer: where it begins, and how long it is. -/
def due (live : Transfer) : UInt64 × UInt64 :=
  (live.position, min maxChunk (live.size - live.position))

section Due

variable {file : FileId} {live : Transfer}

private theorem toNat_due (h : live.position ≤ live.size) :
    (due live).2.toNat = min 1371 (live.size.toNat - live.position.toNat) :=
  Table.toNat_min_maxChunk_sub h

/-- The beginning of the chunk that is due fits, and so does the whole of it. -/
theorem fits_of_due (sound : Sound file live) (running : live.progress = .running) {length : Nat}
    (h : length ≤ (due live).2.toNat) : Table.Fits live.position (UInt64.ofNat length) live := by
  have hposition := UInt64.le_iff_toNat_le.mp sound.position_le
  rw [toNat_due sound.position_le] at h
  apply Table.fits_of_le running
  · omega
  · omega

end Due

/-! ## What is outstanding -/

/-- If a request is outstanding, it is the last of these and asks for the chunk that is due. -/
def Awaits (requests : List (UInt64 × UInt64)) (live : Transfer) : Prop :=
  live.requestPending = true → requests.getLast? = some (due live)

section Turn

variable {file : FileId} {requests : List (UInt64 × UInt64)}

theorem Awaits.asked {live : Transfer} (awaits : Awaits requests live) :
    Awaits (requests ++ (Table.nextChunk? live).toList) (Table.asked live) := by
  unfold Table.nextChunk? Table.asked
  split
  · intro _
    rw [Option.toList_some, List.getLast?_concat]
    rfl
  · rwa [Option.toList_none, List.append_nil]

/-- No turn moves a transfer on while a request is outstanding. -/
theorem awaits_next {turn : Turn} {before : Option Transfer} (possible : turn.Possible file before)
    (sound : ∀ transfer ∈ before, Sound file transfer)
    (awaits : ∀ transfer ∈ before, Awaits requests transfer) :
    ∀ transfer ∈ turn.next before, Awaits (requests ++ turn.requested before) transfer := by
  intro after hafter
  cases before with
  | none =>
    cases turn with
    | offered direction size =>
      cases hafter
      intro hpending
      cases hpending
    | controlled control => cases control <;> cases hafter
    | _ => cases hafter
  | some live =>
    have hlive := awaits live rfl
    cases turn with
    | untouched =>
      cases hafter
      exact (List.append_nil requests).symm ▸ hlive
    | offered direction size => exact absurd possible (Turn.not_possible_offered _ _ _)
    | controlled control =>
      cases control with
      | cancel => cases hafter
      | _ =>
        cases hafter
        exact (List.append_nil requests).symm ▸ hlive
    | finished => cases hafter
    | arrived data =>
      obtain ⟨⟨index, hfile⟩, -⟩ := possible
      have hnone : live.requestPending = false := by
        rw [← Bool.not_eq_true]
        intro hpending
        have hsend := ((sound live rfl).pending hpending).1
        rw [(sound live rfl).direction_eq hfile] at hsend
        cases hsend
      intro hpending
      simp only [Turn.next] at hafter
      split at hafter
      · cases hafter
      · cases hafter
        exact absurd hpending (by rw [hnone]; exact Bool.false_ne_true)
    | sent position data =>
      cases hafter
      intro hpending
      cases hpending
    | passed =>
      cases hafter
      exact hlive.asked

end Turn

section Moments

variable {moments : List Moment} {table : Table} {effect : Effect} {friend : UInt32}
  {file : FileId}

theorem awaits_of_follow {requests : List (UInt64 × UInt64)}
    (h : follow moments table = some effect) (sound : table.Sound)
    (start : ∀ live ∈ table.get? friend file, Awaits requests live) :
    ∀ live ∈ effect.table.get? friend file,
      Awaits (requests ++ effect.events.filterMap (Event.requested? friend file)) live := by
  induction moments generalizing table effect requests with
  | nil =>
    cases h
    intro live hl
    rw [Effect.still, List.filterMap_nil, List.append_nil]
    exact start live hl
  | cons moment rest ih =>
    obtain ⟨first, more, he, hm, rfl⟩ := split_of_follow h
    have course := course_of_effect he sound.sorted friend file
    have hsound := sound_of_follow ((follow_singleton moment table).trans he) sound
    have hfirst := awaits_next course.possible (sound.get? friend file) start
    rw [← course.next, ← course.requested] at hfirst
    have hrest := ih hm hsound hfirst
    rwa [Effect.events_append, List.filterMap_append, ← List.append_assoc]

/-- The last chunk that the caller was asked for of a transfer has this length. It begins where the
transfer has come, and while the transfer runs a chunk is let through that is no longer. -/
structure Outstanding (heard : List Event) (table : Table) (friend : UInt32) (file : FileId)
    (live : Transfer) (length : UInt64) : Prop where
  last : (heard.filterMap (Event.requested? friend file)).getLast? = some (live.position, length)
  toNat_length : length.toNat = min 1371 (live.size.toNat - live.position.toNat)
  positive : 0 < length.toNat
  answerable : live.progress = .running → ∀ data : Bytes, data.length ≤ length.toNat →
    ∃ index, file = .unify .send index ∧
      table.resolveChunk friend file live.position (UInt64.ofNat data.length) = .ok index

theorem outstanding_of_awaits {heard : List Event} {live : Transfer}
    (hl : table.get? friend file = some live) (sound : Sound file live)
    (awaits : Awaits (heard.filterMap (Event.requested? friend file)) live)
    (pending : live.requestPending = true) :
    ∃ length, Outstanding heard table friend file live length := by
  obtain ⟨hsend, hmore⟩ := sound.pending pending
  have hlength := toNat_due sound.position_le
  refine ⟨(due live).2, awaits pending, hlength, ?_, ?_⟩
  · rw [UInt64.lt_iff_toNat_lt] at hmore
    omega
  · intro running data hdata
    obtain ⟨index, hsplit⟩ := sound.split
    rw [hsend] at hsplit
    have hfile := FileId.eq_unify_of_split hsplit
    exact ⟨index, hfile, Table.resolveChunk_eq_ok.mpr
      ⟨hfile, live, hl, fits_of_due sound running hdata⟩⟩

/-- Every request that is outstanding can be answered. -/
def Answerable (heard : List Event) (table : Table) : Prop :=
  ∀ friend file live, table.get? friend file = some live → live.requestPending = true →
    ∃ length, Outstanding heard table friend file live length

/-- Whatever happened, what is outstanding then can be answered. -/
theorem answerable_of_follow {left : Table} (h : follow moments .empty = some effect)
    (same : left.entries = effect.table.entries) : Answerable effect.events left := by
  intro friend file live hl pending
  have hfound : effect.table.get? friend file = some live := by
    rw [Table.get?, ← same]
    exact hl
  have hsound := (sound_of_follow h Table.sound_empty).get? friend file live hfound
  have hawaits : Awaits ([] ++ effect.events.filterMap (Event.requested? friend file)) live :=
    awaits_of_follow h Table.sound_empty (fun _ h => nomatch h) live hfound
  exact outstanding_of_awaits hl hsound hawaits pending

/-! ## Passes -/

/-- The requests of a pass come after what its notifications brought, in order of friend and file,
and are for the transfers that should be asked for a chunk then. -/
theorem requests_of_pass {notices : List Notification} {reply : Reply}
    (h : follow (notices.map .noticed ++ [.passed (.ok reply)]) table = some effect)
    (sorted : Keyed.Sorted table.entries) :
    ∃ heard asked, follow (notices.map .noticed) table = some heard ∧
      effect.events = heard.events ++ asked.map (fun ask => Table.chunkRequest ask.1 ask.2) ∧
      Keyed.Sorted asked ∧
      ∀ friend file live, (⟨friend, file⟩, live) ∈ asked ↔
        heard.table.get? friend file = some live ∧ Table.needsRequest live = true := by
  obtain ⟨heard, last, hheard, hlast, rfl⟩ := split_of_last h
  have hsorted := sorted_of_follow hheard sorted
  refine ⟨heard, heard.table.entries.filter fun entry => Table.needsRequest entry.2, hheard, ?_,
    List.Pairwise.filter _ hsorted, ?_⟩
  · cases hlast
    rw [Effect.events_append, Table.requestChunks, ← List.filterMap_eq_filter, List.map_filterMap]
    refine congrArg (heard.events ++ ·) (congrArg (List.filterMap · _) (funext fun entry => ?_))
    dsimp only [Option.guard]
    split <;> rfl
  · intro friend file live
    rw [List.mem_filter]
    constructor
    · rintro ⟨hmem, hneeds⟩
      exact ⟨hsorted.get?_of_mem hmem, hneeds⟩
    · rintro ⟨hl, hneeds⟩
      exact ⟨Keyed.mem_of_get? hl, hneeds⟩

/-- After a pass no running upload with bytes to go is without a request. -/
theorem pending_of_pass {notices : List Notification} {reply : Reply} {live : Transfer}
    (h : follow (notices.map .noticed ++ [.passed (.ok reply)]) table = some effect)
    (hl : effect.table.get? friend file = some live) (outgoing : live.direction = .send)
    (running : live.progress = .running) (more : live.position < live.size) :
    live.requestPending = true := by
  obtain ⟨heard, last, -, hlast, rfl⟩ := split_of_last h
  cases hlast
  rw [Effect.table_append, Table.get?_requestChunks, Option.map_eq_some_iff] at hl
  obtain ⟨before, -, rfl⟩ := hl
  unfold Table.asked at outgoing running more ⊢
  split at outgoing
  · rename_i hneeds
    rw [if_pos hneeds]
  · rename_i hneeds
    rw [if_neg hneeds] at running more ⊢
    by_contra hpending
    exact hneeds (Table.needsRequest_iff.mpr
      ⟨outgoing, running, Bool.eq_false_iff.mpr hpending, more⟩)

end Moments

end Transfer

end Switchboard
