import Switchboard.Proofs.Keyed
import Switchboard.Proofs.Transfer.Remote
/-!
# The entries of the transfer table

What a transfer is after the table changed in some place, this one or another (`get?_put`,
`get?_erase`), and what asking for chunks makes of it. The entries stay in the order of their keys
(`Sorted`), so that no transfer is asked for two chunks at once (`requested_requestChunks`).
-/

namespace Switchboard

namespace Transfer

namespace Table

variable {friend : UInt32} {file : FileId} {table : Table}

private theorem rank_ne_iff {friend other : UInt32} {file id : FileId} :
    Ranked.rank (⟨other, id⟩ : TransferKey) ≠ Ranked.rank (⟨friend, file⟩ : TransferKey) ↔
      ¬ (other = friend ∧ id = file) := by
  constructor
  · rintro h ⟨rfl, rfl⟩
    exact h rfl
  · intro h e
    cases Ranked.rank_inj e
    exact h ⟨rfl, rfl⟩

theorem get?_put (friend other : UInt32) (file id : FileId) (transfer : Transfer) (table : Table) :
    (table.put other id transfer).get? friend file =
      if other = friend ∧ id = file then some transfer else table.get? friend file := by
  by_cases h : other = friend ∧ id = file
  · rw [if_pos h, h.1, h.2]
    exact Keyed.get?_put_self _ _ _
  · rw [if_neg h]
    exact Keyed.get?_put_of_ne (rank_ne_iff.mpr h).symm _ _

theorem get?_erase (friend other : UInt32) (file id : FileId) (table : Table) :
    (table.erase other id).get? friend file =
      if other = friend ∧ id = file then none else table.get? friend file := by
  by_cases h : other = friend ∧ id = file
  · rw [if_pos h, h.1, h.2]
    exact Keyed.get?_erase_self _ _
  · rw [if_neg h]
    exact Keyed.get?_erase_of_ne (rank_ne_iff.mpr h).symm _

/-- A control in the place of this transfer, or of another. -/
theorem get?_applyControl (friend other : UInt32) (file id : FileId) (control : FileControl)
    (transfer : Transfer) (table : Table) :
    (table.applyControl other id control transfer).get? friend file =
      if other = friend ∧ id = file then
        match control with
        | .resume => some { transfer with progress := .running }
        | .pause => some { transfer with progress := .paused }
        | .cancel => none
      else table.get? friend file := by
  cases control with
  | resume => exact get?_put friend other file id _ table
  | pause => exact get?_put friend other file id _ table
  | cancel => exact get?_erase friend other file id table

/-! ## Asking for chunks -/

def asked (transfer : Transfer) : Transfer :=
  if needsRequest transfer then { transfer with requestPending := true } else transfer

theorem get?_requestChunks (friend : UInt32) (file : FileId) (table : Table) :
    table.requestChunks.2.get? friend file = (table.get? friend file).map asked :=
  Keyed.get?_map _ asked table.entries

end Table

end Transfer

/-! ## Events of one transfer -/

namespace Event

def requested? (friend : UInt32) (file : FileId) : Event → Option (UInt64 × UInt64)
  | .fileChunkRequest other id position length =>
    if other = friend ∧ id = file then some (position, length) else none
  | _ => none

def received? (friend : UInt32) (file : FileId) : Event → Option (UInt64 × Bytes)
  | .fileRecvChunk other id position data =>
    if other = friend ∧ id = file then some (position, data) else none
  | _ => none

end Event

namespace Transfer

namespace Table

/-- The chunk a transfer is asked for, if it should be. -/
def nextChunk? (transfer : Transfer) : Option (UInt64 × UInt64) :=
  if needsRequest transfer then
    some (transfer.position, min maxChunk (transfer.size - transfer.position))
  else none

theorem needsRequest_iff {transfer : Transfer} :
    needsRequest transfer = true ↔ transfer.direction = .send ∧ transfer.progress = .running ∧
      transfer.requestPending = false ∧ transfer.position < transfer.size := by
  simp [needsRequest, and_assoc]

theorem nextChunk?_eq_some_iff {transfer : Transfer} {chunk : UInt64 × UInt64} :
    nextChunk? transfer = some chunk ↔ needsRequest transfer = true ∧
      chunk = (transfer.position, min maxChunk (transfer.size - transfer.position)) := by
  unfold nextChunk?
  split
  · rename_i hneeds
    rw [Option.some.injEq, eq_comm]
    exact ⟨fun h => ⟨hneeds, h⟩, And.right⟩
  · rename_i hneeds
    exact ⟨fun h => (nomatch h), fun h => absurd h.1 hneeds⟩

/-- No transfer is asked for more than one chunk. -/
theorem requested_requestChunks {table : Table} (sorted : Keyed.Sorted table.entries)
    (friend : UInt32) (file : FileId) :
    table.requestChunks.1.filterMap (Event.requested? friend file) =
      ((table.get? friend file).bind nextChunk?).toList := by
  rw [requestChunks, List.filterMap_filterMap]
  refine (Keyed.filterMap_of_sorted sorted ⟨friend, file⟩ _ ?_).trans ?_
  · rintro ⟨other, id⟩ transfer hne
    have hother : ¬ (other = friend ∧ id = file) := rank_ne_iff.mp hne
    dsimp only
    split
    · simp [chunkRequest, Event.requested?, hother]
    · rfl
  · refine congrArg (fun f => ((table.get? friend file).bind f).toList) (funext fun transfer => ?_)
    dsimp only
    unfold nextChunk?
    split
    · simp [chunkRequest, Event.requested?]
    · rfl

theorem received_requestChunks (friend : UInt32) (file : FileId) (table : Table) :
    table.requestChunks.1.filterMap (Event.received? friend file) = [] := by
  rw [requestChunks, List.filterMap_filterMap, List.filterMap_eq_nil_iff]
  rintro ⟨key, transfer⟩ -
  dsimp only
  split <;> rfl

theorem sorted_requestChunks {table : Table} (sorted : Keyed.Sorted table.entries) :
    Keyed.Sorted table.requestChunks.2.entries :=
  sorted.map fun binding => asked binding.2

end Table

end Transfer

end Switchboard
