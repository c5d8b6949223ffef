import Switchboard.Transfer.Table
/-!
# What the caller does to the transfer table

When a caller's control or chunk is let through to the engine, and what it is there.
-/

namespace Switchboard

namespace Transfer

namespace Table

variable {friend : UInt32} {file : FileId} {table : Table}

theorem resolveControl_eq_ok {control : FileControl} {told : Outbound} :
    table.resolveControl friend file control = .ok told ↔
      ∃ direction index live, file = .unify direction index ∧
        table.get? friend file = some live ∧
        told = ⟨friend, file, outboundSide direction, index, controlNumber control⟩ := by
  unfold resolveControl
  constructor
  · intro h
    split at h
    · rename_i direction index live hs hl
      cases h
      exact ⟨direction, index, live, FileId.eq_unify_of_split hs, hl, rfl⟩
    · cases h
  · rintro ⟨direction, index, live, rfl, hl, rfl⟩
    rw [FileId.split_unify, hl]

/-- Where a chunk leads, as long as that is a number of 64 bits. -/
theorem toNat_add_ofNat {position : UInt64} {length : Nat}
    (h : position.toNat + length < UInt64.size) :
    (position + UInt64.ofNat length).toNat = position.toNat + length := by
  have hlength : (UInt64.ofNat length).toNat = length :=
    UInt64.toNat_ofNat_of_lt' (Nat.lt_of_le_of_lt (Nat.le_add_left _ _) h)
  rw [UInt64.toNat_add, hlength]
  exact Nat.mod_eq_of_lt h

/-- How far a transfer is after a chunk that does not lead beyond its end. -/
theorem toNat_reached {position size : UInt64} {length : Nat}
    (h : position.toNat + length ≤ size.toNat) :
    (position + UInt64.ofNat length).toNat = position.toNat + length :=
  toNat_add_ofNat (Nat.lt_of_le_of_lt h size.toNat_lt)

theorem toNat_maxChunk : maxChunk.toNat = 1371 := rfl

theorem not_maxChunk_lt {length : Nat} (short : length ≤ 1371) :
    ¬ maxChunk < UInt64.ofNat length := by
  have hlength : (UInt64.ofNat length).toNat = length :=
    UInt64.toNat_ofNat_of_lt' (show length < 2 ^ 64 by omega)
  rw [UInt64.lt_iff_toNat_lt, hlength, toNat_maxChunk]
  omega

/-- How long the next chunk is of a transfer that has come so far. -/
theorem toNat_min_maxChunk_sub {position size : UInt64} (h : position ≤ size) :
    (min maxChunk (size - position)).toNat = min 1371 (size.toNat - position.toNat) := by
  have hmax := toNat_maxChunk
  have hsub := UInt64.toNat_sub_of_le size position h
  have hmin : min maxChunk (size - position) =
      if maxChunk ≤ size - position then maxChunk else size - position := rfl
  rw [hmin]
  split
  · rename_i hlong
    rw [UInt64.le_iff_toNat_le] at hlong
    omega
  · rename_i hlong
    rw [UInt64.le_iff_toNat_le] at hlong
    omega

/-- The chunk is the next of a running upload, and not too long. -/
structure Fits (position length : UInt64) (live : Transfer) : Prop where
  running : live.progress = .running
  position_eq : position = live.position
  length_le : ¬ maxChunk < length
  inside : ¬ live.size < position + length

theorem fits_of_le {live : Transfer} (running : live.progress = .running) {length : Nat}
    (short : length ≤ 1371) (inside : live.position.toNat + length ≤ live.size.toNat) :
    Fits live.position (UInt64.ofNat length) live := by
  refine ⟨running, rfl, not_maxChunk_lt short, ?_⟩
  rw [UInt64.lt_iff_toNat_lt, toNat_reached inside]
  omega

theorem resolveChunk_eq_ok {position length : UInt64} {index : UInt8} :
    table.resolveChunk friend file position length = .ok index ↔
      file = .unify .send index ∧
        ∃ live, table.get? friend file = some live ∧ Fits position length live := by
  unfold resolveChunk
  constructor
  · intro h
    split at h
    · rename_i found hs
      split at h
      · cases h
      · rename_i live hl
        split at h
        · cases h
        rename_i hrunning
        split at h
        · cases h
        rename_i hposition
        split at h
        · cases h
        rename_i hlength
        cases h
        obtain ⟨hle, hinside⟩ := not_or.mp hlength
        exact ⟨FileId.eq_unify_of_split hs, live, hl, Decidable.not_not.mp hrunning,
          Decidable.not_not.mp hposition, hle, hinside⟩
    · cases h
  · rintro ⟨rfl, live, hl, hfits⟩
    have hinside := hfits.inside
    rw [hfits.position_eq] at hinside
    simp [FileId.split_unify, hl, hfits.running, hfits.position_eq, hfits.length_le, hinside]

theorem commitControl_of_live {control : FileControl} {live : Transfer}
    (hl : table.get? friend file = some live) :
    table.commitControl friend file control = table.applyControl friend file control live := by
  simp only [commitControl, hl]

theorem commitChunk_of_live {length : UInt64} {live : Transfer}
    (hl : table.get? friend file = some live) :
    table.commitChunk friend file length =
      table.put friend file
        { live with position := live.position + length, requestPending := false } := by
  simp only [commitChunk, hl]

end Table

end Transfer

end Switchboard
