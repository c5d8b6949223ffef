import Switchboard.Proofs.Transfer.Sound
/-!
# Sizes

Positions and sizes are numbers of 64 bits, and a chunk is compared with the size after its length
was added to the position. As long as the sum is itself a number of 64 bits, the comparison is one
of whole numbers (`Countable.size_lt_iff`): what goes beyond the size is refused, and what is taken
moves the transfer on by its length (`Table.ExactSizes`).
-/

namespace Switchboard

namespace Transfer

/-! ## One transfer -/

def Exceeds (length : Nat) (live : Transfer) : Prop :=
  live.size.toNat < live.position.toNat + length

/-- The position after so many bytes more is a number of 64 bits. -/
def Countable (length : Nat) (live : Transfer) : Prop :=
  live.position.toNat + length < 2 ^ 64

section One

variable {length : Nat} {live : Transfer}

theorem Countable.toNat_add (countable : live.Countable length) :
    (live.position + UInt64.ofNat length).toNat = live.position.toNat + length :=
  Table.toNat_add_ofNat countable

/-- The comparison that is made is the one that is meant. -/
theorem Countable.size_lt_iff (countable : live.Countable length) :
    live.size < live.position + UInt64.ofNat length ↔ live.Exceeds length := by
  rw [UInt64.lt_iff_toNat_lt, countable.toNat_add]
  rfl

/-- It is enough that the size leaves room. -/
theorem countable_of_size (inside : live.position ≤ live.size)
    (room : live.size.toNat + length < 2 ^ 64) : live.Countable length := by
  have hle := UInt64.le_iff_toNat_le.mp inside
  unfold Countable
  omega

end One

namespace Table

variable {friend : UInt32} {index : UInt8} {table : Table} {live : Transfer} {data : Bytes}

/-! ## Data -/

/-- Data that goes beyond the size is refused, and other data taken. -/
structure ExactData (table : Table) (friend : UInt32) (index : UInt8) (live : Transfer)
    (data : Bytes) : Prop where
  refused_iff : table.remoteData friend index data =
      .error (.transferOverrun friend (.unify .receive index) live.position
        (UInt64.ofNat data.length) live.size) ↔ live.Exceeds data.length
  taken_iff : (∃ events after, table.remoteData friend index data = .ok (events, after)) ↔
    ¬ live.Exceeds data.length
  moved : ∀ events after left, table.remoteData friend index data = .ok (events, after) →
    after.get? friend (.unify .receive index) = some left →
    left.position.toNat = live.position.toNat + data.length

theorem exactData_of_countable (hl : table.get? friend (.unify .receive index) = some live)
    (countable : live.Countable data.length) : ExactData table friend index live data := by
  have hiff := countable.size_lt_iff
  by_cases ho : live.size < live.position + UInt64.ofNat data.length
  · have hexceeds := hiff.mp ho
    have hran := remoteData_of_overrun hl ho
    refine ⟨iff_of_true hran hexceeds, iff_of_false ?_ fun h => h hexceeds, ?_⟩
    · rintro ⟨events, after, h⟩
      cases hran.symm.trans h
    · intro events after left h
      cases hran.symm.trans h
  · have hinside := mt hiff.mpr ho
    by_cases hd : live.position + UInt64.ofNat data.length = live.size
    · have hran := remoteData_of_complete hl hd
      refine ⟨iff_of_false ?_ hinside, iff_of_true ⟨_, _, hran⟩ hinside, ?_⟩
      · intro h
        cases hran.symm.trans h
      · intro events after left h hleft
        cases hran.symm.trans h
        have hgone := get?_erase friend friend (.unify .receive index) (.unify .receive index) table
        rw [if_pos ⟨rfl, rfl⟩] at hgone
        cases hgone.symm.trans hleft
    · have hran := remoteData_of_more hl ho hd
      refine ⟨iff_of_false ?_ hinside, iff_of_true ⟨_, _, hran⟩ hinside, ?_⟩
      · intro h
        cases hran.symm.trans h
      · intro events after left h hleft
        cases hran.symm.trans h
        rw [get?_put, if_pos ⟨rfl, rfl⟩] at hleft
        cases hleft
        exact countable.toNat_add

/-! ## Chunks -/

/-- The next chunk is refused for its length if it goes beyond the size, and otherwise let through.
-/
structure ExactChunk (table : Table) (friend : UInt32) (index : UInt8) (live : Transfer)
    (data : Bytes) : Prop where
  refused_iff : table.resolveChunk friend (.unify .send index) live.position
      (UInt64.ofNat data.length) = .error .chunkLength ↔ live.Exceeds data.length
  through_iff : table.resolveChunk friend (.unify .send index) live.position
      (UInt64.ofNat data.length) = .ok index ↔ ¬ live.Exceeds data.length
  moved : ∀ left, (table.commitChunk friend (.unify .send index)
      (UInt64.ofNat data.length)).get? friend (.unify .send index) = some left →
    left.position.toNat = live.position.toNat + data.length

private theorem resolveChunk_of_running (hl : table.get? friend (.unify .send index) = some live)
    (running : live.progress = .running) (short : data.length ≤ 1371) :
    table.resolveChunk friend (.unify .send index) live.position (UInt64.ofNat data.length) =
      if live.size < live.position + UInt64.ofNat data.length then .error .chunkLength
      else .ok index := by
  simp only [resolveChunk, FileId.split_unify, hl, running, ne_eq, not_true_eq_false, if_false,
    not_maxChunk_lt short, false_or]

private theorem exactChunk_of_countable (hl : table.get? friend (.unify .send index) = some live)
    (running : live.progress = .running) (short : data.length ≤ 1371)
    (countable : live.Countable data.length) : ExactChunk table friend index live data := by
  have hiff := countable.size_lt_iff
  have hran := resolveChunk_of_running hl running short
  refine ⟨?_, ?_, fun left hleft => ?_⟩
  · rw [hran, ← hiff]
    split
    · rename_i ho
      exact iff_of_true rfl ho
    · rename_i ho
      exact iff_of_false (fun h => nomatch h) ho
  · rw [hran, ← hiff]
    split
    · rename_i ho
      exact iff_of_false (fun h => nomatch h) fun h => h ho
    · rename_i ho
      exact iff_of_true rfl ho
  · rw [commitChunk_of_live hl, get?_put, if_pos ⟨rfl, rfl⟩] at hleft
    cases hleft
    exact countable.toNat_add

private theorem resolveChunk_of_paused (hl : table.get? friend (.unify .send index) = some live)
    (paused : live.progress = .paused) (position length : UInt64) :
    table.resolveChunk friend (.unify .send index) position length =
      .error .transferNotRunning := by
  simp [resolveChunk, FileId.split_unify, hl, paused]

/-! ## All transfers -/

/-- The checks of sizes are exact for all live transfers, as long as sums are numbers of 64 bits.
Uploads that are paused are not compared with their size. -/
structure ExactSizes (table : Table) : Prop where
  position_le : ∀ friend file live, table.get? friend file = some live →
    live.position ≤ live.size
  countable : ∀ friend file live length, table.get? friend file = some live →
    live.size.toNat + length < 2 ^ 64 → live.Countable length
  data : ∀ friend index live data, table.get? friend (.unify .receive index) = some live →
    live.Countable data.length → ExactData table friend index live data
  chunk : ∀ friend index live data, table.get? friend (.unify .send index) = some live →
    live.progress = .running → data.length ≤ 1371 → live.Countable data.length →
    ExactChunk table friend index live data
  paused : ∀ friend index live position length,
    table.get? friend (.unify .send index) = some live → live.progress ≠ .running →
    table.resolveChunk friend (.unify .send index) position length = .error .transferNotRunning

theorem Sound.exactSizes (sound : table.Sound) : table.ExactSizes where
  position_le friend file live hl := (sound.get? friend file live hl).position_le
  countable friend file live _ hl room :=
    countable_of_size (sound.get? friend file live hl).position_le room
  data _ _ _ _ hl countable := exactData_of_countable hl countable
  chunk _ _ _ _ hl running short countable := exactChunk_of_countable hl running short countable
  paused friend _ live position length hl hnot :=
    resolveChunk_of_paused hl ((sound.get? friend _ live hl).progress.resolve_right hnot) position
      length

end Table

end Transfer

end Switchboard
