import Switchboard.Transfer.Table
/-!
# What the peer does to the transfer table

One statement for each way an offer, a control or data of the peer can go. Which one it is depends
on the transfer that is live in its place, and on nothing else in the table.
-/

namespace Switchboard

namespace Transfer

namespace Table

variable {friend : UInt32} {index : UInt8} {table : Table} {live : Transfer}

/-! ## Offers -/

theorem remoteOffer_of_live (hl : table.get? friend (.unify .receive index) = some live)
    (size : UInt64) (name : Bytes) :
    table.remoteOffer friend index size name =
      .error (.duplicateTransfer friend (.unify .receive index)) := by
  simp only [remoteOffer, create, hl]
  rfl

theorem remoteOffer_of_free (hl : table.get? friend (.unify .receive index) = none)
    (size : UInt64) (name : Bytes) :
    table.remoteOffer friend index size name =
      .ok ([.fileRecv friend (.unify .receive index) 0 size name],
        table.put friend (.unify .receive index) (offered .receive size)) := by
  simp only [remoteOffer, create, hl]
  rfl

/-! ## Controls -/

/-- Beside the end of a file, the controls up to it are forwarded. -/
theorem forwarded?_eq_none_iff {control : UInt8} (hne : control ≠ finishedControl) :
    forwarded? control = none ↔ finishedControl < control := by
  have hthree : control.toNat ≠ 3 := fun e => hne (UInt8.toNat.inj e)
  have hlt : finishedControl < control ↔ 3 < control.toNat := UInt8.lt_iff_toNat_lt
  have hzero : control = acceptControl ↔ control.toNat = 0 := UInt8.toNat_inj.symm
  have hone : control = pauseControl ↔ control.toNat = 1 := UInt8.toNat_inj.symm
  have htwo : control = killControl ↔ control.toNat = 2 := UInt8.toNat_inj.symm
  simp only [forwarded?, hlt, hzero, hone, htwo]
  split
  · simp; omega
  · split
    · simp; omega
    · split
      · simp; omega
      · simp; omega

section Control

variable {control : UInt8}

theorem remoteControl_of_unknown (hc : finishedControl < control) (friend : UInt32)
    (side index : UInt8) (table : Table) :
    table.remoteControl friend side index control =
      .error (.unknownValue "legacy_file_control" control.toUInt32) := by
  have hne : control ≠ finishedControl := fun e => UInt8.lt_irrefl _ (e ▸ hc)
  simp only [remoteControl, hne, if_false, (forwarded?_eq_none_iff hne).mpr hc]

theorem remoteControl_of_missing {side : UInt8} (hc : control ≤ finishedControl)
    (hl : table.get? friend (.unify (notifiedDirection side) index) = none) :
    table.remoteControl friend side index control =
      .error (.missingTransfer friend (.unify (notifiedDirection side) index)) := by
  by_cases he : control = finishedControl
  · simp only [remoteControl, he, if_true, remoteFinished, hl]
  · cases hf : forwarded? control with
    | none => exact absurd ((forwarded?_eq_none_iff he).mp hf) (UInt8.not_lt.mpr hc)
    | some forwarded => simp only [remoteControl, he, if_false, hf, hl]

theorem remoteControl_of_finished {side : UInt8}
    (hl : table.get? friend (.unify (notifiedDirection side) index) = some live) :
    table.remoteControl friend side index finishedControl =
      .ok ([.fileChunkRequest friend (.unify (notifiedDirection side) index) live.position 0],
        table.erase friend (.unify (notifiedDirection side) index)) := by
  simp only [remoteControl, if_true, remoteFinished, hl]

theorem remoteControl_of_forwarded {side : UInt8} {forwarded : FileControl}
    (hf : forwarded? control = some forwarded)
    (hl : table.get? friend (.unify (notifiedDirection side) index) = some live) :
    table.remoteControl friend side index control =
      .ok ([.fileRecvControl friend (.unify (notifiedDirection side) index) forwarded],
        table.applyControl friend (.unify (notifiedDirection side) index) forwarded live) := by
  have hne : control ≠ finishedControl := by
    rintro rfl
    cases hf
  simp only [remoteControl, hne, if_false, hf, hl]

/-- A control of a live transfer becomes one event. -/
theorem remoteControl_of_live {side : UInt8} (hc : control ≤ finishedControl)
    (hl : table.get? friend (.unify (notifiedDirection side) index) = some live) :
    ∃ event after, table.remoteControl friend side index control = .ok ([event], after) := by
  by_cases he : control = finishedControl
  · rw [he]
    exact ⟨_, _, remoteControl_of_finished hl⟩
  · cases hf : forwarded? control with
    | none => exact absurd ((forwarded?_eq_none_iff he).mp hf) (UInt8.not_lt.mpr hc)
    | some forwarded => exact ⟨_, _, remoteControl_of_forwarded hf hl⟩

end Control

/-! ## Data -/

section Data

variable {data : Bytes}

theorem remoteData_of_missing (hl : table.get? friend (.unify .receive index) = none)
    (data : Bytes) :
    table.remoteData friend index data =
      .error (.missingTransfer friend (.unify .receive index)) := by
  simp only [remoteData, hl]

theorem remoteData_of_overrun (hl : table.get? friend (.unify .receive index) = some live)
    (ho : live.size < live.position + UInt64.ofNat data.length) :
    table.remoteData friend index data =
      .error (.transferOverrun friend (.unify .receive index) live.position
        (UInt64.ofNat data.length) live.size) := by
  simp only [remoteData, hl, ho, if_true]

/-- The last bytes of a file: its end is told to the caller, and will be told to the engine. -/
theorem remoteData_of_complete (hl : table.get? friend (.unify .receive index) = some live)
    (hd : live.position + UInt64.ofNat data.length = live.size) :
    table.remoteData friend index data =
      .ok
        ([.fileRecvChunk friend (.unify .receive index) live.position data,
            .fileRecvChunk friend (.unify .receive index) live.size []],
          { table.erase friend (.unify .receive index) with
            outbound := table.outbound ++
              [⟨friend, .unify .receive index, outboundSide .receive, index,
                finishedControl⟩] }) := by
  simp only [remoteData, hl, hd, UInt64.lt_irrefl, if_false, if_true]

theorem remoteData_of_more (hl : table.get? friend (.unify .receive index) = some live)
    (ho : ¬ live.size < live.position + UInt64.ofNat data.length)
    (hd : live.position + UInt64.ofNat data.length ≠ live.size) :
    table.remoteData friend index data =
      .ok ([.fileRecvChunk friend (.unify .receive index) live.position data],
        table.put friend (.unify .receive index)
          { live with
            progress := if live.progress = .paused then .running else live.progress
            position := live.position + UInt64.ofNat data.length }) := by
  simp only [remoteData, hl, ho, if_false, hd]

end Data

end Table

end Transfer

end Switchboard
