import Switchboard.Proofs.Transfer.Remote
import Switchboard.Session.Interpretation
/-!
# Violations and translations

Which notifications break the contract is said here by itself (`Violates`): a number past the end of
its table, a file notification of the other scheme, and, for the scheme with a transfer table, a
transfer that should be live and is not, or the other way round, or too much data. Interpreting a
notification fails exactly then, with that violation (`interpret_error_iff`).

A list of notifications is translated with the transfer table threaded through (`Translated`), and
splits into what can be translated and a rest that begins with a violation (`exists_translated`,
`Translated.longest`).
-/

namespace Switchboard

namespace Notification

/-! ## Violations -/

/-- The number in a notification that stands for a value of a table: the name of the table, the
number, and how many values there are. -/
def coded? : Notification → Option (String × UInt32 × Nat)
  | .selfConnectionStatus status => some ("connection_status", status, 3)
  | .friendStatus _ status => some ("user_status", status, 3)
  | .friendConnectionStatus _ status => some ("connection_status", status, 3)
  | .friendMessage _ type _ => some ("message_type", type, 2)
  | .fileRecvControl _ _ control => some ("file_control", control, 3)
  | .groupPeerStatus _ _ status => some ("user_status", status, 3)
  | .groupPrivacyState _ state => some ("privacy_state", state, 2)
  | .groupMessage _ _ type _ => some ("message_type", type, 2)
  | .groupJoinFail _ failure => some ("join_fail", failure, 4)
  | .groupModeration _ _ _ act => some ("group_mod_event", act, 5)
  | _ => none

/-- A file notification of engines that number files per direction. -/
def isLegacyFile : Notification → Bool
  | .legacyFileSendRequest _ _ _ _ => true
  | .legacyFileControl _ _ _ _ => true
  | .legacyFileData _ _ _ => true
  | _ => false

/-- A file notification of the scheme that the session does not use. -/
def mismatches (notification : Notification) : Option Transfer.Table → Bool
  | none => notification.isLegacyFile
  | some _ => notification.isUnifiedFile

open Transfer Transfer.Table in
/-- The ways in which a notification breaks the contract. -/
inductive Violates : Notification → Option Table → Violation → Prop
  | unknownNumber {notification transfers table number size} :
    notification.coded? = some (table, number, size) → notification.mismatches transfers = false →
    size ≤ number.toNat → Violates notification transfers (.unknownValue table number)
  | mismatch {notification transfers} :
    notification.mismatches transfers = true →
    Violates notification transfers (.addressingMismatch notification.kind.name)
  | duplicate {table friend index size name live} :
    get? friend (.unify .receive index) table = some live →
    Violates (.legacyFileSendRequest friend index size name) (some table)
      (.duplicateTransfer friend (.unify .receive index))
  | unknownControl {table friend side index control} :
    finishedControl < control →
    Violates (.legacyFileControl friend side index control) (some table)
      (.unknownValue "legacy_file_control" control.toUInt32)
  | missingControlled {table friend side index control} :
    control ≤ finishedControl → get? friend (.unify (notifiedDirection side) index) table = none →
    Violates (.legacyFileControl friend side index control) (some table)
      (.missingTransfer friend (.unify (notifiedDirection side) index))
  | missingReceiving {table friend index data} :
    get? friend (.unify .receive index) table = none →
    Violates (.legacyFileData friend index data) (some table)
      (.missingTransfer friend (.unify .receive index))
  | overrun {table friend index data live} :
    get? friend (.unify .receive index) table = some live →
    live.size < live.position + UInt64.ofNat data.length →
    Violates (.legacyFileData friend index data) (some table)
      (.transferOverrun friend (.unify .receive index) live.position (UInt64.ofNat data.length)
        live.size)

/-! ## When interpreting fails -/

theorem fromTable_error_iff {α : Type} [Enumerated α] {table : String} {number : UInt32}
    {violation : Violation} :
    (fromTable table number : Except Violation α) = .error violation ↔
      (Enumerated.all : List α).length ≤ number.toNat ∧ violation = .unknownValue table number := by
  unfold fromTable Enumerated.ofNumber?
  cases h : (Enumerated.all : List α)[number.toNat]? with
  | none =>
    have hlen := List.getElem?_eq_none_iff.mp h
    simp [hlen, eq_comm]
  | some value =>
    have hlt := (List.getElem?_eq_some_iff.mp h).1
    simp [Nat.not_le.mpr hlt]

theorem map_error_iff {α β δ : Type} {result : Except δ α} {f : α → β} {cause : δ} :
    result.map f = .error cause ↔ result = .error cause := by
  cases result <;> simp [Except.map]

/-- A number past the end of its table, and nothing else. -/
def OffTable (notification : Notification) (violation : Violation) : Prop :=
  match notification.coded? with
  | some (table, number, size) => size ≤ number.toNat ∧ violation = .unknownValue table number
  | none => False

private theorem plainEvent_error_iff {text : Bytes → Bytes} {notification : Notification}
    {violation : Violation} :
    notification.plainEvent text = .error violation ↔
      (notification.isLegacyFile = true ∧ violation = .addressingMismatch notification.kind.name) ∨
        notification.OffTable violation := by
  cases notification <;>
    simp [plainEvent, map_error_iff, fromTable_error_iff, OffTable, coded?, isLegacyFile, kind,
      NotificationKind.name, Enumerated.all, @eq_comm _ violation]

private theorem not_offTable_of_legacy {notification : Notification} {violation : Violation}
    (hl : notification.isLegacyFile = true) : ¬ notification.OffTable violation := by
  intro h
  cases notification <;> first | exact h | cases hl

theorem interpretLegacy_of_plain {notification : Notification}
    (h : notification.isLegacyFile = false) (table : Transfer.Table) :
    notification.interpretLegacy table =
      if notification.isUnifiedFile then .error (.addressingMismatch notification.kind.name)
      else (notification.plainEvent legacyText).map fun event => ([event], table) := by
  cases notification <;> first | rfl | simp [isLegacyFile] at h

section Legacy

open Transfer Transfer.Table

variable {friend : UInt32} {index : UInt8} {table : Table} {violation : Violation}

private theorem remoteOffer_error_iff {size : UInt64} {name : Bytes} :
    table.remoteOffer friend index size name = .error violation ↔
      Violates (.legacyFileSendRequest friend index size name) (some table) violation := by
  constructor
  · intro h
    cases hl : table.get? friend (.unify .receive index) with
    | none =>
      rw [remoteOffer_of_free hl] at h
      cases h
    | some live =>
      rw [remoteOffer_of_live hl] at h
      cases h
      exact .duplicate hl
  · intro h
    cases h with
    | unknownNumber hc => cases hc
    | mismatch hm => cases hm
    | duplicate hl => exact remoteOffer_of_live hl size name

private theorem remoteControl_error_iff {side control : UInt8} :
    table.remoteControl friend side index control = .error violation ↔
      Violates (.legacyFileControl friend side index control) (some table) violation := by
  constructor
  · intro h
    by_cases hc : finishedControl < control
    · rw [remoteControl_of_unknown hc] at h
      cases h
      exact .unknownControl hc
    · have hle := UInt8.not_lt.mp hc
      cases hl : table.get? friend (.unify (notifiedDirection side) index) with
      | none =>
        rw [remoteControl_of_missing hle hl] at h
        cases h
        exact .missingControlled hle hl
      | some live =>
        obtain ⟨event, after, he⟩ := remoteControl_of_live hle hl
        rw [he] at h
        cases h
  · intro h
    cases h with
    | unknownNumber hc => cases hc
    | mismatch hm => cases hm
    | unknownControl hc => exact remoteControl_of_unknown hc friend side index table
    | missingControlled hle hl => exact remoteControl_of_missing hle hl

theorem remoteData_error_iff {data : Bytes} :
    table.remoteData friend index data = .error violation ↔
      Violates (.legacyFileData friend index data) (some table) violation := by
  constructor
  · intro h
    cases hl : table.get? friend (.unify .receive index) with
    | none =>
      rw [remoteData_of_missing hl] at h
      cases h
      exact .missingReceiving hl
    | some live =>
      by_cases ho : live.size < live.position + UInt64.ofNat data.length
      · rw [remoteData_of_overrun hl ho] at h
        cases h
        exact .overrun hl ho
      · by_cases hd : live.position + UInt64.ofNat data.length = live.size
        · rw [remoteData_of_complete hl hd] at h
          cases h
        · rw [remoteData_of_more hl ho hd] at h
          cases h
  · intro h
    cases h with
    | unknownNumber hc => cases hc
    | mismatch hm => cases hm
    | missingReceiving hl => exact remoteData_of_missing hl data
    | overrun hl ho => exact remoteData_of_overrun hl ho

end Legacy

/-- Notifications that are not of the scheme with a transfer table. -/
theorem violates_of_plain {notification : Notification} {transfers : Option Transfer.Table}
    {violation : Violation} (hp : notification.isLegacyFile = false) :
    Violates notification transfers violation ↔
      if notification.mismatches transfers then
        violation = .addressingMismatch notification.kind.name
      else notification.OffTable violation := by
  constructor
  · intro h
    cases h with
    | unknownNumber hc hm hle => simp [hm, OffTable, hc, hle]
    | mismatch hm => simp [hm]
    | _ => cases hp
  · intro h
    split at h
    · rename_i hm
      rw [h]
      exact .mismatch hm
    · rename_i hm
      unfold OffTable at h
      split at h
      · rename_i hc
        rw [h.2]
        exact .unknownNumber hc (Bool.eq_false_iff.mpr hm) h.1
      · cases h

private theorem violates_none_of_legacy {notification : Notification} {violation : Violation}
    (hl : notification.isLegacyFile = true) :
    Violates notification none violation ↔
      violation = .addressingMismatch notification.kind.name := by
  constructor
  · intro h
    cases h with
    | unknownNumber _ hm _ =>
      rw [mismatches, hl] at hm
      cases hm
    | mismatch => rfl
  · intro h
    rw [h]
    exact .mismatch hl

/-- Interpreting a notification fails exactly if it breaks the contract, and says how. -/
theorem interpret_error_iff (notification : Notification) (transfers : Option Transfer.Table)
    (violation : Violation) :
    notification.interpret transfers = .error violation ↔
      Violates notification transfers violation := by
  cases transfers with
  | none =>
    rw [interpret, map_error_iff, plainEvent_error_iff]
    cases hl : notification.isLegacyFile with
    | false => simp [violates_of_plain hl, mismatches, hl]
    | true =>
      simp [violates_none_of_legacy hl, not_offTable_of_legacy hl]
  | some table =>
    rw [interpret, map_error_iff]
    cases hl : notification.isLegacyFile with
    | false =>
      rw [interpretLegacy_of_plain hl, violates_of_plain hl]
      cases hu : notification.isUnifiedFile with
      | true => simp [mismatches, hu, @eq_comm _ violation]
      | false => simp [mismatches, hu, map_error_iff, plainEvent_error_iff, hl]
    | true =>
      cases notification with
      | legacyFileSendRequest => exact remoteOffer_error_iff
      | legacyFileControl => exact remoteControl_error_iff
      | legacyFileData => exact remoteData_error_iff
      | _ => cases hl

/-! ## How many events -/

/-- The notification brings the last bytes of a file. -/
def completes : Notification → Option Transfer.Table → Bool
  | .legacyFileData friend index data, some table =>
    match table.get? friend (.unify .receive index) with
    | some live => live.position + UInt64.ofNat data.length = live.size
    | none => false
  | _, _ => false

theorem map_ok_iff {α β δ : Type} {result : Except δ α} {f : α → β} {value : β} :
    result.map f = .ok value ↔ ∃ before, result = .ok before ∧ f before = value := by
  cases result <;> simp [Except.map]

open Transfer.Table in
private theorem length_remoteData {friend : UInt32} {index : UInt8} {data : Bytes}
    {table after : Transfer.Table} {events : List Event}
    (h : table.remoteData friend index data = .ok (events, after)) :
    events.length =
      if completes (.legacyFileData friend index data) (some table) then 2 else 1 := by
  cases hl : table.get? friend (.unify .receive index) with
  | none =>
    rw [remoteData_of_missing hl] at h
    cases h
  | some live =>
    by_cases ho : live.size < live.position + UInt64.ofNat data.length
    · rw [remoteData_of_overrun hl ho] at h
      cases h
    · by_cases hd : live.position + UInt64.ofNat data.length = live.size
      · rw [remoteData_of_complete hl hd] at h
        cases h
        simp [completes, hl, hd]
      · rw [remoteData_of_more hl ho hd] at h
        cases h
        simp [completes, hl, hd]

open Transfer Transfer.Table in
private theorem length_remoteControl {friend : UInt32} {side index control : UInt8}
    {table after : Table} {events : List Event}
    (h : table.remoteControl friend side index control = .ok (events, after)) :
    events.length = 1 := by
  by_cases hc : finishedControl < control
  · rw [remoteControl_of_unknown hc] at h
    cases h
  · have hle := UInt8.not_lt.mp hc
    cases hl : table.get? friend (.unify (notifiedDirection side) index) with
    | none =>
      rw [remoteControl_of_missing hle hl] at h
      cases h
    | some live =>
      obtain ⟨event, next, he⟩ := remoteControl_of_live hle hl
      rw [he] at h
      cases h
      rfl

/-- One event for each notification, and two for the one that completes a file. -/
theorem length_interpret {notification : Notification} {transfers after : Option Transfer.Table}
    {events : List Event} (h : notification.interpret transfers = .ok (events, after)) :
    events.length = if notification.completes transfers then 2 else 1 := by
  cases transfers with
  | none =>
    obtain ⟨event, -, he⟩ := map_ok_iff.mp h
    cases he
    simp [completes]
  | some table =>
    obtain ⟨⟨found, next⟩, hi, he⟩ := map_ok_iff.mp h
    cases he
    cases hl : notification.isLegacyFile with
    | false =>
      rw [interpretLegacy_of_plain hl] at hi
      have hc : notification.completes (some table) = false := by
        cases notification <;> first | rfl | cases hl
      split at hi
      · cases hi
      · obtain ⟨event, -, he⟩ := map_ok_iff.mp hi
        cases he
        simp [hc]
    | true =>
      cases notification with
      | legacyFileSendRequest =>
        obtain ⟨created, -, he⟩ := map_ok_iff.mp hi
        cases he
        rfl
      | legacyFileControl => exact length_remoteControl hi
      | legacyFileData => exact length_remoteData hi
      | _ => cases hl

/-! ## Lists of notifications -/

/-- The notifications keep the contract and become these events, translated one after the other with
the transfer table threaded through. -/
inductive Translated :
    Option Transfer.Table → List Notification → List Event → Option Transfer.Table → Prop
  | nil (transfers : Option Transfer.Table) : Translated transfers [] [] transfers
  | cons {transfers between after notification rest events more} :
    notification.interpret transfers = .ok (events, between) →
    Translated between rest more after →
    Translated transfers (notification :: rest) (events ++ more) after

/-- The part before the first violation is the longest that can be translated. -/
theorem Translated.longest {transfers after after' : Option Transfer.Table}
    {clean later list : List Notification} {notification : Notification} {events more : List Event}
    {violation : Violation} (h : Translated transfers clean events after)
    (hv : Violates notification after violation) (hl : Translated transfers list more after')
    (hp : list <+: clean ++ notification :: later) : list <+: clean := by
  induction h generalizing list more with
  | nil transfers =>
    cases hl with
    | nil => exact List.nil_prefix
    | cons hi _ =>
      obtain ⟨rfl, -⟩ := List.cons_prefix_cons.mp hp
      rw [(interpret_error_iff _ _ _).mpr hv] at hi
      cases hi
  | cons hc _ ih =>
    cases hl with
    | nil => exact List.nil_prefix
    | cons hi hrest =>
      obtain ⟨rfl, hrp⟩ := List.cons_prefix_cons.mp hp
      rw [hc] at hi
      cases hi
      exact List.cons_prefix_cons.mpr ⟨rfl, ih hv hrest hrp⟩

/-- Every list splits into a part that can be translated and a rest that is empty or begins with a
violation. -/
theorem exists_translated (list : List Notification) (transfers : Option Transfer.Table) :
    ∃ clean rest events after, list = clean ++ rest ∧ Translated transfers clean events after ∧
      (rest = [] ∨ ∃ notification later violation, rest = notification :: later ∧
        Violates notification after violation) := by
  induction list generalizing transfers with
  | nil => exact ⟨[], [], [], transfers, rfl, .nil transfers, .inl rfl⟩
  | cons notification list ih =>
    cases hi : notification.interpret transfers with
    | error violation =>
      refine ⟨[], notification :: list, [], transfers, rfl, .nil transfers, .inr ?_⟩
      exact ⟨notification, list, violation, rfl, (interpret_error_iff _ _ _).mp hi⟩
    | ok interpreted =>
      obtain ⟨events, between⟩ := interpreted
      obtain ⟨clean, rest, more, after, rfl, htr, hrest⟩ := ih between
      exact ⟨notification :: clean, rest, events ++ more, after, rfl, .cons hi htr, hrest⟩

end Notification

end Switchboard
