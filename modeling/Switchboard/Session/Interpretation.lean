import Switchboard.Notification
import Switchboard.Transfer.Table
import Switchboard.Violation
/-!
# From notifications to events

Every notification that keeps the contract becomes one event, or two for the data that completes
a file. A number outside its table breaks the contract, and so does a file notification of the
addressing scheme that the session does not use.
-/

namespace Switchboard

namespace Notification

def fromTable {α : Type} [Enumerated α] (table : String) (number : UInt32) : Except Violation α :=
  match Enumerated.ofNumber? number with
  | some value => .ok value
  | none => .error (.unknownValue table number)

/-- Engines that number files per direction report an empty text as a single NUL. -/
def legacyText (bytes : Bytes) : Bytes := if bytes = [0] then [] else bytes

/-- A file notification of engines that use one number space for both directions. -/
def isUnifiedFile : Notification → Bool
  | .fileRecv _ _ _ _ _ => true
  | .fileRecvControl _ _ _ => true
  | .fileChunkRequest _ _ _ _ => true
  | .fileRecvChunk _ _ _ _ => true
  | _ => false

/-- The event of a notification that leaves the transfer table alone. -/
def plainEvent (text : Bytes → Bytes) : Notification → Except Violation Event
  | .selfConnectionStatus status =>
    (fromTable "connection_status" status).map .selfConnectionStatus
  | .friendName friend name => .ok (.friendName friend (text name))
  | .friendStatusMessage friend message => .ok (.friendStatusMessage friend (text message))
  | .friendStatus friend status => (fromTable "user_status" status).map (.friendStatus friend)
  | .friendConnectionStatus friend status =>
    (fromTable "connection_status" status).map (.friendConnectionStatus friend)
  | .friendTyping friend isTyping => .ok (.friendTyping friend isTyping)
  | .friendReadReceipt friend message => .ok (.friendReadReceipt friend message)
  | .friendRequest key message => .ok (.friendRequest key message)
  | .friendMessage friend type message =>
    (fromTable "message_type" type).map fun type => .friendMessage friend type message
  | .friendLossyPacket friend data => .ok (.friendLossyPacket friend data)
  | .friendLosslessPacket friend data => .ok (.friendLosslessPacket friend data)
  | .fileRecv friend file kind size name => .ok (.fileRecv friend ⟨file⟩ kind size name)
  | .fileRecvControl friend file control =>
    (fromTable "file_control" control).map (.fileRecvControl friend ⟨file⟩)
  | .fileChunkRequest friend file position length =>
    .ok (.fileChunkRequest friend ⟨file⟩ position length)
  | .fileRecvChunk friend file position data => .ok (.fileRecvChunk friend ⟨file⟩ position data)
  | .groupPeerName group peer name => .ok (.groupPeerName group peer name)
  | .groupPeerStatus group peer status =>
    (fromTable "user_status" status).map (.groupPeerStatus group peer)
  | .groupTopic group peer topic => .ok (.groupTopic group peer topic)
  | .groupPrivacyState group state =>
    (fromTable "privacy_state" state).map (.groupPrivacyState group)
  | .groupPeerLimit group limit => .ok (.groupPeerLimit group limit)
  | .groupPassword group password => .ok (.groupPassword group password)
  | .groupPeerlistUpdate group => .ok (.groupPeerlistUpdate group)
  | .groupMessage group peer type message =>
    (fromTable "message_type" type).map fun type => .groupMessage group peer type message
  | .groupPrivateMessage group peer message => .ok (.groupPrivateMessage group peer message)
  | .groupInvite friend invite => .ok (.groupInvite friend invite)
  | .groupPeerJoin group peer => .ok (.groupPeerJoin group peer)
  | .groupPeerExit group peer message => .ok (.groupPeerExit group peer message)
  | .groupSelfJoin group => .ok (.groupSelfJoin group)
  | .groupJoinFail group failure => (fromTable "join_fail" failure).map (.groupJoinFail group)
  | .groupModeration group source target act =>
    (fromTable "group_mod_event" act).map (.groupModeration group source target)
  | .legacyFileSendRequest _ _ _ _ => .error (.addressingMismatch "legacy_file_send_request")
  | .legacyFileControl _ _ _ _ => .error (.addressingMismatch "legacy_file_control")
  | .legacyFileData _ _ _ => .error (.addressingMismatch "legacy_file_data")

/-- The events of a notification in a session that has a transfer table, and the table after it. -/
def interpretLegacy (notification : Notification) (table : Transfer.Table) :
    Except Violation (List Event × Transfer.Table) :=
  match notification with
  | .legacyFileSendRequest friend index size name => table.remoteOffer friend index size name
  | .legacyFileControl friend side index control => table.remoteControl friend side index control
  | .legacyFileData friend index data => table.remoteData friend index data
  | other =>
    if other.isUnifiedFile then .error (.addressingMismatch other.kind.name)
    else (other.plainEvent legacyText).map fun event => ([event], table)

/-- The events of a notification, and the transfer table after it. -/
def interpret (notification : Notification) :
    Option Transfer.Table → Except Violation (List Event × Option Transfer.Table)
  | none => (notification.plainEvent id).map fun event => ([event], none)
  | some table =>
    (notification.interpretLegacy table).map fun (events, table) => (events, some table)

/-- The log shows a notification unless it belongs to the other scheme and the session has a
transfer table. -/
def isTraced (notification : Notification) (transfers : Option Transfer.Table) : Bool :=
  !(transfers.isSome && notification.isUnifiedFile)

end Notification

end Switchboard
