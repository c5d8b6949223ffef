import Switchboard.Event
import Switchboard.Log
/-!
# Notifications

What an engine reports while it is iterated, in the engine's own terms: enumerations are plain
numbers. Every kind of event has its notification, and engines that number files per direction
have three of their own for files.
-/

namespace Switchboard

inductive NotificationKind where
  | event (kind : EventKind)
  | legacyFileSendRequest
  | legacyFileControl
  | legacyFileData
  deriving DecidableEq, Repr

namespace NotificationKind

/-- All kinds, in the order an engine is asked for them. -/
def all : List NotificationKind :=
  (Enumerated.all : List EventKind).map .event ++
    [.legacyFileSendRequest, .legacyFileControl, .legacyFileData]

def name : NotificationKind → String
  | .event kind => Enumerated.name kind
  | .legacyFileSendRequest => "legacy_file_send_request"
  | .legacyFileControl => "legacy_file_control"
  | .legacyFileData => "legacy_file_data"

def title (kind : NotificationKind) : String :=
  String.join ((kind.name.splitOn "_").map String.capitalize)

end NotificationKind

inductive Notification where
  | selfConnectionStatus (status : UInt32)
  | friendName (friend : UInt32) (name : Bytes)
  | friendStatusMessage (friend : UInt32) (message : Bytes)
  | friendStatus (friend status : UInt32)
  | friendConnectionStatus (friend status : UInt32)
  | friendTyping (friend : UInt32) (isTyping : Bool)
  | friendReadReceipt (friend message : UInt32)
  | friendRequest (key : PublicKey) (message : Bytes)
  | friendMessage (friend type : UInt32) (message : Bytes)
  | friendLossyPacket (friend : UInt32) (data : Bytes)
  | friendLosslessPacket (friend : UInt32) (data : Bytes)
  | fileRecv (friend file kind : UInt32) (size : UInt64) (name : Bytes)
  | fileRecvControl (friend file control : UInt32)
  | fileChunkRequest (friend file : UInt32) (position length : UInt64)
  | fileRecvChunk (friend file : UInt32) (position : UInt64) (data : Bytes)
  | groupPeerName (group peer : UInt32) (name : Bytes)
  | groupPeerStatus (group peer status : UInt32)
  | groupTopic (group peer : UInt32) (topic : Bytes)
  | groupPrivacyState (group state : UInt32)
  | groupPeerLimit (group limit : UInt32)
  | groupPassword (group : UInt32) (password : Bytes)
  | groupPeerlistUpdate (group : UInt32)
  | groupMessage (group peer type : UInt32) (message : Bytes)
  | groupPrivateMessage (group peer : UInt32) (message : Bytes)
  | groupInvite (friend : UInt32) (invite : Bytes)
  | groupPeerJoin (group peer : UInt32)
  | groupPeerExit (group peer : UInt32) (message : Bytes)
  | groupSelfJoin (group : UInt32)
  | groupJoinFail (group failure : UInt32)
  | groupModeration (group source target act : UInt32)
  | legacyFileSendRequest (friend : UInt32) (index : UInt8) (size : UInt64) (name : Bytes)
  /-- `side` is 1 if the file is one sent from here. -/
  | legacyFileControl (friend : UInt32) (side index control : UInt8)
  | legacyFileData (friend : UInt32) (index : UInt8) (data : Bytes)
  deriving DecidableEq, Repr

namespace Notification

def kind : Notification → NotificationKind
  | .selfConnectionStatus _ => .event .selfConnectionStatus
  | .friendName _ _ => .event .friendName
  | .friendStatusMessage _ _ => .event .friendStatusMessage
  | .friendStatus _ _ => .event .friendStatus
  | .friendConnectionStatus _ _ => .event .friendConnectionStatus
  | .friendTyping _ _ => .event .friendTyping
  | .friendReadReceipt _ _ => .event .friendReadReceipt
  | .friendRequest _ _ => .event .friendRequest
  | .friendMessage _ _ _ => .event .friendMessage
  | .friendLossyPacket _ _ => .event .friendLossyPacket
  | .friendLosslessPacket _ _ => .event .friendLosslessPacket
  | .fileRecv _ _ _ _ _ => .event .fileRecv
  | .fileRecvControl _ _ _ => .event .fileRecvControl
  | .fileChunkRequest _ _ _ _ => .event .fileChunkRequest
  | .fileRecvChunk _ _ _ _ => .event .fileRecvChunk
  | .groupPeerName _ _ _ => .event .groupPeerName
  | .groupPeerStatus _ _ _ => .event .groupPeerStatus
  | .groupTopic _ _ _ => .event .groupTopic
  | .groupPrivacyState _ _ => .event .groupPrivacyState
  | .groupPeerLimit _ _ => .event .groupPeerLimit
  | .groupPassword _ _ => .event .groupPassword
  | .groupPeerlistUpdate _ => .event .groupPeerlistUpdate
  | .groupMessage _ _ _ _ => .event .groupMessage
  | .groupPrivateMessage _ _ _ => .event .groupPrivateMessage
  | .groupInvite _ _ => .event .groupInvite
  | .groupPeerJoin _ _ => .event .groupPeerJoin
  | .groupPeerExit _ _ _ => .event .groupPeerExit
  | .groupSelfJoin _ => .event .groupSelfJoin
  | .groupJoinFail _ _ => .event .groupJoinFail
  | .groupModeration _ _ _ _ => .event .groupModeration
  | .legacyFileSendRequest _ _ _ _ => .legacyFileSendRequest
  | .legacyFileControl _ _ _ _ => .legacyFileControl
  | .legacyFileData _ _ _ => .legacyFileData

/-! ## What the log shows of a notification -/

def numberField (name : String) (n : UInt32) : String × Log.Value := (name, .number n.toNat)

def byteField (name : String) (n : UInt8) : String × Log.Value := (name, .number n.toNat)

def wideField (name : String) (n : UInt64) : String × Log.Value := (name, .number n.toNat)

/-- Of bytes, the log shows how many they are. -/
def lengthField (bytes : Bytes) : String × Log.Value := ("len", .number bytes.length)

/-- The values the log shows, in their order. Keys, and the names of offered files, are left out. -/
def logFields : Notification → List (String × Log.Value)
  | .selfConnectionStatus status => [numberField "connection_status" status]
  | .friendName friend name => [numberField "friend_number" friend, lengthField name]
  | .friendStatusMessage friend message =>
    [numberField "friend_number" friend, lengthField message]
  | .friendStatus friend status =>
    [numberField "friend_number" friend, numberField "status" status]
  | .friendConnectionStatus friend status =>
    [numberField "friend_number" friend, numberField "connection_status" status]
  | .friendTyping friend isTyping =>
    [numberField "friend_number" friend, ("is_typing", .flag isTyping)]
  | .friendReadReceipt friend message =>
    [numberField "friend_number" friend, numberField "message_id" message]
  | .friendRequest _ message => [lengthField message]
  | .friendMessage friend type message =>
    [numberField "friend_number" friend, numberField "message_type" type, lengthField message]
  | .friendLossyPacket friend data => [numberField "friend_number" friend, lengthField data]
  | .friendLosslessPacket friend data => [numberField "friend_number" friend, lengthField data]
  | .fileRecv friend file kind size _ =>
    [numberField "friend_number" friend, numberField "file_id" file, numberField "kind" kind,
      wideField "file_size" size]
  | .fileRecvControl friend file control =>
    [numberField "friend_number" friend, numberField "file_id" file,
      numberField "control" control]
  | .fileChunkRequest friend file position length =>
    [numberField "friend_number" friend, numberField "file_id" file,
      wideField "position" position, wideField "length" length]
  | .fileRecvChunk friend file position data =>
    [numberField "friend_number" friend, numberField "file_id" file,
      wideField "position" position, lengthField data]
  | .groupPeerName group peer name =>
    [numberField "group_number" group, numberField "peer_number" peer, lengthField name]
  | .groupPeerStatus group peer status =>
    [numberField "group_number" group, numberField "peer_number" peer,
      numberField "status" status]
  | .groupTopic group peer topic =>
    [numberField "group_number" group, numberField "peer_number" peer, lengthField topic]
  | .groupPrivacyState group state =>
    [numberField "group_number" group, numberField "privacy_state" state]
  | .groupPeerLimit group limit =>
    [numberField "group_number" group, numberField "peer_limit" limit]
  | .groupPassword group password => [numberField "group_number" group, lengthField password]
  | .groupPeerlistUpdate group => [numberField "group_number" group]
  | .groupMessage group peer type message =>
    [numberField "group_number" group, numberField "peer_number" peer,
      numberField "message_type" type, lengthField message]
  | .groupPrivateMessage group peer message =>
    [numberField "group_number" group, numberField "peer_number" peer, lengthField message]
  | .groupInvite friend invite => [numberField "friend_number" friend, lengthField invite]
  | .groupPeerJoin group peer =>
    [numberField "group_number" group, numberField "peer_number" peer]
  | .groupPeerExit group peer _ =>
    [numberField "group_number" group, numberField "peer_number" peer]
  | .groupSelfJoin group => [numberField "group_number" group]
  | .groupJoinFail group failure =>
    [numberField "group_number" group, numberField "fail_type" failure]
  | .groupModeration group source target act =>
    [numberField "group_number" group, numberField "source_peer_number" source,
      numberField "target_peer_number" target, numberField "mod_event" act]
  | .legacyFileSendRequest friend index size _ =>
    [numberField "friend_number" friend, byteField "file_index" index,
      wideField "file_size" size]
  | .legacyFileControl friend side index control =>
    [numberField "friend_number" friend, byteField "receive_send" side,
      byteField "file_index" index, byteField "control" control]
  | .legacyFileData friend index data =>
    [numberField "friend_number" friend, byteField "file_index" index, lengthField data]

end Notification

/-- The notifications of one pass, in order; the pass may end in a panic after them. -/
structure Fired where
  notifications : List Notification
  panics : Bool
  deriving DecidableEq, Repr

/-- One scripted step of a pass. -/
inductive Signal where
  | notify (notification : Notification)
  | panic
  deriving DecidableEq, Repr

/-- What a script fires: everything before its first panic. -/
def Fired.ofScript : List Signal → Fired
  | [] => ⟨[], false⟩
  | .notify notification :: rest =>
    let fired := ofScript rest
    ⟨notification :: fired.notifications, fired.panics⟩
  | .panic :: _ => ⟨[], true⟩

end Switchboard
