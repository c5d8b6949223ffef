import Switchboard.Bytes
import Switchboard.Enumerated
import Switchboard.Transfer.FileId
/-!
# Events

What a session tells its caller: thirty kinds of news about friends, files and groups. An event is
made of a kind and the values of that kind's fields, and the names of both are fixed here.
-/

namespace Switchboard

/-! ## Closed tables -/

inductive ConnectionStatus where
  | none
  | tcp
  | udp
  deriving DecidableEq, Repr

inductive UserStatus where
  | none
  | away
  | busy
  deriving DecidableEq, Repr

inductive MessageType where
  | normal
  | action
  deriving DecidableEq, Repr

inductive FileControl where
  | resume
  | pause
  | cancel
  deriving DecidableEq, Repr

inductive PrivacyState where
  | publicGroup
  | privateGroup
  deriving DecidableEq, Repr

/-- Why a group could not be joined. -/
inductive JoinFailure where
  | nameTaken
  | peerLimit
  | invalidPassword
  | unknown
  deriving DecidableEq, Repr

/-- What a moderator did to a peer. -/
inductive Moderation where
  | kick
  | ban
  | observer
  | user
  | moderator
  deriving DecidableEq, Repr

instance : Enumerated ConnectionStatus where
  all := [.none, .tcp, .udp]
  name
    | .none => "none"
    | .tcp => "tcp"
    | .udp => "udp"

instance : Enumerated UserStatus where
  all := [.none, .away, .busy]
  name
    | .none => "none"
    | .away => "away"
    | .busy => "busy"

instance : Enumerated MessageType where
  all := [.normal, .action]
  name
    | .normal => "normal"
    | .action => "action"

instance : Enumerated FileControl where
  all := [.resume, .pause, .cancel]
  name
    | .resume => "resume"
    | .pause => "pause"
    | .cancel => "cancel"

instance : Enumerated PrivacyState where
  all := [.publicGroup, .privateGroup]
  name
    | .publicGroup => "public"
    | .privateGroup => "private"

instance : Enumerated JoinFailure where
  all := [.nameTaken, .peerLimit, .invalidPassword, .unknown]
  name
    | .nameTaken => "name_taken"
    | .peerLimit => "peer_limit"
    | .invalidPassword => "invalid_password"
    | .unknown => "unknown"

instance : Enumerated Moderation where
  all := [.kick, .ban, .observer, .user, .moderator]
  name
    | .kick => "kick"
    | .ban => "ban"
    | .observer => "observer"
    | .user => "user"
    | .moderator => "moderator"

instance : LawfulEnumerated ConnectionStatus := ⟨fun value => by cases value <;> decide, by decide⟩
instance : LawfulEnumerated UserStatus := ⟨fun value => by cases value <;> decide, by decide⟩
instance : LawfulEnumerated MessageType := ⟨fun value => by cases value <;> decide, by decide⟩
instance : LawfulEnumerated FileControl := ⟨fun value => by cases value <;> decide, by decide⟩
instance : LawfulEnumerated PrivacyState := ⟨fun value => by cases value <;> decide, by decide⟩
instance : LawfulEnumerated JoinFailure := ⟨fun value => by cases value <;> decide, by decide⟩
instance : LawfulEnumerated Moderation := ⟨fun value => by cases value <;> decide, by decide⟩

/-! ## Kinds -/

inductive EventKind where
  | selfConnectionStatus
  | friendName
  | friendStatusMessage
  | friendStatus
  | friendConnectionStatus
  | friendTyping
  | friendReadReceipt
  | friendRequest
  | friendMessage
  | friendLossyPacket
  | friendLosslessPacket
  | fileRecv
  | fileRecvControl
  | fileChunkRequest
  | fileRecvChunk
  | groupPeerName
  | groupPeerStatus
  | groupTopic
  | groupPrivacyState
  | groupPeerLimit
  | groupPassword
  | groupPeerlistUpdate
  | groupMessage
  | groupPrivateMessage
  | groupInvite
  | groupPeerJoin
  | groupPeerExit
  | groupSelfJoin
  | groupJoinFail
  | groupModeration
  deriving DecidableEq, Repr

instance : Enumerated EventKind where
  all :=
    [.selfConnectionStatus, .friendName, .friendStatusMessage, .friendStatus,
      .friendConnectionStatus, .friendTyping, .friendReadReceipt, .friendRequest, .friendMessage,
      .friendLossyPacket, .friendLosslessPacket, .fileRecv, .fileRecvControl, .fileChunkRequest,
      .fileRecvChunk, .groupPeerName, .groupPeerStatus, .groupTopic, .groupPrivacyState,
      .groupPeerLimit, .groupPassword, .groupPeerlistUpdate, .groupMessage, .groupPrivateMessage,
      .groupInvite, .groupPeerJoin, .groupPeerExit, .groupSelfJoin, .groupJoinFail,
      .groupModeration]
  name
    | .selfConnectionStatus => "self_connection_status"
    | .friendName => "friend_name"
    | .friendStatusMessage => "friend_status_message"
    | .friendStatus => "friend_status"
    | .friendConnectionStatus => "friend_connection_status"
    | .friendTyping => "friend_typing"
    | .friendReadReceipt => "friend_read_receipt"
    | .friendRequest => "friend_request"
    | .friendMessage => "friend_message"
    | .friendLossyPacket => "friend_lossy_packet"
    | .friendLosslessPacket => "friend_lossless_packet"
    | .fileRecv => "file_recv"
    | .fileRecvControl => "file_recv_control"
    | .fileChunkRequest => "file_chunk_request"
    | .fileRecvChunk => "file_recv_chunk"
    | .groupPeerName => "group_peer_name"
    | .groupPeerStatus => "group_peer_status"
    | .groupTopic => "group_topic"
    | .groupPrivacyState => "group_privacy_state"
    | .groupPeerLimit => "group_peer_limit"
    | .groupPassword => "group_password"
    | .groupPeerlistUpdate => "group_peerlist_update"
    | .groupMessage => "group_message"
    | .groupPrivateMessage => "group_private_message"
    | .groupInvite => "group_invite"
    | .groupPeerJoin => "group_peer_join"
    | .groupPeerExit => "group_peer_exit"
    | .groupSelfJoin => "group_self_join"
    | .groupJoinFail => "group_join_fail"
    | .groupModeration => "group_moderation"

instance : LawfulEnumerated EventKind := ⟨fun value => by cases value <;> decide, by decide⟩

/-- The fields of each kind of event, in their order. -/
def EventKind.fieldNames : EventKind → List String
  | .selfConnectionStatus => ["connection_status"]
  | .friendName => ["friend_number", "name"]
  | .friendStatusMessage => ["friend_number", "message"]
  | .friendStatus => ["friend_number", "status"]
  | .friendConnectionStatus => ["friend_number", "connection_status"]
  | .friendTyping => ["friend_number", "is_typing"]
  | .friendReadReceipt => ["friend_number", "message_id"]
  | .friendRequest => ["public_key", "message"]
  | .friendMessage => ["friend_number", "message_type", "message"]
  | .friendLossyPacket => ["friend_number", "data"]
  | .friendLosslessPacket => ["friend_number", "data"]
  | .fileRecv => ["friend_number", "file_number", "kind", "file_size", "filename"]
  | .fileRecvControl => ["friend_number", "file_number", "control"]
  | .fileChunkRequest => ["friend_number", "file_number", "position", "length"]
  | .fileRecvChunk => ["friend_number", "file_number", "position", "data"]
  | .groupPeerName => ["group_number", "peer_number", "name"]
  | .groupPeerStatus => ["group_number", "peer_number", "status"]
  | .groupTopic => ["group_number", "peer_number", "topic"]
  | .groupPrivacyState => ["group_number", "privacy_state"]
  | .groupPeerLimit => ["group_number", "peer_limit"]
  | .groupPassword => ["group_number", "password"]
  | .groupPeerlistUpdate => ["group_number"]
  | .groupMessage => ["group_number", "peer_number", "message_type", "message"]
  | .groupPrivateMessage => ["group_number", "peer_number", "message"]
  | .groupInvite => ["friend_number", "invite_data"]
  | .groupPeerJoin => ["group_number", "peer_number"]
  | .groupPeerExit => ["group_number", "peer_number", "part_message"]
  | .groupSelfJoin => ["group_number"]
  | .groupJoinFail => ["group_number", "fail_type"]
  | .groupModeration => ["group_number", "source_peer_number", "target_peer_number", "mod_event"]

theorem EventKind.nodup_fieldNames (kind : EventKind) : kind.fieldNames.Nodup := by
  cases kind <;> decide

/-- The tag of an event is no field of any kind. -/
theorem EventKind.type_notMem_fieldNames (kind : EventKind) : "type" ∉ kind.fieldNames := by
  cases kind <;> decide

/-! ## Events -/

inductive Event where
  | selfConnectionStatus (status : ConnectionStatus)
  | friendName (friend : UInt32) (name : Bytes)
  | friendStatusMessage (friend : UInt32) (message : Bytes)
  | friendStatus (friend : UInt32) (status : UserStatus)
  | friendConnectionStatus (friend : UInt32) (status : ConnectionStatus)
  | friendTyping (friend : UInt32) (isTyping : Bool)
  | friendReadReceipt (friend : UInt32) (message : UInt32)
  | friendRequest (key : PublicKey) (message : Bytes)
  | friendMessage (friend : UInt32) (type : MessageType) (message : Bytes)
  | friendLossyPacket (friend : UInt32) (data : Bytes)
  | friendLosslessPacket (friend : UInt32) (data : Bytes)
  | fileRecv (friend : UInt32) (file : FileId) (kind : UInt32) (size : UInt64) (name : Bytes)
  | fileRecvControl (friend : UInt32) (file : FileId) (control : FileControl)
  | fileChunkRequest (friend : UInt32) (file : FileId) (position length : UInt64)
  | fileRecvChunk (friend : UInt32) (file : FileId) (position : UInt64) (data : Bytes)
  | groupPeerName (group peer : UInt32) (name : Bytes)
  | groupPeerStatus (group peer : UInt32) (status : UserStatus)
  | groupTopic (group peer : UInt32) (topic : Bytes)
  | groupPrivacyState (group : UInt32) (state : PrivacyState)
  | groupPeerLimit (group : UInt32) (limit : UInt32)
  | groupPassword (group : UInt32) (password : Bytes)
  | groupPeerlistUpdate (group : UInt32)
  | groupMessage (group peer : UInt32) (type : MessageType) (message : Bytes)
  | groupPrivateMessage (group peer : UInt32) (message : Bytes)
  | groupInvite (friend : UInt32) (invite : Bytes)
  | groupPeerJoin (group peer : UInt32)
  | groupPeerExit (group peer : UInt32) (message : Bytes)
  | groupSelfJoin (group : UInt32)
  | groupJoinFail (group : UInt32) (failure : JoinFailure)
  | groupModeration (group source target : UInt32) (act : Moderation)
  deriving DecidableEq, Repr

def Event.kind : Event → EventKind
  | .selfConnectionStatus _ => .selfConnectionStatus
  | .friendName _ _ => .friendName
  | .friendStatusMessage _ _ => .friendStatusMessage
  | .friendStatus _ _ => .friendStatus
  | .friendConnectionStatus _ _ => .friendConnectionStatus
  | .friendTyping _ _ => .friendTyping
  | .friendReadReceipt _ _ => .friendReadReceipt
  | .friendRequest _ _ => .friendRequest
  | .friendMessage _ _ _ => .friendMessage
  | .friendLossyPacket _ _ => .friendLossyPacket
  | .friendLosslessPacket _ _ => .friendLosslessPacket
  | .fileRecv _ _ _ _ _ => .fileRecv
  | .fileRecvControl _ _ _ => .fileRecvControl
  | .fileChunkRequest _ _ _ _ => .fileChunkRequest
  | .fileRecvChunk _ _ _ _ => .fileRecvChunk
  | .groupPeerName _ _ _ => .groupPeerName
  | .groupPeerStatus _ _ _ => .groupPeerStatus
  | .groupTopic _ _ _ => .groupTopic
  | .groupPrivacyState _ _ => .groupPrivacyState
  | .groupPeerLimit _ _ => .groupPeerLimit
  | .groupPassword _ _ => .groupPassword
  | .groupPeerlistUpdate _ => .groupPeerlistUpdate
  | .groupMessage _ _ _ _ => .groupMessage
  | .groupPrivateMessage _ _ _ => .groupPrivateMessage
  | .groupInvite _ _ => .groupInvite
  | .groupPeerJoin _ _ => .groupPeerJoin
  | .groupPeerExit _ _ _ => .groupPeerExit
  | .groupSelfJoin _ => .groupSelfJoin
  | .groupJoinFail _ _ => .groupJoinFail
  | .groupModeration _ _ _ _ => .groupModeration

end Switchboard
