/-!
# Failures of engine operations

An engine reports a failure as a code. Every operation has a closed catalogue of reasons, numbered
from 1; code 0 and codes past the end of the catalogue are no failures the operation may report.
-/

namespace Switchboard

/-- The operations with a catalogue. Several calls of an engine may share one. -/
inductive Operation where
  | create
  | bootstrap
  | setInfo
  | getPort
  | friendAdd
  | friendDelete
  | friendByPublicKey
  | friendGetPublicKey
  | setTyping
  | friendSendMessage
  | friendCustomPacket
  | fileControl
  | fileSend
  | fileSendChunk
  | groupSendMessage
  | groupTopicSet
  | groupLeave
  | groupStateQueries
  deriving DecidableEq, Repr

inductive Reason where
  | missingArgument
  | outOfMemory
  | portAllocation
  | proxyType
  | proxyHost
  | proxyPort
  | proxyNotFound
  | saveEncrypted
  | saveMalformed
  | bootstrapHost
  | bootstrapPort
  | valueTooLong
  | portNotBound
  | messageTooLong
  | noMessage
  | ownKey
  | alreadySent
  | badChecksum
  | nospamChanged
  | friendNotFound
  | keyNotFound
  | friendNotConnected
  | sendQueueFull
  | messageEmpty
  | packetId
  | packetEmpty
  | packetTooLong
  | transferNotFound
  | transferNotPaused
  | pausedByPeer
  | alreadyPaused
  | nameTooLong
  | tooManyTransfers
  | transferNotRunning
  | chunkLength
  | chunkPosition
  | groupNotFound
  | badMessageType
  | permissions
  | sendFailed
  | topicTooLong
  | partingTooLong
  | deletionFailed
  deriving DecidableEq, Repr

namespace Operation

def name : Operation → String
  | .create => "new"
  | .bootstrap => "bootstrap"
  | .setInfo => "set_info"
  | .getPort => "get_port"
  | .friendAdd => "friend_add"
  | .friendDelete => "friend_delete"
  | .friendByPublicKey => "friend_by_public_key"
  | .friendGetPublicKey => "friend_get_public_key"
  | .setTyping => "set_typing"
  | .friendSendMessage => "friend_send_message"
  | .friendCustomPacket => "friend_custom_packet"
  | .fileControl => "file_control"
  | .fileSend => "file_send"
  | .fileSendChunk => "file_send_chunk"
  | .groupSendMessage => "group_send_message"
  | .groupTopicSet => "group_topic_set"
  | .groupLeave => "group_leave"
  | .groupStateQueries => "group_state_queries"

def all : List Operation :=
  [.create, .bootstrap, .setInfo, .getPort, .friendAdd, .friendDelete, .friendByPublicKey,
    .friendGetPublicKey, .setTyping, .friendSendMessage, .friendCustomPacket, .fileControl,
    .fileSend, .fileSendChunk, .groupSendMessage, .groupTopicSet, .groupLeave, .groupStateQueries]

def ofName? (text : String) : Option Operation :=
  all.find? (fun operation => operation.name == text)

/-- The reasons an operation may fail for; the first has code 1. -/
def catalogue : Operation → List Reason
  | .create =>
    [.missingArgument, .outOfMemory, .portAllocation, .proxyType, .proxyHost, .proxyPort,
      .proxyNotFound, .saveEncrypted, .saveMalformed]
  | .bootstrap => [.missingArgument, .bootstrapHost, .bootstrapPort]
  | .setInfo => [.missingArgument, .valueTooLong]
  | .getPort => [.portNotBound]
  | .friendAdd =>
    [.missingArgument, .messageTooLong, .noMessage, .ownKey, .alreadySent, .badChecksum,
      .nospamChanged, .outOfMemory]
  | .friendDelete => [.friendNotFound]
  | .friendByPublicKey => [.missingArgument, .keyNotFound]
  | .friendGetPublicKey => [.friendNotFound]
  | .setTyping => [.friendNotFound]
  | .friendSendMessage =>
    [.missingArgument, .friendNotFound, .friendNotConnected, .sendQueueFull, .messageTooLong,
      .messageEmpty]
  | .friendCustomPacket =>
    [.missingArgument, .friendNotFound, .friendNotConnected, .packetId, .packetEmpty,
      .packetTooLong, .sendQueueFull]
  | .fileControl =>
    [.friendNotFound, .friendNotConnected, .transferNotFound, .transferNotPaused, .pausedByPeer,
      .alreadyPaused, .sendQueueFull]
  | .fileSend =>
    [.missingArgument, .friendNotFound, .friendNotConnected, .nameTooLong, .tooManyTransfers]
  | .fileSendChunk =>
    [.missingArgument, .friendNotFound, .friendNotConnected, .transferNotFound,
      .transferNotRunning, .chunkLength, .sendQueueFull, .chunkPosition]
  | .groupSendMessage =>
    [.groupNotFound, .messageTooLong, .messageEmpty, .badMessageType, .permissions, .sendFailed]
  | .groupTopicSet => [.groupNotFound, .topicTooLong, .permissions, .sendFailed]
  | .groupLeave => [.groupNotFound, .partingTooLong, .sendFailed, .deletionFailed]
  | .groupStateQueries => [.groupNotFound]

/-- The reason a code stands for. -/
def reason? (operation : Operation) (code : UInt32) : Option Reason :=
  if code = 0 then none else operation.catalogue[code.toNat - 1]?

def code (operation : Operation) (reason : Reason) : UInt32 :=
  UInt32.ofNat (operation.catalogue.idxOf reason + 1)

end Operation

namespace Reason

/-- The name of a reason; different reasons may share it in different catalogues. -/
def name : Reason → String
  | .missingArgument => "Null"
  | .outOfMemory => "Malloc"
  | .portAllocation => "PortAlloc"
  | .proxyType => "ProxyBadType"
  | .proxyHost => "ProxyBadHost"
  | .proxyPort => "ProxyBadPort"
  | .proxyNotFound => "ProxyNotFound"
  | .saveEncrypted => "LoadEncrypted"
  | .saveMalformed => "LoadBadFormat"
  | .bootstrapHost => "BadHost"
  | .bootstrapPort => "BadPort"
  | .valueTooLong => "TooLong"
  | .portNotBound => "NotBound"
  | .messageTooLong => "TooLong"
  | .noMessage => "NoMessage"
  | .ownKey => "OwnKey"
  | .alreadySent => "AlreadySent"
  | .badChecksum => "BadChecksum"
  | .nospamChanged => "SetNewNospam"
  | .friendNotFound => "FriendNotFound"
  | .keyNotFound => "NotFound"
  | .friendNotConnected => "FriendNotConnected"
  | .sendQueueFull => "Sendq"
  | .messageEmpty => "Empty"
  | .packetId => "Invalid"
  | .packetEmpty => "Empty"
  | .packetTooLong => "TooLong"
  | .transferNotFound => "NotFound"
  | .transferNotPaused => "NotPaused"
  | .pausedByPeer => "Denied"
  | .alreadyPaused => "AlreadyPaused"
  | .nameTooLong => "NameTooLong"
  | .tooManyTransfers => "TooMany"
  | .transferNotRunning => "NotTransferring"
  | .chunkLength => "InvalidLength"
  | .chunkPosition => "WrongPosition"
  | .groupNotFound => "GroupNotFound"
  | .badMessageType => "BadType"
  | .permissions => "Permissions"
  | .sendFailed => "FailSend"
  | .topicTooLong => "TooLong"
  | .partingTooLong => "TooLong"
  | .deletionFailed => "DeleteFail"

def message : Reason → String
  | .missingArgument => "missing argument"
  | .outOfMemory => "out of memory"
  | .portAllocation => "port allocation failed"
  | .proxyType => "invalid proxy type"
  | .proxyHost => "invalid proxy host"
  | .proxyPort => "invalid proxy port"
  | .proxyNotFound => "proxy not found"
  | .saveEncrypted => "save data is encrypted"
  | .saveMalformed => "save data is malformed"
  | .bootstrapHost => "invalid bootstrap host"
  | .bootstrapPort => "invalid bootstrap port"
  | .valueTooLong => "value too long"
  | .portNotBound => "port not bound"
  | .messageTooLong => "message too long"
  | .noMessage => "message empty"
  | .ownKey => "cannot add own key"
  | .alreadySent => "friend request already sent"
  | .badChecksum => "address checksum mismatch"
  | .nospamChanged => "friend nospam changed"
  | .friendNotFound => "friend not found"
  | .keyNotFound => "friend not found"
  | .friendNotConnected => "friend not connected"
  | .sendQueueFull => "send queue full"
  | .messageEmpty => "message empty"
  | .packetId => "invalid packet id"
  | .packetEmpty => "packet empty"
  | .packetTooLong => "packet too long"
  | .transferNotFound => "file transfer not found"
  | .transferNotPaused => "file transfer not paused"
  | .pausedByPeer => "file transfer paused by peer"
  | .alreadyPaused => "file transfer already paused"
  | .nameTooLong => "filename too long"
  | .tooManyTransfers => "too many file transfers"
  | .transferNotRunning => "file transfer not running"
  | .chunkLength => "invalid chunk length"
  | .chunkPosition => "wrong chunk position"
  | .groupNotFound => "group not found"
  | .badMessageType => "invalid message type"
  | .permissions => "insufficient permissions"
  | .sendFailed => "send failed"
  | .topicTooLong => "topic too long"
  | .partingTooLong => "parting message too long"
  | .deletionFailed => "group deletion failed"

end Reason

/-- A failure an operation reported: the operation and its reason. -/
structure Failure where
  operation : Operation
  reason : Reason
  deriving DecidableEq, Repr

def Failure.code (failure : Failure) : UInt32 := failure.operation.code failure.reason

/-- The code of a reason in the catalogue stands for that reason. -/
theorem Operation.reason?_code (operation : Operation) :
    ∀ reason ∈ operation.catalogue, operation.reason? (operation.code reason) = some reason := by
  cases operation <;> decide

end Switchboard
