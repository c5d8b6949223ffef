import Switchboard.Event.Queue
import Switchboard.Json.Field
import Switchboard.Json.Reader
import Switchboard.Json.Writer
import Switchboard.Time.Text
/-!
# Events as JSON

An event is the object of its kind, under `type`, and its fields. It is read from an object whose
members may come in any order, or from the array of its kind and fields. An envelope and a batch
are records like any other.
-/

namespace Switchboard

open Switchboard.Json (ofUInt8 ofUInt32 ofUInt64 ofBytes)

/-- A value of a closed table is written as its name. -/
def Json.ofChoice {α : Type} [Enumerated α] (value : α) : Json := .string (Enumerated.name value)

def Json.ofFileId (id : FileId) : Json := ofUInt32 id.raw

def Json.fileId? (value : Json) : Option FileId := value.uint32?.map FileId.mk

namespace EventKind

/-- The kind in one word, with a capital wherever a word begins. -/
def title : EventKind → String
  | .selfConnectionStatus => "SelfConnectionStatus"
  | .friendName => "FriendName"
  | .friendStatusMessage => "FriendStatusMessage"
  | .friendStatus => "FriendStatus"
  | .friendConnectionStatus => "FriendConnectionStatus"
  | .friendTyping => "FriendTyping"
  | .friendReadReceipt => "FriendReadReceipt"
  | .friendRequest => "FriendRequest"
  | .friendMessage => "FriendMessage"
  | .friendLossyPacket => "FriendLossyPacket"
  | .friendLosslessPacket => "FriendLosslessPacket"
  | .fileRecv => "FileRecv"
  | .fileRecvControl => "FileRecvControl"
  | .fileChunkRequest => "FileChunkRequest"
  | .fileRecvChunk => "FileRecvChunk"
  | .groupPeerName => "GroupPeerName"
  | .groupPeerStatus => "GroupPeerStatus"
  | .groupTopic => "GroupTopic"
  | .groupPrivacyState => "GroupPrivacyState"
  | .groupPeerLimit => "GroupPeerLimit"
  | .groupPassword => "GroupPassword"
  | .groupPeerlistUpdate => "GroupPeerlistUpdate"
  | .groupMessage => "GroupMessage"
  | .groupPrivateMessage => "GroupPrivateMessage"
  | .groupInvite => "GroupInvite"
  | .groupPeerJoin => "GroupPeerJoin"
  | .groupPeerExit => "GroupPeerExit"
  | .groupSelfJoin => "GroupSelfJoin"
  | .groupJoinFail => "GroupJoinFail"
  | .groupModeration => "GroupModeration"

/-- A word in lower case, with an underscore before each capital but the first letter. -/
def snakeCase : List Char → List Char
  | [] => []
  | first :: rest =>
    first.toLower :: rest.flatMap fun letter =>
      if letter.isUpper then ['_', letter.toLower] else [letter]

/-- The name of the kind in a text. It is made from the title, and not looked up. -/
def tag (kind : EventKind) : String := String.ofList (snakeCase kind.title.toList)

def ofTag? (tag : String) : Option EventKind :=
  (Enumerated.all : List EventKind).find? fun kind => kind.tag == tag

end EventKind

namespace Event

open Switchboard.Json (ofChoice ofFileId)

def fieldValues : Event → List Json
  | .selfConnectionStatus status => [ofChoice status]
  | .friendName friend name => [ofUInt32 friend, ofBytes name]
  | .friendStatusMessage friend message => [ofUInt32 friend, ofBytes message]
  | .friendStatus friend status => [ofUInt32 friend, ofChoice status]
  | .friendConnectionStatus friend status => [ofUInt32 friend, ofChoice status]
  | .friendTyping friend isTyping => [ofUInt32 friend, .bool isTyping]
  | .friendReadReceipt friend message => [ofUInt32 friend, ofUInt32 message]
  | .friendRequest key message => [ofBytes key.bytes, ofBytes message]
  | .friendMessage friend type message => [ofUInt32 friend, ofChoice type, ofBytes message]
  | .friendLossyPacket friend data => [ofUInt32 friend, ofBytes data]
  | .friendLosslessPacket friend data => [ofUInt32 friend, ofBytes data]
  | .fileRecv friend file kind size name =>
    [ofUInt32 friend, ofFileId file, ofUInt32 kind, ofUInt64 size, ofBytes name]
  | .fileRecvControl friend file control => [ofUInt32 friend, ofFileId file, ofChoice control]
  | .fileChunkRequest friend file position length =>
    [ofUInt32 friend, ofFileId file, ofUInt64 position, ofUInt64 length]
  | .fileRecvChunk friend file position data =>
    [ofUInt32 friend, ofFileId file, ofUInt64 position, ofBytes data]
  | .groupPeerName group peer name => [ofUInt32 group, ofUInt32 peer, ofBytes name]
  | .groupPeerStatus group peer status => [ofUInt32 group, ofUInt32 peer, ofChoice status]
  | .groupTopic group peer topic => [ofUInt32 group, ofUInt32 peer, ofBytes topic]
  | .groupPrivacyState group state => [ofUInt32 group, ofChoice state]
  | .groupPeerLimit group limit => [ofUInt32 group, ofUInt32 limit]
  | .groupPassword group password => [ofUInt32 group, ofBytes password]
  | .groupPeerlistUpdate group => [ofUInt32 group]
  | .groupMessage group peer type message =>
    [ofUInt32 group, ofUInt32 peer, ofChoice type, ofBytes message]
  | .groupPrivateMessage group peer message => [ofUInt32 group, ofUInt32 peer, ofBytes message]
  | .groupInvite friend invite => [ofUInt32 friend, ofBytes invite]
  | .groupPeerJoin group peer => [ofUInt32 group, ofUInt32 peer]
  | .groupPeerExit group peer message => [ofUInt32 group, ofUInt32 peer, ofBytes message]
  | .groupSelfJoin group => [ofUInt32 group]
  | .groupJoinFail group failure => [ofUInt32 group, ofChoice failure]
  | .groupModeration group source target act =>
    [ofUInt32 group, ofUInt32 source, ofUInt32 target, ofChoice act]

def ofFieldValues? : EventKind → List Json → Option Event
  | .selfConnectionStatus, [a] => return .selfConnectionStatus (← a.looseChoice?)
  | .friendName, [a, b] => return .friendName (← a.uint32?) (← b.bytes?)
  | .friendStatusMessage, [a, b] => return .friendStatusMessage (← a.uint32?) (← b.bytes?)
  | .friendStatus, [a, b] => return .friendStatus (← a.uint32?) (← b.looseChoice?)
  | .friendConnectionStatus, [a, b] =>
    return .friendConnectionStatus (← a.uint32?) (← b.looseChoice?)
  | .friendTyping, [a, b] => return .friendTyping (← a.uint32?) (← b.flag?)
  | .friendReadReceipt, [a, b] => return .friendReadReceipt (← a.uint32?) (← b.uint32?)
  | .friendRequest, [a, b] => return .friendRequest (← a.block? 32) (← b.bytes?)
  | .friendMessage, [a, b, c] =>
    return .friendMessage (← a.uint32?) (← b.looseChoice?) (← c.bytes?)
  | .friendLossyPacket, [a, b] => return .friendLossyPacket (← a.uint32?) (← b.bytes?)
  | .friendLosslessPacket, [a, b] => return .friendLosslessPacket (← a.uint32?) (← b.bytes?)
  | .fileRecv, [a, b, c, d, e] =>
    return .fileRecv (← a.uint32?) (← b.fileId?) (← c.uint32?) (← d.uint64?) (← e.bytes?)
  | .fileRecvControl, [a, b, c] =>
    return .fileRecvControl (← a.uint32?) (← b.fileId?) (← c.looseChoice?)
  | .fileChunkRequest, [a, b, c, d] =>
    return .fileChunkRequest (← a.uint32?) (← b.fileId?) (← c.uint64?) (← d.uint64?)
  | .fileRecvChunk, [a, b, c, d] =>
    return .fileRecvChunk (← a.uint32?) (← b.fileId?) (← c.uint64?) (← d.bytes?)
  | .groupPeerName, [a, b, c] => return .groupPeerName (← a.uint32?) (← b.uint32?) (← c.bytes?)
  | .groupPeerStatus, [a, b, c] =>
    return .groupPeerStatus (← a.uint32?) (← b.uint32?) (← c.looseChoice?)
  | .groupTopic, [a, b, c] => return .groupTopic (← a.uint32?) (← b.uint32?) (← c.bytes?)
  | .groupPrivacyState, [a, b] => return .groupPrivacyState (← a.uint32?) (← b.looseChoice?)
  | .groupPeerLimit, [a, b] => return .groupPeerLimit (← a.uint32?) (← b.uint32?)
  | .groupPassword, [a, b] => return .groupPassword (← a.uint32?) (← b.bytes?)
  | .groupPeerlistUpdate, [a] => return .groupPeerlistUpdate (← a.uint32?)
  | .groupMessage, [a, b, c, d] =>
    return .groupMessage (← a.uint32?) (← b.uint32?) (← c.looseChoice?) (← d.bytes?)
  | .groupPrivateMessage, [a, b, c] =>
    return .groupPrivateMessage (← a.uint32?) (← b.uint32?) (← c.bytes?)
  | .groupInvite, [a, b] => return .groupInvite (← a.uint32?) (← b.bytes?)
  | .groupPeerJoin, [a, b] => return .groupPeerJoin (← a.uint32?) (← b.uint32?)
  | .groupPeerExit, [a, b, c] => return .groupPeerExit (← a.uint32?) (← b.uint32?) (← c.bytes?)
  | .groupSelfJoin, [a] => return .groupSelfJoin (← a.uint32?)
  | .groupJoinFail, [a, b] => return .groupJoinFail (← a.uint32?) (← b.looseChoice?)
  | .groupModeration, [a, b, c, d] =>
    return .groupModeration (← a.uint32?) (← b.uint32?) (← c.uint32?) (← d.looseChoice?)
  | _, _ => none

def toJson (event : Event) : Json :=
  .object (("type", .string event.kind.tag) :: event.kind.fieldNames.zip event.fieldValues)

/-- Read an event from its fields, given as an object or an array. -/
def ofFields? (kind : EventKind) (fields : Json) : Option Event :=
  (fields.allFields? kind.fieldNames).bind (ofFieldValues? kind)

/-- Read an event. All of it is looked at, members of other names included, so nothing in it may be
unreadable. -/
def ofJson? (value : Json) : Option Event :=
  if !value.readable then none
  else match value with
    | .object members =>
      match Json.member? members "type" with
      | some (some (.string name)) =>
        (EventKind.ofTag? name).bind fun kind =>
          ofFields? kind (.object (members.filter (·.1 != "type")))
      | _ => none
    | .array (.string name :: items) =>
      (EventKind.ofTag? name).bind fun kind => ofFields? kind (.array items)
    | _ => none

end Event

namespace Envelope

def fieldNames : List String := ["seq", "timestamp", "event"]

def toJson (envelope : Envelope) : Json :=
  .object (fieldNames.zip
    [ofUInt64 envelope.seq, .string (String.ofList envelope.timestamp.write),
      envelope.event.toJson])

def ofJson? (value : Json) : Option Envelope := do
  match ← value.allFields? fieldNames with
  | [seq, timestamp, event] =>
    return ⟨← seq.uint64?, ← Timestamp.read (← timestamp.text?).toList, ← Event.ofJson? event⟩
  | _ => none

end Envelope

namespace Batch

def toJson (batch : Batch) : Json :=
  .object [("events", .array (batch.envelopes.map Envelope.toJson))]

def ofJson? (value : Json) : Option Batch := do
  match ← value.allFields? ["events"] with
  | [.array items] => return ⟨← items.mapM Envelope.ofJson?⟩
  | _ => none

def encode (batch : Batch) : List Char := batch.toJson.write

def decode (text : List Char) : Option Batch := (Json.parse text).bind ofJson?

end Batch

namespace Event

def encode (event : Event) : List Char := event.toJson.write

def decode (text : List Char) : Option Event := (Json.parse text).bind ofJson?

end Event

end Switchboard
