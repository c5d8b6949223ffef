import Switchboard.Json
import Switchboard.Notification
import Switchboard.Text.Hex
/-!
# Notifications as JSON

A notification is written as the array of its name and its values, bytes among them as hexadecimal
text.
-/

namespace Switchboard

open Switchboard.Json (ofUInt8 ofUInt32 ofUInt64)

/-- Bytes as a string of hexadecimal digits. -/
def Json.ofHex (bytes : Bytes) : Json := .string (String.ofList (Hex.write bytes))

namespace Notification

open Switchboard.Json (ofHex)

def values : Notification → List Json
  | .selfConnectionStatus a | .groupPeerlistUpdate a | .groupSelfJoin a => [ofUInt32 a]
  | .friendStatus a b | .friendConnectionStatus a b | .friendReadReceipt a b
  | .groupPrivacyState a b | .groupPeerLimit a b | .groupPeerJoin a b | .groupJoinFail a b =>
    [ofUInt32 a, ofUInt32 b]
  | .fileRecvControl a b c | .groupPeerStatus a b c => [ofUInt32 a, ofUInt32 b, ofUInt32 c]
  | .friendName a b | .friendStatusMessage a b | .friendLossyPacket a b
  | .friendLosslessPacket a b | .groupPassword a b | .groupInvite a b => [ofUInt32 a, ofHex b]
  | .friendMessage a b c | .groupPeerName a b c | .groupTopic a b c | .groupPrivateMessage a b c
  | .groupPeerExit a b c => [ofUInt32 a, ofUInt32 b, ofHex c]
  | .friendTyping a b => [ofUInt32 a, .bool b]
  | .friendRequest a b => [ofHex a.bytes, ofHex b]
  | .fileRecv a b c d e => [ofUInt32 a, ofUInt32 b, ofUInt32 c, ofUInt64 d, ofHex e]
  | .fileChunkRequest a b c d => [ofUInt32 a, ofUInt32 b, ofUInt64 c, ofUInt64 d]
  | .fileRecvChunk a b c d => [ofUInt32 a, ofUInt32 b, ofUInt64 c, ofHex d]
  | .groupMessage a b c d => [ofUInt32 a, ofUInt32 b, ofUInt32 c, ofHex d]
  | .groupModeration a b c d => [ofUInt32 a, ofUInt32 b, ofUInt32 c, ofUInt32 d]
  | .legacyFileSendRequest a b c d => [ofUInt32 a, ofUInt8 b, ofUInt64 c, ofHex d]
  | .legacyFileControl a b c d => [ofUInt32 a, ofUInt8 b, ofUInt8 c, ofUInt8 d]
  | .legacyFileData a b c => [ofUInt32 a, ofUInt8 b, ofHex c]

def toJson (notification : Notification) : Json :=
  .array (.string notification.kind.name :: notification.values)

end Notification

end Switchboard
