import Switchboard.Notification
import Switchboard.Options
/-!
# Engines

A messaging engine, seen from outside: a state that answers calls. The calls are data, each with
the type of its answer, so that what holds for every engine is said once, for `Engine.perform`. A
call that can fail answers with a raw code. Any call may panic.
-/

namespace Switchboard

/-- How an engine numbers files. -/
inductive Addressing where
  /-- One number space of 32 bits for both directions. -/
  | unified
  /-- Eight bits for each direction. -/
  | legacy
  deriving DecidableEq, Repr

inductive Call where
  | addressing
  | register (kind : NotificationKind)
  | iterate
  | iterationInterval
  | savedataSize
  /-- Calls that give bytes take the room to write them to and answer with what is in it then. -/
  | savedata (room : Bytes)
  | bootstrap (host : String) (port : UInt16) (key : PublicKey)
  | udpPort
  | setName (name : Bytes)
  | selfNameSize
  | selfName (room : Bytes)
  | setStatusMessage (message : Bytes)
  | setStatus (status : UInt32)
  | status
  | friendAdd (address : Address) (message : Bytes)
  | friendAddNorequest (key : PublicKey)
  | friendDelete (friend : UInt32)
  | friendByPublicKey (key : PublicKey)
  | friendPublicKey (friend : UInt32)
  | setTyping (friend : UInt32) (isTyping : Bool)
  | friendSendMessage (friend type : UInt32) (message : Bytes)
  | friendSendLosslessPacket (friend : UInt32) (data : Bytes)
  | fileSend (friend kind : UInt32) (size : UInt64) (name : Bytes)
  | fileControl (friend file control : UInt32)
  | fileSendChunk (friend file : UInt32) (position : UInt64) (data : Bytes)
  | legacyFileControl (friend : UInt32) (side index control : UInt8)
  | legacyFileData (friend : UInt32) (index : UInt8) (data : Bytes)
  | groupSendMessage (group type : UInt32) (message : Bytes)
  | groupSetTopic (group : UInt32) (topic : Bytes)
  | groupTopicSize (group : UInt32)
  | groupTopic (group : UInt32) (room : Bytes)
  | groupLeave (group : UInt32) (message : Bytes)
  deriving DecidableEq, Repr

/-- An answer, or the code of a failure. -/
abbrev Reported (α : Type) := Except UInt32 α

/-- The type of the answer to a call. -/
@[reducible]
def Call.Answer : Call → Type
  | .addressing => Addressing
  | .register _ => Unit
  | .iterate => Fired
  | .iterationInterval => Nat
  | .savedataSize => Nat
  | .savedata _ => Bytes
  | .bootstrap _ _ _ => Reported Unit
  | .udpPort => Reported UInt16
  | .setName _ => Reported Unit
  | .selfNameSize => Nat
  | .selfName _ => Bytes
  | .setStatusMessage _ => Reported Unit
  | .setStatus _ => Unit
  | .status => UInt32
  | .friendAdd _ _ => Reported UInt32
  | .friendAddNorequest _ => Reported UInt32
  | .friendDelete _ => Reported Unit
  | .friendByPublicKey _ => Reported UInt32
  | .friendPublicKey _ => Reported PublicKey
  | .setTyping _ _ => Reported Unit
  | .friendSendMessage _ _ _ => Reported UInt32
  | .friendSendLosslessPacket _ _ => Reported Unit
  | .fileSend _ _ _ _ => Reported UInt32
  | .fileControl _ _ _ => Reported Unit
  | .fileSendChunk _ _ _ _ => Reported Unit
  | .legacyFileControl _ _ _ _ => Reported Unit
  | .legacyFileData _ _ _ => Reported Unit
  | .groupSendMessage _ _ _ => Reported UInt32
  | .groupSetTopic _ _ => Reported Unit
  | .groupTopicSize _ => Reported Nat
  | .groupTopic _ _ => Reported Bytes
  | .groupLeave _ _ => Reported Unit

/-- A type of engine states. -/
class Engine (ε : Type) where
  /-- The answer to a call and the state after it. There is no answer if the call panics. -/
  perform : (call : Call) → ε → Option call.Answer × ε

/-- A type of factory states whose factories make engines of type `ε`. -/
class Factory (φ ε : Type) where
  /-- Make an engine, or fail with a code. -/
  create : EngineSettings → φ → Reported ε × φ

end Switchboard
