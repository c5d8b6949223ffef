import Switchboard.Engine
import Switchboard.Failure
/-!
# The simulated engine

An engine that lives in memory: it keeps friends, groups and a profile, fails with the codes real
engines fail with, fires the notifications it was scripted to fire, and remembers what it was told.
An operation can be made to fail once, whatever it is asked.
-/

namespace Switchboard

/-- File data the engine was given; data sent by index has no position. -/
structure SentChunk where
  friend : UInt32
  file : UInt32
  position : Option UInt64
  data : Bytes
  deriving DecidableEq, Repr

/-- A control the engine was given for a file it knows by index. -/
structure SentControl where
  friend : UInt32
  side : UInt8
  index : UInt8
  control : UInt8
  deriving DecidableEq, Repr

structure SimulatedEngine where
  /-- Engines are told apart by number. -/
  number : Nat
  addressing : Addressing
  savedata : Bytes
  /-- What the next pass fires. -/
  script : List Signal := []
  /-- Operations that fail the next time, with their codes. -/
  failures : List (Operation × UInt32) := []
  registered : List NotificationKind := []
  iterations : Nat := 0
  name : Bytes := []
  statusMessage : Bytes := []
  status : UInt32 := 0
  bootstrapNodes : List (String × UInt16) := []
  friends : Keyed UInt32 PublicKey := []
  nextFriend : UInt32 := 0
  nextMessage : UInt32 := 0
  nextFile : UInt32 := 0
  /-- The topics of the groups. -/
  groups : Keyed UInt32 Bytes := []
  nextGroup : UInt32 := 0
  fileControls : List (UInt32 × UInt32 × UInt32) := []
  legacyControls : List SentControl := []
  chunks : List SentChunk := []
  messages : List (UInt32 × UInt32 × Bytes) := []
  deriving DecidableEq, Repr

namespace SimulatedEngine

/-! ## Limits and constants -/

/-- The milliseconds the engine wants to wait between passes. -/
def interval : Nat := 50

def boundPort : UInt16 := 33445

def maxName : Nat := 128

def maxStatusMessage : Nat := 1007

def maxMessage : Nat := 1372

def maxFileName : Nat := 255

/-- The first byte of a lossless packet. -/
def isPacketId (id : UInt8) : Bool := 160 ≤ id && id ≤ 191

/-! ## Making engines -/

/-- An engine with its own number. It restores a saved state it is given, and else has a state of
its own that shows the number. -/
def make (number : Nat) (addressing : Addressing) (settings : EngineSettings) :
    SimulatedEngine where
  number := number
  addressing := addressing
  savedata :=
    if settings.savedataType = 1 then settings.savedata
    else ("toxlink-sim/" ++ toString number).toUTF8.toList

/-! ## From outside -/

def notify (signal : Signal) (engine : SimulatedEngine) : SimulatedEngine :=
  { engine with script := engine.script ++ [signal] }

def failNext (operation : Operation) (code : UInt32) (engine : SimulatedEngine) :
    SimulatedEngine :=
  { engine with
    failures := (operation, code) :: engine.failures.filter (·.1 ≠ operation) }

/-- Add a friend, unless one has that key. -/
def addFriend (key : PublicKey) (engine : SimulatedEngine) : Reported UInt32 × SimulatedEngine :=
  if engine.friends.any (·.2 = key) then
    (.error (Operation.friendAdd.code .alreadySent), engine)
  else
    (.ok engine.nextFriend,
      { engine with
        friends := Keyed.put engine.nextFriend key engine.friends
        nextFriend := engine.nextFriend + 1 })

def addGroup (topic : Bytes) (engine : SimulatedEngine) : UInt32 × SimulatedEngine :=
  (engine.nextGroup,
    { engine with
      groups := Keyed.put engine.nextGroup topic engine.groups
      nextGroup := engine.nextGroup + 1 })

def friendWithKey? (key : PublicKey) (engine : SimulatedEngine) : Option UInt32 :=
  (engine.friends.find? (·.2 = key)).map (·.1)

/-! ## Answering calls -/

/-- Take the failure an operation was made to fail with. -/
def takeFailure (operation : Operation) (engine : SimulatedEngine) :
    Option UInt32 × SimulatedEngine :=
  match engine.failures.find? (·.1 = operation) with
  | some (_, code) =>
    (some code, { engine with failures := engine.failures.filter (·.1 ≠ operation) })
  | none => (none, engine)

/-- Answer for an operation, unless it was made to fail. -/
def report {α : Type} (operation : Operation) (engine : SimulatedEngine)
    (answer : SimulatedEngine → Reported α × SimulatedEngine) :
    Option (Reported α) × SimulatedEngine :=
  match engine.takeFailure operation with
  | (some code, engine) => (some (.error code), engine)
  | (none, engine) => (some (answer engine).1, (answer engine).2)

/-- A failure for one of the operation's reasons. -/
def refusal {α : Type} (operation : Operation) (reason : Reason) : Reported α :=
  .error (operation.code reason)

/-- Remember a message, under the next message number. -/
def sendMessage (target type : UInt32) (message : Bytes) (engine : SimulatedEngine) :
    Reported UInt32 × SimulatedEngine :=
  (.ok engine.nextMessage,
    { engine with
      messages := engine.messages ++ [(target, type, message)]
      nextMessage := engine.nextMessage + 1 })

def answer (call : Call) (engine : SimulatedEngine) : Option call.Answer × SimulatedEngine :=
  match call with
  | .addressing => (some engine.addressing, engine)
  | .register kind => (some (), { engine with registered := engine.registered ++ [kind] })
  | .iterate =>
    (some (Fired.ofScript engine.script),
      { engine with iterations := engine.iterations + 1, script := [] })
  | .iterationInterval => (some interval, engine)
  | .savedataSize => (some engine.savedata.length, engine)
  | .savedata room => (some (Bytes.fill engine.savedata room), engine)
  | .bootstrap host port _ =>
    report .bootstrap engine fun engine =>
      if host = "" then (refusal .bootstrap .bootstrapHost, engine)
      else (.ok (), { engine with bootstrapNodes := engine.bootstrapNodes ++ [(host, port)] })
  | .udpPort => report .getPort engine fun engine => (.ok boundPort, engine)
  | .setName name =>
    report .setInfo engine fun engine =>
      if maxName < name.length then (refusal .setInfo .valueTooLong, engine)
      else (.ok (), { engine with name := name })
  | .selfNameSize => (some engine.name.length, engine)
  | .selfName room => (some (Bytes.fill engine.name room), engine)
  | .setStatusMessage message =>
    report .setInfo engine fun engine =>
      if maxStatusMessage < message.length then (refusal .setInfo .valueTooLong, engine)
      else (.ok (), { engine with statusMessage := message })
  | .setStatus status => (some (), { engine with status := status })
  | .status => (some engine.status, engine)
  | .friendAdd address message =>
    report .friendAdd engine fun engine =>
      if message = [] then (refusal .friendAdd .noMessage, engine)
      else if maxMessage < message.length then (refusal .friendAdd .messageTooLong, engine)
      else engine.addFriend (Address.publicKey address)
  | .friendAddNorequest key => report .friendAdd engine fun engine => engine.addFriend key
  | .friendDelete friend =>
    report .friendDelete engine fun engine =>
      match Keyed.get? friend engine.friends with
      | some _ => (.ok (), { engine with friends := Keyed.erase friend engine.friends })
      | none => (refusal .friendDelete .friendNotFound, engine)
  | .friendByPublicKey key =>
    report .friendByPublicKey engine fun engine =>
      match engine.friendWithKey? key with
      | some friend => (.ok friend, engine)
      | none => (refusal .friendByPublicKey .keyNotFound, engine)
  | .friendPublicKey friend =>
    report .friendGetPublicKey engine fun engine =>
      match Keyed.get? friend engine.friends with
      | some key => (.ok key, engine)
      | none => (refusal .friendGetPublicKey .friendNotFound, engine)
  | .setTyping friend _ =>
    report .setTyping engine fun engine =>
      match Keyed.get? friend engine.friends with
      | some _ => (.ok (), engine)
      | none => (refusal .setTyping .friendNotFound, engine)
  | .friendSendMessage friend type message =>
    report .friendSendMessage engine fun engine =>
      match Keyed.get? friend engine.friends with
      | none => (refusal .friendSendMessage .friendNotFound, engine)
      | some _ =>
        if message = [] then (refusal .friendSendMessage .messageEmpty, engine)
        else if maxMessage < message.length then
          (refusal .friendSendMessage .messageTooLong, engine)
        else engine.sendMessage friend type message
  | .friendSendLosslessPacket friend data =>
    report .friendCustomPacket engine fun engine =>
      match Keyed.get? friend engine.friends, data with
      | none, _ => (refusal .friendCustomPacket .friendNotFound, engine)
      | some _, [] => (refusal .friendCustomPacket .packetEmpty, engine)
      | some _, id :: _ =>
        if !isPacketId id then (refusal .friendCustomPacket .packetId, engine)
        else if maxMessage < data.length then (refusal .friendCustomPacket .packetTooLong, engine)
        else (.ok (), engine)
  | .fileSend friend _ _ name =>
    report .fileSend engine fun engine =>
      match Keyed.get? friend engine.friends with
      | none => (refusal .fileSend .friendNotFound, engine)
      | some _ =>
        if maxFileName < name.length then (refusal .fileSend .nameTooLong, engine)
        else (.ok engine.nextFile, { engine with nextFile := engine.nextFile + 1 })
  | .fileControl friend file control =>
    report .fileControl engine fun engine =>
      match Keyed.get? friend engine.friends with
      | none => (refusal .fileControl .friendNotFound, engine)
      | some _ =>
        (.ok (), { engine with fileControls := engine.fileControls ++ [(friend, file, control)] })
  | .fileSendChunk friend file position data =>
    report .fileSendChunk engine fun engine =>
      match Keyed.get? friend engine.friends with
      | none => (refusal .fileSendChunk .friendNotFound, engine)
      | some _ =>
        (.ok (), { engine with chunks := engine.chunks ++ [⟨friend, file, some position, data⟩] })
  | .legacyFileControl friend side index control =>
    report .fileControl engine fun engine =>
      (.ok (),
        { engine with legacyControls := engine.legacyControls ++ [⟨friend, side, index, control⟩] })
  | .legacyFileData friend index data =>
    report .fileSendChunk engine fun engine =>
      (.ok (),
        { engine with chunks := engine.chunks ++ [⟨friend, index.toUInt32, none, data⟩] })
  | .groupSendMessage group type message =>
    report .groupSendMessage engine fun engine =>
      match Keyed.get? group engine.groups with
      | none => (refusal .groupSendMessage .groupNotFound, engine)
      | some _ =>
        if maxMessage < message.length then (refusal .groupSendMessage .messageTooLong, engine)
        else engine.sendMessage group type message
  | .groupSetTopic group topic =>
    report .groupTopicSet engine fun engine =>
      match Keyed.get? group engine.groups with
      | none => (refusal .groupTopicSet .groupNotFound, engine)
      | some _ => (.ok (), { engine with groups := Keyed.put group topic engine.groups })
  | .groupTopicSize group =>
    report .groupStateQueries engine fun engine =>
      match Keyed.get? group engine.groups with
      | some topic => (.ok topic.length, engine)
      | none => (refusal .groupStateQueries .groupNotFound, engine)
  | .groupTopic group room =>
    match Keyed.get? group engine.groups with
    | some topic => (some (.ok (Bytes.fill topic room)), engine)
    | none => (some (refusal .groupStateQueries .groupNotFound), engine)
  | .groupLeave group _ =>
    report .groupLeave engine fun engine =>
      match Keyed.get? group engine.groups with
      | some _ => (.ok (), { engine with groups := Keyed.erase group engine.groups })
      | none => (refusal .groupLeave .groupNotFound, engine)

instance : Engine SimulatedEngine where
  perform := answer

end SimulatedEngine

end Switchboard
