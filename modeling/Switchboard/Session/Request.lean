import Switchboard.Session.Pass
/-!
# Requests

What a caller may ask of a session. A request is checked as far as it can be without the engine,
then the engine is called, and the code of a failure is looked up in the operation's catalogue: a
documented code is the caller's failure, any other disables the session.
-/

namespace Switchboard

namespace HeldSession

variable {ε α : Type}

/-- Refuse a request without asking the engine. -/
def refuse (operation : Operation) (reason : Reason) : Held ε α :=
  Run.fail (.failed ⟨operation, reason⟩)

def accept (operation : Operation) : Reported α → Held ε α
  | .ok value => pure value
  | .error code =>
    match operation.reason? code with
    | some reason => do
      log .debug "engine reported failure"
        [("operation", .text operation.name), ("error", .text reason.message)]
      refuse operation reason
    | none => poison (.unexpectedCode operation.name code)

variable [Engine ε]

def room (size : Nat) : Bytes := List.replicate size 0

/-- How many milliseconds the engine wants to wait for its next pass. -/
def iterationInterval : Held ε Nat := call .iterationInterval

/-- The engine's state, as it would be saved. -/
def save : Held ε Bytes := do
  let size ← call .savedataSize
  call (.savedata (room size))

def bootstrap (host : String) (port : UInt32) (key : PublicKey) : Held ε Unit :=
  if host = "" then refuse .bootstrap .bootstrapHost
  else if port = 0 ∨ 65536 ≤ port.toNat then refuse .bootstrap .bootstrapPort
  else call (.bootstrap host port.toUInt16 key) >>= accept .bootstrap

def udpPort : Held ε UInt16 := call .udpPort >>= accept .getPort

def setName (name : Bytes) : Held ε Unit := call (.setName name) >>= accept .setInfo

def getName : Held ε Bytes := do
  let size ← call .selfNameSize
  call (.selfName (room size))

def setStatusMessage (message : Bytes) : Held ε Unit :=
  call (.setStatusMessage message) >>= accept .setInfo

def setStatus (status : UserStatus) : Held ε Unit := call (.setStatus (Enumerated.number status))

def getStatus : Held ε UserStatus := do
  match Notification.fromTable "user_status" (← call .status) with
  | .ok status => pure status
  | .error violation => poison violation

def friendAdd (address : Address) (message : Bytes) : Held ε UInt32 :=
  if message = [] then refuse .friendAdd .noMessage
  else call (.friendAdd address message) >>= accept .friendAdd

def friendAddNorequest (key : PublicKey) : Held ε UInt32 :=
  call (.friendAddNorequest key) >>= accept .friendAdd

def friendDelete (friend : UInt32) : Held ε Unit :=
  call (.friendDelete friend) >>= accept .friendDelete

def friendByPublicKey (key : PublicKey) : Held ε UInt32 :=
  call (.friendByPublicKey key) >>= accept .friendByPublicKey

def friendGetPublicKey (friend : UInt32) : Held ε PublicKey :=
  call (.friendPublicKey friend) >>= accept .friendGetPublicKey

def setTyping (friend : UInt32) (isTyping : Bool) : Held ε Unit :=
  call (.setTyping friend isTyping) >>= accept .setTyping

def friendSendMessage (friend : UInt32) (type : MessageType) (message : Bytes) : Held ε UInt32 :=
  if message = [] then refuse .friendSendMessage .messageEmpty
  else
    call (.friendSendMessage friend (Enumerated.number type) message) >>= accept .friendSendMessage

def friendSendLosslessPacket (friend : UInt32) (data : Bytes) : Held ε Unit :=
  if data = [] then refuse .friendCustomPacket .packetEmpty
  else call (.friendSendLosslessPacket friend data) >>= accept .friendCustomPacket

/-- Offer a file. With a transfer table, the number the engine chose is an index. -/
def fileSend (friend kind : UInt32) (size : UInt64) (name : Bytes) : Held ε FileId := do
  let number ← call (.fileSend friend kind size name) >>= accept .fileSend
  match (← Run.get).transfers with
  | none => pure ⟨number⟩
  | some table =>
    match table.localSend friend number size with
    | .error violation => poison violation
    | .ok (file, table) => do
      updateTransfers fun _ => table
      log .debug "file transfer offered"
        [("friend_number", .number friend.toNat), ("file_id", .text file.text),
          ("file_size", .number size.toNat)]
      pure file

def fileControl (friend : UInt32) (file : FileId) (control : FileControl) : Held ε Unit := do
  match (← Run.get).transfers with
  | none =>
    call (.fileControl friend file.raw (Enumerated.number control)) >>= accept .fileControl
  | some table =>
    match table.resolveControl friend file control with
    | .error reason => refuse .fileControl reason
    | .ok told => do
      call (.legacyFileControl told.friend told.side told.index told.control) >>=
        accept .fileControl
      updateTransfers (·.commitControl friend file control)

/-- Send the chunk of a file that starts at `position`. With a transfer table, an empty chunk is
taken without telling the engine. -/
def fileSendChunk (friend : UInt32) (file : FileId) (position : UInt64) (data : Bytes) :
    Held ε Unit := do
  match (← Run.get).transfers with
  | none => call (.fileSendChunk friend file.raw position data) >>= accept .fileSendChunk
  | some table =>
    let length := UInt64.ofNat data.length
    match table.resolveChunk friend file position length with
    | .error reason => refuse .fileSendChunk reason
    | .ok index => do
      if data = [] then pure ()
      else call (.legacyFileData friend index data) >>= accept .fileSendChunk
      updateTransfers (·.commitChunk friend file length)

def groupSendMessage (group : UInt32) (type : MessageType) (message : Bytes) : Held ε UInt32 :=
  if message = [] then refuse .groupSendMessage .messageEmpty
  else
    call (.groupSendMessage group (Enumerated.number type) message) >>= accept .groupSendMessage

def groupSetTopic (group : UInt32) (topic : Bytes) : Held ε Unit :=
  call (.groupSetTopic group topic) >>= accept .groupTopicSet

def groupGetTopic (group : UInt32) : Held ε Bytes := do
  let size ← call (.groupTopicSize group) >>= accept .groupStateQueries
  call (.groupTopic group (room size)) >>= accept .groupStateQueries

def groupLeave (group : UInt32) (message : Bytes) : Held ε Unit :=
  call (.groupLeave group message) >>= accept .groupLeave

end HeldSession

/-! ## Requests as data -/

inductive Request where
  | iterate
  | invoke (fired : Fired)
  | iterationInterval
  | save
  | bootstrap (host : String) (port : UInt32) (key : PublicKey)
  | udpPort
  | setName (name : Bytes)
  | getName
  | setStatusMessage (message : Bytes)
  | setStatus (status : UserStatus)
  | getStatus
  | friendAdd (address : Address) (message : Bytes)
  | friendAddNorequest (key : PublicKey)
  | friendDelete (friend : UInt32)
  | friendByPublicKey (key : PublicKey)
  | friendGetPublicKey (friend : UInt32)
  | setTyping (friend : UInt32) (isTyping : Bool)
  | friendSendMessage (friend : UInt32) (type : MessageType) (message : Bytes)
  | friendSendLosslessPacket (friend : UInt32) (data : Bytes)
  | fileSend (friend kind : UInt32) (size : UInt64) (name : Bytes)
  | fileControl (friend : UInt32) (file : FileId) (control : FileControl)
  | fileSendChunk (friend : UInt32) (file : FileId) (position : UInt64) (data : Bytes)
  | groupSendMessage (group : UInt32) (type : MessageType) (message : Bytes)
  | groupSetTopic (group : UInt32) (topic : Bytes)
  | groupGetTopic (group : UInt32)
  | groupLeave (group : UInt32) (message : Bytes)
  deriving DecidableEq, Repr

/-- What a request is answered with. -/
inductive Reply where
  | done
  | number (value : UInt32)
  | milliseconds (value : Nat)
  | port (value : UInt16)
  | bytes (value : Bytes)
  | key (value : PublicKey)
  | file (id : FileId)
  | status (value : UserStatus)
  deriving DecidableEq, Repr

namespace Request

variable {ε : Type} [Engine ε]

def perform (now : Timestamp) : Request → Held ε Reply
  | .iterate => do HeldSession.iterate now; return .done
  | .invoke fired => do HeldSession.dispatch now fired; return .done
  | .iterationInterval => do return .milliseconds (← HeldSession.iterationInterval)
  | .save => do return .bytes (← HeldSession.save)
  | .bootstrap host port key => do HeldSession.bootstrap host port key; return .done
  | .udpPort => do return .port (← HeldSession.udpPort)
  | .setName name => do HeldSession.setName name; return .done
  | .getName => do return .bytes (← HeldSession.getName)
  | .setStatusMessage message => do HeldSession.setStatusMessage message; return .done
  | .setStatus status => do HeldSession.setStatus status; return .done
  | .getStatus => do return .status (← HeldSession.getStatus)
  | .friendAdd address message => do return .number (← HeldSession.friendAdd address message)
  | .friendAddNorequest key => do return .number (← HeldSession.friendAddNorequest key)
  | .friendDelete friend => do HeldSession.friendDelete friend; return .done
  | .friendByPublicKey key => do return .number (← HeldSession.friendByPublicKey key)
  | .friendGetPublicKey friend => do return .key (← HeldSession.friendGetPublicKey friend)
  | .setTyping friend isTyping => do HeldSession.setTyping friend isTyping; return .done
  | .friendSendMessage friend type message => do
    return .number (← HeldSession.friendSendMessage friend type message)
  | .friendSendLosslessPacket friend data => do
    HeldSession.friendSendLosslessPacket friend data; return .done
  | .fileSend friend kind size name => do
    return .file (← HeldSession.fileSend friend kind size name)
  | .fileControl friend file control => do
    HeldSession.fileControl friend file control; return .done
  | .fileSendChunk friend file position data => do
    HeldSession.fileSendChunk friend file position data; return .done
  | .groupSendMessage group type message => do
    return .number (← HeldSession.groupSendMessage group type message)
  | .groupSetTopic group topic => do HeldSession.groupSetTopic group topic; return .done
  | .groupGetTopic group => do return .bytes (← HeldSession.groupGetTopic group)
  | .groupLeave group message => do HeldSession.groupLeave group message; return .done

/-- The engine itself may report a failure of the request. The error of such a request is a call
error, of the others the bridge error in it. -/
def mayFail : Request → Bool
  | .iterate | .invoke _ | .iterationInterval | .save | .getName | .setStatus _ | .getStatus =>
    false
  | _ => true

/-- The causes of an error of the request, from the nearest to the last. -/
def causes (request : Request) : CallError → List String
  | .bridge error => if request.mayFail then error.message :: error.causes else error.causes
  | error => error.causes

end Request

end Switchboard
