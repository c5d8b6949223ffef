import Switchboard.Proofs.Run
import Switchboard.Session.Request
/-!
# Requests that only ask the engine

Every request makes a few calls that are known beforehand (`Request.MayCall`). Most requests check
what they can without the engine, call it, and look the code of a failure up (`Asks`,
`asks_perform`). Such a request leaves all of the session but its engine and the violation it may be
disabled for (`Asks.still`).
-/

namespace Switchboard

/-- The calls about files of engines that number files per direction, other than offers. -/
def Call.isTransfer : Call → Bool
  | .legacyFileControl _ _ _ _ => true
  | .legacyFileData _ _ _ => true
  | _ => false

namespace Request

def isPlain : Request → Bool
  | .iterate | .invoke _ | .fileSend _ _ _ _ | .fileControl _ _ _ | .fileSendChunk _ _ _ _ => false
  | _ => true

def isPass : Request → Bool
  | .iterate | .invoke _ => true
  | _ => false

def isChunk : Request → Bool
  | .fileSendChunk _ _ _ _ => true
  | _ => false

/-- The calls a request may make of the engine. -/
inductive MayCall : Request → Call → Prop
  | iterate : MayCall .iterate .iterate
  | owed {request : Request} (pass : request.isPass = true) (friend : UInt32)
    (side index control : UInt8) : MayCall request (.legacyFileControl friend side index control)
  | iterationInterval : MayCall .iterationInterval .iterationInterval
  | savedataSize : MayCall .save .savedataSize
  | savedata (room : Bytes) : MayCall .save (.savedata room)
  | bootstrap (host : String) (port : UInt32) (key : PublicKey) :
    MayCall (.bootstrap host port key) (.bootstrap host port.toUInt16 key)
  | udpPort : MayCall .udpPort .udpPort
  | setName (name : Bytes) : MayCall (.setName name) (.setName name)
  | selfNameSize : MayCall .getName .selfNameSize
  | selfName (room : Bytes) : MayCall .getName (.selfName room)
  | setStatusMessage (message : Bytes) :
    MayCall (.setStatusMessage message) (.setStatusMessage message)
  | setStatus (status : UserStatus) :
    MayCall (.setStatus status) (.setStatus (Enumerated.number status))
  | status : MayCall .getStatus .status
  | friendAdd (address : Address) (message : Bytes) :
    MayCall (.friendAdd address message) (.friendAdd address message)
  | friendAddNorequest (key : PublicKey) :
    MayCall (.friendAddNorequest key) (.friendAddNorequest key)
  | friendDelete (friend : UInt32) : MayCall (.friendDelete friend) (.friendDelete friend)
  | friendByPublicKey (key : PublicKey) : MayCall (.friendByPublicKey key) (.friendByPublicKey key)
  | friendPublicKey (friend : UInt32) :
    MayCall (.friendGetPublicKey friend) (.friendPublicKey friend)
  | setTyping (friend : UInt32) (isTyping : Bool) :
    MayCall (.setTyping friend isTyping) (.setTyping friend isTyping)
  | friendSendMessage (friend : UInt32) (type : MessageType) (message : Bytes) :
    MayCall (.friendSendMessage friend type message)
      (.friendSendMessage friend (Enumerated.number type) message)
  | friendSendLosslessPacket (friend : UInt32) (data : Bytes) :
    MayCall (.friendSendLosslessPacket friend data) (.friendSendLosslessPacket friend data)
  | fileSend (friend kind : UInt32) (size : UInt64) (name : Bytes) :
    MayCall (.fileSend friend kind size name) (.fileSend friend kind size name)
  | fileControl (friend : UInt32) (file : FileId) (control : FileControl) :
    MayCall (.fileControl friend file control)
      (.fileControl friend file.raw (Enumerated.number control))
  | told (friend : UInt32) (file : FileId) (control : FileControl) (told : Transfer.Outbound) :
    MayCall (.fileControl friend file control)
      (.legacyFileControl told.friend told.side told.index told.control)
  | fileSendChunk (friend : UInt32) (file : FileId) (position : UInt64) (data : Bytes) :
    MayCall (.fileSendChunk friend file position data)
      (.fileSendChunk friend file.raw position data)
  | legacyFileData (friend : UInt32) (file : FileId) (position : UInt64) (data : Bytes)
    (index : UInt8) :
    MayCall (.fileSendChunk friend file position data) (.legacyFileData friend index data)
  | groupSendMessage (group : UInt32) (type : MessageType) (message : Bytes) :
    MayCall (.groupSendMessage group type message)
      (.groupSendMessage group (Enumerated.number type) message)
  | groupSetTopic (group : UInt32) (topic : Bytes) :
    MayCall (.groupSetTopic group topic) (.groupSetTopic group topic)
  | groupTopicSize (group : UInt32) : MayCall (.groupGetTopic group) (.groupTopicSize group)
  | groupTopic (group : UInt32) (room : Bytes) :
    MayCall (.groupGetTopic group) (.groupTopic group room)
  | groupLeave (group : UInt32) (message : Bytes) :
    MayCall (.groupLeave group message) (.groupLeave group message)

theorem MayCall.isTransfer {request : Request} {c : Call} (h : request.MayCall c)
    (plain : request.isPlain = true) : c.isTransfer = false := by
  cases h with
  | @owed request pass =>
    cases request with
    | iterate | invoke => cases plain
    | _ => cases pass
  | told | legacyFileData => cases plain
  | _ => rfl

end Request

/-- What the warning about too many waiting events says. -/
def backlogMessage : String := "event backlog above threshold; drain more often"

/-- An entry of this level and message reports no violation and warns of no backlog. -/
abbrev Log.IsAside (level : Log.Level) (message : String) : Prop :=
  level ≠ .error ∧ message ≠ backlogMessage

namespace HeldSession

variable {ε α : Type}

/-- The operation calls the engine, with no calls but these, and looks at what it answers. Only
disabling the session is logged as an error. -/
inductive Asks [Engine ε] (may : Call → Prop) : {α : Type} → Held ε α → Prop
  | pure {α : Type} (value : α) : Asks may (pure value)
  | bind {α β : Type} {first : Held ε α} {next : α → Held ε β} :
    Asks may first → (∀ value, Asks may (next value)) → Asks may (first >>= next)
  | call {c : Call} : may c → Asks may (call c)
  | log {level : Log.Level} (message : String) (fields : List (String × Log.Value)) :
    Log.IsAside level message → Asks may (log level message fields)
  | refuse {α : Type} (operation : Operation) (reason : Reason) :
    Asks may (refuse operation reason : Held ε α)
  | poison {α : Type} (violation : Violation) : Asks may (poison violation : Held ε α)

section Asks

variable [Engine ε] {may : Call → Prop}

theorem asks_accept (operation : Operation) (reported : Reported α) :
    Asks (ε := ε) may (accept operation reported) := by
  cases reported with
  | ok value => exact .pure value
  | error code =>
    simp only [accept]
    cases operation.reason? code with
    | some reason => exact .bind (.log _ _ (by decide)) fun _ => .refuse _ _
    | none => exact .poison _

private theorem asks_checked {P : Prop} [Decidable P] {operation : Operation} {reason : Reason}
    {otherwise : Held ε α} (h : Asks may otherwise) :
    Asks may (if P then refuse operation reason else otherwise) := by
  split
  · exact .refuse _ _
  · exact h

theorem asks_reported {c : Call} (hc : may c) {operation : Operation}
    {next : c.Answer → Reported α} :
    Asks (ε := ε) may (HeldSession.call c >>= fun answer => accept operation (next answer)) :=
  .bind (.call hc) fun _ => asks_accept _ _

/-- Requests that are no passes and not about files only ask the engine, and not about transfers. -/
theorem asks_perform {request : Request} (free : ∀ c, request.MayCall c → may c)
    (now : Timestamp) (plain : request.isPlain = true) :
    Asks (ε := ε) may (request.perform now) := by
  cases request with
  | iterationInterval => exact .bind (.call (free _ .iterationInterval)) fun _ => .pure _
  | save =>
    exact .bind (.bind (.call (free _ .savedataSize)) fun _ => .call (free _ (.savedata _)))
      fun _ => .pure _
  | bootstrap host port key =>
    exact .bind (asks_checked (asks_checked (asks_reported (free _ (.bootstrap ..)))))
      fun _ => .pure _
  | getName =>
    exact .bind (.bind (.call (free _ .selfNameSize)) fun _ => .call (free _ (.selfName _)))
      fun _ => .pure _
  | setStatus status => exact .bind (.call (free _ (.setStatus status))) fun _ => .pure _
  | getStatus =>
    refine .bind (.bind (.call (free _ .status)) fun number => ?_) fun _ => .pure _
    cases Notification.fromTable (α := UserStatus) "user_status" number with
    | ok status => exact .pure status
    | error violation => exact .poison violation
  | friendAdd address message =>
    exact .bind (asks_checked (asks_reported (free _ (.friendAdd ..)))) fun _ => .pure _
  | friendSendMessage friend type message =>
    exact .bind (asks_checked (asks_reported (free _ (.friendSendMessage ..)))) fun _ => .pure _
  | friendSendLosslessPacket friend data =>
    exact .bind (asks_checked (asks_reported (free _ (.friendSendLosslessPacket ..))))
      fun _ => .pure _
  | groupSendMessage group type message =>
    exact .bind (asks_checked (asks_reported (free _ (.groupSendMessage ..)))) fun _ => .pure _
  | groupGetTopic group =>
    exact .bind (.bind (asks_reported (free _ (.groupTopicSize _))) fun _ =>
      asks_reported (free _ (.groupTopic ..))) fun _ => .pure _
  | iterate | invoke | fileSend | fileControl | fileSendChunk => cases plain
  | udpPort => exact .bind (asks_reported (free _ .udpPort)) fun _ => .pure _
  | _ => exact .bind (asks_reported (free _ (by constructor))) fun _ => .pure _

end Asks

/-- However it ends, the operation leaves all of the session but the engine and the violation. -/
def Still (operation : Held ε α) : Prop :=
  ∀ held, (operation held).state.toCore =
    { held.toCore with violation := (operation held).state.violation }

theorem Asks.still [Engine ε] {may : Call → Prop} {operation : Held ε α}
    (asks : Asks may operation) : Still operation := by
  induction asks with
  | @bind _ _ first next _ _ hf hn =>
    intro held
    have hfirst := hf held
    simp only [Run.bind_apply]
    rcases hran : first held with ⟨outcome, state, entries⟩
    rw [hran] at hfirst
    cases outcome with
    | ok value =>
      have hnext := hn value state
      rw [hfirst] at hnext
      exact hnext
    | error cause => exact hfirst
    | panic => exact hfirst
  | call _ =>
    intro held
    simp only [HeldSession.call]
    split <;> rfl
  | _ => exact fun _ => rfl

end HeldSession

end Switchboard
