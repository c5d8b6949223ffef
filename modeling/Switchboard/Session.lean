import Switchboard.Engine
import Switchboard.Error
import Switchboard.Event.Queue
import Switchboard.Run
import Switchboard.Transfer.Table
/-!
# Sessions

A session owns an engine until it is released, the events that wait for its caller, and, for an
engine that numbers files per direction, the transfer table. A contract violation disables it: then
only draining, releasing and removing it are left. A panic while an operation holds the session
breaks its lock, and after that nothing can hold it again; what the operation had done until then
stays done.
-/

namespace Switchboard

namespace Session

/-- A session apart from its engine and its lock. -/
structure Core where
  handle : Handle
  events : EventQueue
  /-- Only for engines that number files per direction, and only until the engine is released. -/
  transfers : Option Transfer.Table
  /-- The violation that disabled the session. -/
  violation : Option Violation
  /-- More waiting events than this are worth a warning. -/
  warnThreshold : UInt64
  /-- The warning was given since the last drain. -/
  warned : Bool
  deriving DecidableEq, Repr

end Session

structure Session (ε : Type) extends Session.Core where
  engine : Option ε
  lockPoisoned : Bool

/-- A session in the hands of an operation: its lock is held and its engine is there. -/
structure HeldSession (ε : Type) extends Session.Core where
  engine : ε

def Handle.logField (handle : Handle) : String × Log.Value := ("handle", .text handle.text)

namespace Session

variable {ε α : Type}

def opened (handle : Handle) (engine : ε) (addressing : Addressing) (warnThreshold : UInt64) :
    Session ε where
  handle := handle
  events := .empty
  transfers :=
    match addressing with
    | .unified => none
    | .legacy => some .empty
  violation := none
  warnThreshold := warnThreshold
  warned := false
  engine := some engine
  lockPoisoned := false

/-- Take the waiting events; from now on a backlog is worth a warning again. -/
def Core.drain (core : Core) : Batch × Core :=
  (core.events.drain.1, { core with events := core.events.drain.2, warned := false })

/-- Let an operation hold the session. It must not be disabled and must still have its engine. -/
def hold (operation : Run (HeldSession ε) CallError α) : Run (Session ε) CallError α :=
  fun session =>
    if session.lockPoisoned then ⟨.error (.bridge (.lockPoisoned .session)), session, []⟩
    else if session.violation.isSome then
      ⟨.error (.bridge (.poisoned session.handle)), session, []⟩
    else
      match session.engine with
      | none => ⟨.error (.bridge (.notFound session.handle)), session, []⟩
      | some engine =>
        let ran := operation ⟨session.toCore, engine⟩
        let broken :=
          match ran.outcome with
          | .panic => true
          | _ => false
        ⟨ran.outcome, ⟨ran.state.toCore, some ran.state.engine, broken⟩, ran.log⟩

/-- Take the waiting events. A disabled session still gives them. -/
def drain : Run (Session ε) BridgeError Batch := fun session =>
  if session.lockPoisoned then ⟨.error (.lockPoisoned .session), session, []⟩
  else
    let (batch, core) := session.toCore.drain
    ⟨.ok batch, { session with toCore := core },
      [⟨.debug, "drained events", [session.handle.logField, ("events", .number batch.length)]⟩]⟩

/-- Take the engine out of the session, and the transfers with it. -/
def release : Run (Session ε) BridgeError (Option ε) := fun session =>
  if session.lockPoisoned then ⟨.error (.lockPoisoned .session), session, []⟩
  else
    let discarded :=
      match session.transfers with
      | some table =>
        if table.isEmpty then []
        else [⟨.debug, "discarding live file transfers",
          [session.handle.logField, ("transfers", .number table.length)]⟩]
      | none => []
    ⟨.ok session.engine, { session with engine := none, transfers := none }, discarded⟩

/-- Ask an engine for notifications, one kind after the other; whether no call panicked. -/
def subscribe [Engine ε] : List NotificationKind → ε → Bool × ε
  | [], engine => (true, engine)
  | kind :: rest, engine =>
    match Engine.perform (.register kind) engine with
    | (some _, engine) => subscribe rest engine
    | (none, engine) => (false, engine)

def subscribeAll [Engine ε] : Run (Session ε) BridgeError Unit := fun session =>
  if session.lockPoisoned then ⟨.error (.lockPoisoned .session), session, []⟩
  else
    match session.engine with
    | none => ⟨.ok (), session, []⟩
    | some engine =>
      match subscribe NotificationKind.all engine with
      | (true, engine) => ⟨.ok (), { session with engine := some engine }, []⟩
      | (false, engine) =>
        ⟨.panic, { session with engine := some engine, lockPoisoned := true }, []⟩

end Session

end Switchboard
