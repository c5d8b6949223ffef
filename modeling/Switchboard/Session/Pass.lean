import Switchboard.Session
import Switchboard.Session.Interpretation
/-!
# Passes

In a pass a session takes in the notifications its engine fired, or that it is given by hand, and
then sees to what they ask for: controls the engine is owed, requests for the next chunks, and a
warning if too many events wait. The first notification that breaks the contract ends the intake;
the ones before it stay delivered, and the session is disabled.
-/

namespace Switchboard

/-- An operation that holds a session. -/
abbrev Held (ε α : Type) := Run (HeldSession ε) CallError α

namespace HeldSession

variable {ε α : Type}

def call [Engine ε] (call : Call) : Held ε call.Answer := fun held =>
  match Engine.perform call held.engine with
  | (some answer, engine) => ⟨.ok answer, { held with engine := engine }, []⟩
  | (none, engine) => ⟨.panic, { held with engine := engine }, []⟩

def log (level : Log.Level) (message : String) (fields : List (String × Log.Value)) :
    Held ε Unit :=
  fun held => ⟨.ok (), held, [⟨level, message, held.handle.logField :: fields⟩]⟩

/-- Disable the session, and fail. -/
def poison (violation : Violation) : Held ε α := fun held =>
  ⟨.error (.bridge (.contract violation)), { held with violation := some violation },
    [⟨.error, "engine contract violated; session poisoned",
      [held.handle.logField, ("violation", .text violation.details)]⟩]⟩

def drain : Held ε Batch := fun held =>
  let (batch, core) := held.toCore.drain
  ⟨.ok batch, { held with toCore := core },
    [⟨.debug, "drained events", [held.handle.logField, ("events", .number batch.length)]⟩]⟩

def updateTransfers (change : Transfer.Table → Transfer.Table) : Held ε Unit :=
  Run.modify fun held => { held with transfers := held.transfers.map change }

/-! ## Taking notifications in -/

def traceEntry (held : HeldSession ε) (notification : Notification) : List Log.Entry :=
  if notification.isTraced held.transfers then
    [⟨.trace, notification.kind.name, held.handle.logField :: notification.logFields⟩]
  else []

/-- Take one notification in; the violation if it breaks the contract. -/
def receive (now : Timestamp) (notification : Notification) : Held ε (Option Violation) :=
  fun held =>
    match notification.interpret held.transfers with
    | .ok (events, transfers) =>
      ⟨.ok none,
        { held with events := held.events.pushAll now events, transfers := transfers },
        held.traceEntry notification⟩
    | .error violation => ⟨.ok (some violation), held, held.traceEntry notification⟩

/-- Take notifications in until one breaks the contract. -/
def receiveAll (now : Timestamp) : List Notification → Held ε (Option Violation)
  | [] => pure none
  | notification :: rest => do
    match ← receive now notification with
    | none => receiveAll now rest
    | some violation => pure (some violation)

/-! ## Settling -/

/-- Tell the engine the controls it is owed. What it refuses for a documented reason is let go. -/
def tell [Engine ε] : List Transfer.Outbound → Held ε Unit
  | [] => pure ()
  | control :: rest => do
    log .debug "sending legacy file control"
      [("friend_number", .number control.friend.toNat), ("file_id", .text control.file.text),
        ("control", .number control.control.toNat)]
    match ← call (.legacyFileControl control.friend control.side control.index control.control) with
    | .ok _ => tell rest
    | .error code =>
      match Operation.fileControl.reason? code with
      | some reason => do
        log .warn "engine refused legacy file control"
          [("friend_number", .number control.friend.toNat), ("file_id", .text control.file.text),
            ("error", .text reason.message)]
        tell rest
      | none => poison (.unexpectedCode Operation.fileControl.name code)

def takeOutbound : Held ε (List Transfer.Outbound) := fun held =>
  ⟨.ok ((held.transfers.map (·.outbound)).getD []),
    { held with transfers := held.transfers.map (·.takeOutbound.2) }, []⟩

/-- Ask the caller for the chunks that should be asked for. -/
def requestChunks (now : Timestamp) : Held ε Unit :=
  Run.modify fun held =>
    match held.transfers with
    | none => held
    | some table =>
      { held with
        events := held.events.pushAll now table.requestChunks.1
        transfers := some table.requestChunks.2 }

/-- Warn, once between drains, if too many events wait. -/
def warnOfBacklog : Held ε Unit := fun held =>
  if held.warnThreshold.toNat < held.events.length ∧ held.warned = false then
    ⟨.ok (), { held with warned := true },
      [⟨.warn, "event backlog above threshold; drain more often",
        [held.handle.logField, ("pending", .number held.events.length),
          ("threshold", .number held.warnThreshold.toNat)]⟩]⟩
  else ⟨.ok (), held, []⟩

/-- See to what the notifications of a pass ask for. -/
def settle [Engine ε] (now : Timestamp) : Held ε Unit := do
  tell (← takeOutbound)
  requestChunks now
  warnOfBacklog

/-! ## Passes -/

/-- Take in notifications that are given by hand. -/
def dispatch [Engine ε] (now : Timestamp) (fired : Fired) : Held ε Unit := do
  let violation ← receiveAll now fired.notifications
  if fired.panics then Run.panic
  else
    match violation with
    | some violation => poison violation
    | none => settle now

def iterate [Engine ε] (now : Timestamp) : Held ε Unit := do
  dispatch now (← call .iterate)

end HeldSession

end Switchboard
