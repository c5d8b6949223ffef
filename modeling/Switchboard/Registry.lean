import Switchboard.Registry.Config
import Switchboard.Session.Request
/-!
# The registry

The registry keeps every session in a slot of its own and hands out handles. A session is created,
becomes active when its engine has been asked for all notifications, is killed when its engine is
released, and is finalized when its slot is vacated. A vacated slot is used again under the next
generation, the slot vacated last before the others; a slot whose generations are used up is
retired.

Engines that leave the registry, released or turned away, are kept in a list of their own.
-/

namespace Switchboard

/-- The life of a session, as its handle shows it. -/
inductive Lifecycle where
  | created
  | active
  | killed
  | finalized
  deriving DecidableEq, Repr

def Lifecycle.name : Lifecycle → String
  | .created => "Created"
  | .active => "Active"
  | .killed => "Killed"
  | .finalized => "Finalized"

namespace Registry

structure Occupant (ε : Type) where
  state : Lifecycle
  session : Session ε

structure Slot (ε : Type) where
  generation : UInt32
  occupant : Option (Occupant ε)
  /-- The slot is never used again. -/
  retired : Bool

/-- A slot nobody has used yet. -/
def Slot.fresh {ε : Type} : Slot ε := ⟨1, none, false⟩

end Registry

structure Registry (ε : Type) where
  config : Registry.Config
  slots : List (Registry.Slot ε)
  /-- Vacant slots, the one vacated last first. -/
  free : List UInt32
  /-- How many slots are occupied. -/
  live : Nat
  lockPoisoned : Bool
  /-- Engines that are gone, in the order they went. -/
  released : List ε

namespace Registry

variable {ε α : Type}

def empty (config : Config) : Registry ε := ⟨config, [], [], 0, false, []⟩

/-! ## Slots -/

def slot? (handle : Handle) (registry : Registry ε) : Option (Slot ε) :=
  registry.slots[handle.slot.toNat]?

def occupant? (handle : Handle) (registry : Registry ε) : Option (Occupant ε) :=
  match registry.slot? handle with
  | some slot => if slot.generation = handle.generation then slot.occupant else none
  | none => none

/-- The handle belongs to an earlier use of its slot. -/
def wasIssued (handle : Handle) (registry : Registry ε) : Bool :=
  match registry.slot? handle with
  | some slot =>
    handle.generation < slot.generation || (slot.retired && handle.generation = slot.generation)
  | none => false

def setOccupant (handle : Handle) (occupant : Occupant ε) (registry : Registry ε) : Registry ε :=
  match registry.slot? handle with
  | some slot =>
    { registry with
      slots := registry.slots.set handle.slot.toNat { slot with occupant := some occupant } }
  | none => registry

def setState (handle : Handle) (state : Lifecycle) (registry : Registry ε) : Registry ε :=
  match registry.occupant? handle with
  | some occupant => registry.setOccupant handle { occupant with state := state }
  | none => registry

/-- The last generation of a slot. -/
def lastGeneration : UInt32 := 4294967295

/-- The slot after its occupant left. -/
def Slot.vacated (slot : Slot ε) : Slot ε :=
  if slot.generation = lastGeneration then ⟨slot.generation, none, true⟩
  else ⟨slot.generation + 1, none, slot.retired⟩

/-- Empty the slot of a handle. The session goes, and the engine it may still have with it. -/
def vacate (handle : Handle) (registry : Registry ε) : Registry ε :=
  match registry.slot? handle, registry.occupant? handle with
  | some slot, some occupant =>
    { registry with
      slots := registry.slots.set handle.slot.toNat slot.vacated
      free :=
        if slot.generation = lastGeneration then registry.free else handle.slot :: registry.free
      live := registry.live - 1
      released := registry.released ++ occupant.session.engine.toList }
  | _, _ => registry

/-- The slot the next session moves into, with the registry that has it ready. -/
def claim? (registry : Registry ε) : Option (Handle × Registry ε) :=
  match registry.free with
  | index :: rest =>
    registry.slots[index.toNat]?.map fun slot =>
      (⟨index, slot.generation⟩, { registry with free := rest })
  | [] =>
    if registry.slots.length < 4294967296 then
      some (⟨UInt32.ofNat registry.slots.length, 1⟩,
        { registry with slots := registry.slots ++ [Slot.fresh] })
    else none

/-- The state a handle shows: finalized if its session is gone, none if it was never issued. -/
def state? (handle : Handle) (registry : Registry ε) : Option Lifecycle :=
  match registry.occupant? handle with
  | some occupant => some occupant.state
  | none => if registry.wasIssued handle then some .finalized else none

/-- The handles of all sessions, in the order of their slots. -/
def handles (registry : Registry ε) : List (Handle × Lifecycle) :=
  registry.slots.zipIdx.filterMap fun (slot, index) =>
    slot.occupant.map fun occupant => (⟨UInt32.ofNat index, slot.generation⟩, occupant.state)

/-! ## Operations -/

/-- An operation on a registry. -/
abbrev Op (ε α : Type) := Run (Registry ε) BridgeError α

/-- Take the registry's lock; only a broken one refuses. -/
def lock : Op ε Unit := fun registry =>
  if registry.lockPoisoned then ⟨.error (.lockPoisoned .registry), registry, []⟩
  else ⟨.ok (), registry, []⟩

def log {δ : Type} (level : Log.Level) (message : String) (handle : Handle)
    (fields : List (String × Log.Value)) : Run (Registry ε) δ Unit :=
  Run.log level message (handle.logField :: fields)

/-- Let an engine go. -/
def discard {δ : Type} (engine : Option ε) : Run (Registry ε) δ Unit :=
  Run.modify fun registry => { registry with released := registry.released ++ engine.toList }

def onSession {δ : Type} (handle : Handle) (occupant : Occupant ε)
    (operation : Run (Session ε) δ α) : Run (Registry ε) δ α := fun registry =>
  let ran := operation occupant.session
  ⟨ran.outcome, registry.setOccupant handle { occupant with session := ran.state }, ran.log⟩

/-! ### Adding -/

/-- Move a new session in. Asking the engine how it numbers files happens under the registry's
lock, so a panic there breaks the lock; the slot stays claimed. -/
def moveIn [Engine ε] (engine : ε) : Op ε Handle := fun registry =>
  if registry.config.maxSessions.toNat ≤ registry.live then
    ⟨.error (.capacityExhausted registry.config.maxSessions),
      { registry with released := registry.released ++ [engine] },
      [⟨.warn, "session capacity exhausted",
        [("limit", .number registry.config.maxSessions.toNat)]⟩]⟩
  else
    match registry.claim? with
    | none =>
      ⟨.error (.capacityExhausted registry.config.maxSessions),
        { registry with released := registry.released ++ [engine] }, []⟩
    | some (handle, registry) =>
      match Engine.perform .addressing engine with
      | (none, engine) =>
        ⟨.panic, { registry with lockPoisoned := true, released := registry.released ++ [engine] },
          []⟩
      | (some addressing, engine) =>
        let session := Session.opened handle engine addressing registry.config.warnThreshold
        ⟨.ok handle,
          { registry.setOccupant handle ⟨.created, session⟩ with live := registry.live + 1 },
          [⟨.debug, "session created", [handle.logField]⟩]⟩

/-- Add an engine as a new session. If asking it for notifications panics, the session stays, as
one that was only created and whose lock is broken. -/
def add [Engine ε] (engine : ε) : Op ε Handle := do
  match ← Run.attempt lock with
  | .error cause => do
    discard (some engine)
    Run.fail cause
  | .ok _ => do
    let handle ← moveIn engine
    match (← Run.get).occupant? handle with
    | none => Run.fail (.notFound handle)
    | some occupant => do
      onSession handle occupant Session.subscribeAll
      Run.modify (setState handle .active)
      log .debug "session active" handle []
      pure handle

/-! ### Using -/

/-- The active session a handle names. -/
def active (handle : Handle) : Op ε (Occupant ε) := do
  lock
  match (← Run.get).occupant? handle with
  | some occupant =>
    if occupant.state = .active then pure occupant else Run.fail (.notFound handle)
  | none => Run.fail (.notFound handle)

def withSession (handle : Handle) (operation : Held ε α) : Run (Registry ε) CallError α := do
  let occupant ← (active handle).mapError .bridge
  onSession handle occupant (Session.hold operation)

def drain (handle : Handle) : Op ε Batch := do
  let occupant ← active handle
  onSession handle occupant Session.drain

/-! ### Removing -/

/-- Release the engine of a session. Its slot stays occupied. If the session's lock is broken, the
session counts as killed nevertheless and keeps its engine. -/
def kill (handle : Handle) : Op ε Unit := do
  lock
  match (← Run.get).occupant? handle with
  | none => Run.fail (.notFound handle)
  | some occupant =>
    match occupant.state with
    | .created | .active => do
      Run.modify (setState handle .killed)
      let engine ← onSession handle { occupant with state := .killed } Session.release
      discard engine
      log .debug "session killed" handle [("released", .flag engine.isSome)]
    | .killed => do
      log .error "kill on a killed session" handle
        [("violation", .text (Violation.alreadyKilled handle).details)]
      Run.fail (.contract (.alreadyKilled handle))
    | .finalized => Run.fail (.notFound handle)

def reclaim (handle : Handle) : Op ε Unit := do
  Run.modify (vacate handle)
  if handle.generation = lastGeneration then
    log .debug "slot generations exhausted; retiring slot" handle []
  log .debug "session finalized" handle []

/-- Vacate the slot of a session, which is killed first if it is not yet. A handle whose session is
gone is left alone. -/
def finalize (handle : Handle) : Op ε Unit := do
  lock
  let registry ← Run.get
  match registry.occupant? handle with
  | none =>
    if registry.wasIssued handle then log .debug "finalize on a finalized session" handle []
    else Run.fail (.notFound handle)
  | some occupant => do
    if occupant.state ≠ .killed then
      log .warn "finalizing a session that was never killed" handle []
      kill handle
    reclaim handle

/-- Kill and finalize one session; whether it is gone. Errors are logged. -/
def shutdownOne (handle : Handle) (state : Lifecycle) : Op ε Bool := do
  if state ≠ .killed then
    match ← Run.attempt (kill handle) with
    | .ok _ => pure ()
    | .error cause =>
      log .warn "failed to kill session during shutdown" handle [("error", .text cause.message)]
  match ← Run.attempt (finalize handle) with
  | .ok _ => pure true
  | .error cause => do
    log .warn "failed to finalize session during shutdown" handle [("error", .text cause.message)]
    pure false

def shutdownEach : List (Handle × Lifecycle) → Op ε Nat
  | [] => pure 0
  | (handle, state) :: rest => do
    let gone ← shutdownOne handle state
    let others ← shutdownEach rest
    pure (others + if gone then 1 else 0)

/-- Kill and finalize every session; how many are gone. -/
def shutdown : Op ε Nat := do
  let reclaimed ← shutdownEach (← Run.get).handles
  if 0 < reclaimed then Run.log .info "registry shut down" [("reclaimed", .number reclaimed)]
  pure reclaimed

end Registry

end Switchboard
