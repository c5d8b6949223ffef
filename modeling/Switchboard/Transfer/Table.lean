import Switchboard.Event
import Switchboard.Failure
import Switchboard.Violation
/-!
# The transfer table

Engines that number files per direction never ask for the next chunk of a file and never close a
file that has arrived. The table keeps every live transfer under the friend and the unified file
identifier, makes the missing chunk requests up, and queues the closing controls.

A transfer is live from its offer until it is finished or cancelled. A notification for a transfer
that is not live breaks the contract; for a caller it is an ordinary failure, "not found".
-/

namespace Switchboard

namespace Transfer

/-! ## Numbers of the eight-bit protocol -/

def acceptControl : UInt8 := 0

def pauseControl : UInt8 := 1

def killControl : UInt8 := 2

def finishedControl : UInt8 := 3

/-- The side a control notification gives for a file sent from here. -/
def notifiedSending : UInt8 := 1

/-- The side of an outbound control. Notifications count the sides the other way round. -/
def outboundSide : Direction → UInt8
  | .send => 0
  | .receive => 1

def notifiedDirection (side : UInt8) : Direction :=
  if side = notifiedSending then .send else .receive

/-- The most data one call takes. -/
def maxChunk : UInt64 := 1371

def controlNumber : FileControl → UInt8
  | .resume => acceptControl
  | .pause => pauseControl
  | .cancel => killControl

/-! ## Transfers -/

inductive Progress where
  /-- Waiting to be accepted or resumed. -/
  | paused
  | running
  /-- All bytes are through; no transfer in a table is finished. -/
  | finished
  deriving DecidableEq, Repr

end Transfer

structure Transfer where
  direction : Direction
  progress : Transfer.Progress
  /-- How many bytes are through. -/
  position : UInt64
  /-- The declared size. -/
  size : UInt64
  /-- A chunk was asked for and has not come yet. -/
  requestPending : Bool
  deriving DecidableEq, Repr

namespace Transfer

def offered (direction : Direction) (size : UInt64) : Transfer :=
  ⟨direction, .paused, 0, size, false⟩

/-- A control the engine has to be told. -/
structure Outbound where
  friend : UInt32
  file : FileId
  side : UInt8
  index : UInt8
  control : UInt8
  deriving DecidableEq, Repr

structure Table where
  entries : Keyed TransferKey Transfer
  /-- Controls that wait to be told, the oldest first. -/
  outbound : List Outbound
  deriving DecidableEq, Repr

namespace Table

def empty : Table := ⟨[], []⟩

/-- How many transfers are live. -/
def length (table : Table) : Nat := table.entries.length

def isEmpty (table : Table) : Bool := table.entries.isEmpty

def get? (friend : UInt32) (file : FileId) (table : Table) : Option Transfer :=
  Keyed.get? ⟨friend, file⟩ table.entries

def put (friend : UInt32) (file : FileId) (transfer : Transfer) (table : Table) : Table :=
  { table with entries := Keyed.put ⟨friend, file⟩ transfer table.entries }

def erase (friend : UInt32) (file : FileId) (table : Table) : Table :=
  { table with entries := Keyed.erase ⟨friend, file⟩ table.entries }

/-- Open a transfer, unless one is live in its place. -/
def create (friend : UInt32) (direction : Direction) (index : UInt8) (size : UInt64)
    (table : Table) : Except Violation (FileId × Table) :=
  let file := FileId.unify direction index
  match table.get? friend file with
  | some _ => .error (.duplicateTransfer friend file)
  | none => .ok (file, table.put friend file (offered direction size))

/-! ## What the peer does -/

def remoteOffer (friend : UInt32) (index : UInt8) (size : UInt64) (name : Bytes)
    (table : Table) : Except Violation (List Event × Table) :=
  (table.create friend .receive index size).map fun (file, table) =>
    ([.fileRecv friend file 0 size name], table)

/-- The peer says that all bytes have arrived. The request of length zero tells the caller so. -/
def remoteFinished (friend : UInt32) (file : FileId) (table : Table) :
    Except Violation (List Event × Table) :=
  match table.get? friend file with
  | none => .error (.missingTransfer friend file)
  | some transfer =>
    .ok ([.fileChunkRequest friend file transfer.position 0], table.erase friend file)

/-- Accept, pause or cancel a transfer. -/
def applyControl (friend : UInt32) (file : FileId) (control : FileControl) (transfer : Transfer)
    (table : Table) : Table :=
  match control with
  | .resume => table.put friend file { transfer with progress := .running }
  | .pause => table.put friend file { transfer with progress := .paused }
  | .cancel => table.erase friend file

/-- The caller's control for the number of a peer's. -/
def forwarded? (control : UInt8) : Option FileControl :=
  if control = acceptControl then some .resume
  else if control = pauseControl then some .pause
  else if control = killControl then some .cancel
  else none

/-- The peer accepts, pauses, cancels or finishes a transfer. -/
def remoteControl (friend : UInt32) (side index control : UInt8) (table : Table) :
    Except Violation (List Event × Table) :=
  let file := FileId.unify (notifiedDirection side) index
  if control = finishedControl then table.remoteFinished friend file
  else
    match forwarded? control with
    | none => .error (.unknownValue "legacy_file_control" control.toUInt32)
    | some forwarded =>
      match table.get? friend file with
      | none => .error (.missingTransfer friend file)
      | some transfer =>
        .ok ([.fileRecvControl friend file forwarded],
          table.applyControl friend file forwarded transfer)

/-- Data arrives. The chunk that completes the file is followed by an empty one, the transfer is
closed, and the engine will be told. -/
def remoteData (friend : UInt32) (index : UInt8) (data : Bytes) (table : Table) :
    Except Violation (List Event × Table) :=
  let file := FileId.unify .receive index
  match table.get? friend file with
  | none => .error (.missingTransfer friend file)
  | some transfer =>
    let length := UInt64.ofNat data.length
    let reached := transfer.position + length
    if transfer.size < reached then
      .error (.transferOverrun friend file transfer.position length transfer.size)
    else if reached = transfer.size then
      .ok
        ([.fileRecvChunk friend file transfer.position data,
            .fileRecvChunk friend file transfer.size []],
          { table.erase friend file with
            outbound := table.outbound ++
              [⟨friend, file, outboundSide .receive, index, finishedControl⟩] })
    else
      let progress := if transfer.progress = .paused then .running else transfer.progress
      .ok ([.fileRecvChunk friend file transfer.position data],
        table.put friend file { transfer with progress := progress, position := reached })

/-! ## What the engine is owed -/

def takeOutbound (table : Table) : List Outbound × Table :=
  (table.outbound, { table with outbound := [] })

/-- A chunk of this transfer should be asked for. -/
def needsRequest (transfer : Transfer) : Bool :=
  transfer.direction = .send && transfer.progress = .running && !transfer.requestPending &&
    transfer.position < transfer.size

/-- The request for the next chunk of a transfer. -/
def chunkRequest (key : TransferKey) (transfer : Transfer) : Event :=
  .fileChunkRequest key.friend key.file transfer.position
    (min maxChunk (transfer.size - transfer.position))

/-- Ask for a chunk of each transfer that should be asked for one, in order of friend and file. -/
def requestChunks (table : Table) : List Event × Table :=
  (table.entries.filterMap fun (key, transfer) =>
      if needsRequest transfer then some (chunkRequest key transfer) else none,
    { table with
      entries := table.entries.map fun (key, transfer) =>
        (key, if needsRequest transfer then { transfer with requestPending := true }
          else transfer) })

/-! ## What the caller does -/

def localSend (friend number : UInt32) (size : UInt64) (table : Table) :
    Except Violation (FileId × Table) :=
  if number.toNat < 256 then table.create friend .send number.toUInt8 size
  else .error (.indexOutOfRange number)

/-- What to tell the engine for a caller's control. -/
def resolveControl (friend : UInt32) (file : FileId) (control : FileControl) (table : Table) :
    Except Reason Outbound :=
  match file.split, table.get? friend file with
  | some (direction, index), some _ =>
    .ok ⟨friend, file, outboundSide direction, index, controlNumber control⟩
  | _, _ => .error .transferNotFound

/-- Apply a control the engine accepted. -/
def commitControl (friend : UInt32) (file : FileId) (control : FileControl) (table : Table) :
    Table :=
  match table.get? friend file with
  | some transfer => table.applyControl friend file control transfer
  | none => table

/-- The index to send a caller's chunk under. -/
def resolveChunk (friend : UInt32) (file : FileId) (position length : UInt64) (table : Table) :
    Except Reason UInt8 :=
  match file.split with
  | some (.send, index) =>
    match table.get? friend file with
    | none => .error .transferNotFound
    | some transfer =>
      if transfer.progress ≠ .running then .error .transferNotRunning
      else if position ≠ transfer.position then .error .chunkPosition
      else if maxChunk < length ∨ transfer.size < position + length then .error .chunkLength
      else .ok index
  | _ => .error .transferNotFound

/-- Advance a transfer by a chunk the engine accepted. -/
def commitChunk (friend : UInt32) (file : FileId) (length : UInt64) (table : Table) : Table :=
  match table.get? friend file with
  | some transfer =>
    table.put friend file
      { transfer with position := transfer.position + length, requestPending := false }
  | none => table

end Table

end Transfer

end Switchboard
