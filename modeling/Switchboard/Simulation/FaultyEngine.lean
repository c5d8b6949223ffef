import Switchboard.Simulation.SimulatedEngine
/-!
# Faulty engines

A simulated engine together with ways in which it misbehaves: it panics, answers with numbers and
codes of its own, or says that it holds more bytes than it does.
-/

namespace Switchboard

structure Faults where
  /-- Panic when asked how files are numbered. -/
  addressingPanics : Bool := false
  /-- Panic when asked for a kind of notification after this many. -/
  registerLimit : Option Nat := none
  /-- Fail with this code when asked for a topic, but not when asked for its size. -/
  groupTopicCode : Option UInt32 := none
  /-- Give every offered file this number. -/
  fileNumber : Option UInt32 := none
  /-- Say that the saved state and the name have this many bytes more. -/
  extraBytes : Nat := 0
  deriving DecidableEq, Repr

structure FaultyEngine where
  engine : SimulatedEngine
  faults : Faults := {}
  deriving DecidableEq, Repr

namespace FaultyEngine

/-- Let the engine itself answer. -/
def sound (call : Call) (faulty : FaultyEngine) : Option call.Answer × FaultyEngine :=
  let (answer, engine) := faulty.engine.answer call
  (answer, { faulty with engine := engine })

def answer (call : Call) (faulty : FaultyEngine) : Option call.Answer × FaultyEngine :=
  match call with
  | .addressing =>
    if faulty.faults.addressingPanics then (none, faulty) else sound .addressing faulty
  | .register kind =>
    match faulty.faults.registerLimit with
    | some limit =>
      if limit ≤ faulty.engine.registered.length then (none, faulty)
      else sound (.register kind) faulty
    | none => sound (.register kind) faulty
  | .groupTopic group room =>
    match faulty.faults.groupTopicCode with
    | some code => (some (.error code), faulty)
    | none => sound (.groupTopic group room) faulty
  | .fileSend friend kind size name =>
    let (answer, faulty) := sound (.fileSend friend kind size name) faulty
    (answer.map fun reported => reported.map fun number => faulty.faults.fileNumber.getD number,
      faulty)
  | .savedataSize =>
    let (answer, faulty) := sound .savedataSize faulty
    (answer.map (· + faulty.faults.extraBytes), faulty)
  | .selfNameSize =>
    let (answer, faulty) := sound .selfNameSize faulty
    (answer.map (· + faulty.faults.extraBytes), faulty)
  | other => sound other faulty

instance : Engine FaultyEngine where
  perform := answer

end FaultyEngine

end Switchboard
