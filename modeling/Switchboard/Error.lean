import Switchboard.Failure
import Switchboard.Options
import Switchboard.Violation
/-!
# Errors

A bridge error is a refusal around the engine: by the registry, by a lock, by the options or for a
violated contract. A call error is either one of these or a failure the engine itself reported.
Each has a message and a list of causes, from the nearest to the last.
-/

namespace Switchboard

/-- The locks a panic can leave broken: one of a session, the one of the registry, or one that a
caller reports on its own account. -/
inductive LockScope where
  | session
  | registry
  | caller
  deriving DecidableEq, Repr

def LockScope.name : LockScope → String
  | .session => "session"
  | .registry => "registry"
  | .caller => "caller"

/-- A batch that could not be written, for the reason given by whoever tried. -/
structure EncodeError where
  batchLength : Nat
  cause : String
  deriving DecidableEq, Repr

namespace EncodeError

def message (_ : EncodeError) : String := "failed to encode event batch"

def causes (error : EncodeError) : List String := [error.cause]

end EncodeError

inductive BridgeError where
  /-- The handle names no session that can be used. -/
  | notFound (handle : Handle)
  /-- The session is disabled by an earlier violation. -/
  | poisoned (handle : Handle)
  /-- The registry holds as many sessions as it may. -/
  | capacityExhausted (limit : UInt64)
  | lockPoisoned (scope : LockScope)
  | invalidOptions (fault : OptionFault)
  | contract (violation : Violation)
  | encode (error : EncodeError)
  deriving DecidableEq, Repr

namespace BridgeError

def message : BridgeError → String
  | .notFound _ => "instance not found"
  | .poisoned _ => "session poisoned by an earlier contract violation"
  | .capacityExhausted _ => "session capacity exhausted"
  | .lockPoisoned _ => "lock poisoned"
  | .invalidOptions _ => "invalid engine options"
  | .contract _ => "engine contract violated"
  | .encode _ => "failed to encode drained events"

def causes : BridgeError → List String
  | .invalidOptions fault => [fault.message]
  | .contract violation => [violation.message]
  | .encode error => error.message :: error.causes
  | _ => []

end BridgeError

inductive CallError where
  | bridge (error : BridgeError)
  | failed (failure : Failure)
  deriving DecidableEq, Repr

namespace CallError

def message : CallError → String
  | .bridge error => error.message
  | .failed failure => "operation failed: " ++ failure.reason.message

def causes : CallError → List String
  | .bridge error => error.message :: error.causes
  | .failed failure => [failure.reason.message]

def violation? : CallError → Option Violation
  | .bridge (.contract violation) => some violation
  | _ => none

end CallError

end Switchboard
