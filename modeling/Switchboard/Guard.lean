import Switchboard.Registry
/-!
# Guards

A guard answers for one session: when the guard is dropped, the session is killed, if it is active,
and finalized. Closing a guard does the same first and reports the failure; dropping it follows and
only logs.
-/

namespace Switchboard

structure Guard where
  handle : Handle
  deriving DecidableEq, Repr

namespace Guard

variable {ε : Type}

/-- Kill the session if it is active, and finalize it. -/
def finish (guard : Guard) : Registry.Op ε Unit := do
  if (← Run.get).state? guard.handle = some .active then Registry.kill guard.handle
  Registry.finalize guard.handle

/-- Kill the session if it is active, and finalize it whether that went well or not. -/
def drop (guard : Guard) : Registry.Op ε Unit := do
  if (← Run.get).state? guard.handle = some .active then
    match ← Run.attempt (Registry.kill guard.handle) with
    | .ok _ => pure ()
    | .error cause =>
      Registry.log .warn "failed to kill guarded session" guard.handle
        [("error", .text cause.message)]
  match ← Run.attempt (Registry.finalize guard.handle) with
  | .ok _ => pure ()
  | .error cause =>
    Registry.log .warn "failed to finalize guarded session" guard.handle
      [("error", .text cause.message)]

/-- Finish the session now and report a failure; the drop of the guard follows. -/
def close (guard : Guard) : Registry.Op ε Unit := do
  let finished ← Run.attempt guard.finish
  guard.drop
  Run.ofExcept finished

end Guard

end Switchboard
