import Switchboard.Event.Wire
import Switchboard.Guard
/-!
# The bridge

What callers talk to: a registry, and a factory that makes the engines for new sessions.
-/

namespace Switchboard

structure Bridge (φ ε : Type) where
  registry : Registry ε
  factory : φ

namespace Bridge

variable {φ ε α δ : Type}

def onRegistry (operation : Run (Registry ε) δ α) : Run (Bridge φ ε) δ α :=
  Run.onPart (·.registry) (fun registry bridge => { bridge with registry := registry }) operation

def make [Factory φ ε] (settings : EngineSettings) : Run (Bridge φ ε) δ (Reported ε) :=
  fun bridge =>
    let (made, factory) := Factory.create (ε := ε) settings bridge.factory
    ⟨.ok made, { bridge with factory := factory }, []⟩

def warn : List OptionWarning → Run (Bridge φ ε) δ Unit
  | [] => pure ()
  | warning :: rest => do
    Run.log .warn "engine option guard rail applied" [("warning", .text warning.text)]
    warn rest

/-- Make an engine from options and add it as a session. -/
def create [Engine ε] [Factory φ ε] (options : EngineOptions) :
    Run (Bridge φ ε) CallError Handle := do
  match options.plan with
  | .error fault => Run.fail (.bridge (.invalidOptions fault))
  | .ok (settings, warnings) => do
    warn warnings
    match ← make settings with
    | .ok engine => onRegistry ((Registry.add engine).mapError .bridge)
    | .error code =>
      match Operation.create.reason? code with
      | some reason => Run.fail (.failed ⟨.create, reason⟩)
      | none => do
        let violation := Violation.unexpectedCode Operation.create.name code
        Run.log .error "engine creation returned an unknown code"
          [("violation", .text violation.details)]
        Run.fail (.bridge (.contract violation))

/-- Make an engine and add it as a session, under a guard. -/
def createGuarded [Engine ε] [Factory φ ε] (options : EngineOptions) :
    Run (Bridge φ ε) CallError Guard := do
  return ⟨← create options⟩

def request [Engine ε] (now : Timestamp) (handle : Handle) (request : Request) :
    Run (Bridge φ ε) CallError Reply :=
  onRegistry (Registry.withSession handle (request.perform now))

def drain (handle : Handle) : Run (Bridge φ ε) BridgeError Batch :=
  onRegistry (Registry.drain handle)

def drainEncoded (handle : Handle) : Run (Bridge φ ε) BridgeError (List Char) := do
  return (← drain handle).encode

def kill (handle : Handle) : Run (Bridge φ ε) BridgeError Unit :=
  onRegistry (Registry.kill handle)

def finalize (handle : Handle) : Run (Bridge φ ε) BridgeError Unit :=
  onRegistry (Registry.finalize handle)

def shutdown : Run (Bridge φ ε) BridgeError Nat := onRegistry Registry.shutdown

end Bridge

end Switchboard
