import Switchboard.Simulation.FaultyEngine
/-!
# The simulated factory

A factory of simulated engines. It can be made to fail once, and it remembers the settings of the
last engine it was asked for. Engines are numbered in the order in which they are built, also those
that are built without being asked of the factory.
-/

namespace Switchboard

structure SimulatedFactory where
  addressing : Addressing
  /-- The code to fail with the next time. -/
  failure : Option UInt32 := none
  lastSettings : Option EngineSettings := none
  /-- How many engines the factory was asked for and made. -/
  made : Nat := 0
  /-- How many engines were built. -/
  built : Nat := 0
  deriving DecidableEq, Repr

namespace SimulatedFactory

def build (addressing : Addressing) (settings : EngineSettings) (factory : SimulatedFactory) :
    SimulatedEngine × SimulatedFactory :=
  (SimulatedEngine.make (factory.built + 1) addressing settings,
    { factory with built := factory.built + 1 })

def failNext (code : UInt32) (factory : SimulatedFactory) : SimulatedFactory :=
  { factory with failure := some code }

/-- Make an engine, unless the factory was made to fail or the proxy has no host. -/
def create (settings : EngineSettings) (factory : SimulatedFactory) :
    Reported SimulatedEngine × SimulatedFactory :=
  let factory := { factory with lastSettings := some settings }
  match factory.failure with
  | some code => (.error code, { factory with failure := none })
  | none =>
    if settings.proxyType ≠ 0 ∧ settings.proxyHost = "" then
      (.error (Operation.create.code .proxyHost), factory)
    else
      let (engine, factory) := factory.build factory.addressing settings
      (.ok engine, { factory with made := factory.made + 1 })

instance : Factory SimulatedFactory SimulatedEngine where
  create := create

/-- Engines of the factory have no faults. -/
instance : Factory SimulatedFactory FaultyEngine where
  create settings factory :=
    let (made, factory) := factory.create settings
    (made.map fun engine => { engine := engine }, factory)

end SimulatedFactory

end Switchboard
