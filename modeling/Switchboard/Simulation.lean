import Switchboard.Bridge
import Switchboard.Simulation.SimulatedFactory
/-!
# Simulations

A bridge over simulated engines, every one of which can be inspected by its number, also when it
has left the registry.
-/

namespace Switchboard

def Registry.mapEngines {ε : Type} (change : ε → ε) (registry : Registry ε) : Registry ε :=
  { registry with
    slots := registry.slots.map fun slot =>
      { slot with
        occupant := slot.occupant.map fun occupant =>
          { occupant with
            session :=
              { occupant.session with engine := occupant.session.engine.map change } } }
    released := registry.released.map change }

def Registry.engines {ε : Type} (registry : Registry ε) : List ε :=
  registry.slots.filterMap fun slot => slot.occupant.bind fun occupant => occupant.session.engine

structure Simulation where
  bridge : Bridge SimulatedFactory FaultyEngine
  /-- Engines that were made and dropped outside the registry. -/
  dropped : List FaultyEngine

namespace Simulation

def start (addressing : Addressing) (config : Registry.Config) : Simulation :=
  ⟨⟨.empty config, { addressing := addressing }⟩, []⟩

/-- The engine with a number, and whether it has been dropped. -/
def engine? (number : Nat) (simulation : Simulation) : Option (SimulatedEngine × Bool) :=
  let has (faulty : FaultyEngine) : Bool := faulty.engine.number == number
  match simulation.bridge.registry.engines.find? has with
  | some faulty => some (faulty.engine, false)
  | none =>
    ((simulation.bridge.registry.released ++ simulation.dropped).find? has).map fun faulty =>
      (faulty.engine, true)

/-- Change the engine with a number. -/
def updateEngine (number : Nat) (change : SimulatedEngine → SimulatedEngine)
    (simulation : Simulation) : Simulation :=
  let update (faulty : FaultyEngine) : FaultyEngine :=
    if faulty.engine.number = number then { faulty with engine := change faulty.engine }
    else faulty
  { bridge :=
      { simulation.bridge with registry := simulation.bridge.registry.mapEngines update }
    dropped := simulation.dropped.map update }

def onBridge {δ α : Type} (operation : Run (Bridge SimulatedFactory FaultyEngine) δ α) :
    Run Simulation δ α :=
  Run.onPart (·.bridge) (fun bridge simulation => { simulation with bridge := bridge }) operation

def addEngine (addressing : Addressing) (settings : EngineSettings) (faults : Faults) :
    Run Simulation BridgeError Handle := fun simulation =>
  let (engine, factory) := simulation.bridge.factory.build addressing settings
  onBridge (Bridge.onRegistry (Registry.add ⟨engine, faults⟩))
    { simulation with bridge := { simulation.bridge with factory := factory } }

/-- Ask the factory for an engine and drop it; how it numbers files. -/
def tryFactory (settings : EngineSettings) (simulation : Simulation) :
    Reported Addressing × Simulation :=
  let (made, factory) :=
    Factory.create (ε := FaultyEngine) settings simulation.bridge.factory
  let bridge := { simulation.bridge with factory := factory }
  match made with
  | .ok faulty => (.ok faulty.engine.addressing, ⟨bridge, simulation.dropped ++ [faulty]⟩)
  | .error code => (.error code, { simulation with bridge := bridge })

end Simulation

end Switchboard
