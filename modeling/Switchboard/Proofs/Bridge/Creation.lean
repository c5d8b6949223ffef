import Switchboard.Proofs.Bridge.Delivery
import Switchboard.Proofs.Options.Plan
import Switchboard.Simulation.SimulatedFactory
/-!
# Options of new sessions

A session is created from options that meet every demand; all others are refused before anything is
done (`options_accepted_iff`). A simulated factory that was not made to fail makes an engine of
whatever was planned (`made_of_coherent`).
-/

namespace Switchboard

/-- Only the making of an engine gives a reason for a failed creation; adding it gives none. -/
theorem Run.mapError_bridge_ne_failed {σ α : Type} (run : Run σ BridgeError α) (state : σ)
    (failure : Failure) :
    (Run.mapError CallError.bridge run state).outcome ≠ .error (.failed failure) := by
  unfold Run.mapError
  dsimp only
  split <;> exact fun h => nomatch h

namespace SimulatedFactory

/-- What options are planned to be is enough for the simulated factory. -/
theorem made_of_coherent {settings : EngineSettings} (coherent : settings.Coherent)
    {factory : SimulatedFactory} (sound : factory.failure = none) :
    ∃ engine after, factory.create settings = (.ok engine, after) := by
  have hproxy : ¬ (settings.proxyType ≠ 0 ∧ settings.proxyHost = "") := by
    rintro ⟨htype, hhost⟩
    exact htype (coherent.direct_iff.mpr hhost)
  simp only [create, sound, if_neg hproxy]
  exact ⟨_, _, rfl⟩

/-- Engines are numbered by how many were built. -/
theorem eq_make_of_create {settings : EngineSettings} {factory after : SimulatedFactory}
    {engine : SimulatedEngine} (h : factory.create settings = (.ok engine, after)) :
    engine = .make (factory.built + 1) factory.addressing settings := by
  unfold create at h
  cases failure : factory.failure with
  | some code =>
    rw [failure] at h
    cases h
  | none =>
    rw [failure] at h
    dsimp only at h
    split at h
    · cases h
    · cases h
      rfl

end SimulatedFactory

namespace Bridge

variable {φ ε : Type}

open EngineOptions (Demand)

/-- Options that are refused are refused before anything is done. -/
theorem create_of_fault [Engine ε] [Factory φ ε] {options : EngineOptions} {fault : OptionFault}
    (h : options.plan = .error fault) (bridge : Bridge φ ε) :
    create options bridge = ⟨.error (.bridge (.invalidOptions fault)), bridge, []⟩ := by
  simp only [create, h]
  rfl

/-- No reason is given for a failure if the factory makes an engine. -/
theorem create_ne_failed [Engine ε] [Factory φ ε] {options : EngineOptions}
    {settings : EngineSettings} {warnings : List OptionWarning}
    (plan : options.plan = .ok (settings, warnings)) {bridge : Bridge φ ε} {engine : ε} {after : φ}
    (made : Factory.create settings bridge.factory = (.ok engine, after)) (failure : Failure) :
    (create options bridge).outcome ≠ .error (.failed failure) := by
  obtain ⟨entries, hwarn⟩ := warn_apply warnings bridge
  simp only [create, plan, Run.bind_apply, hwarn, Run.andThen_ok, make, made]
  exact Run.mapError_bridge_ne_failed (Registry.add engine) bridge.registry failure

/-- Options are planned exactly if they meet every demand. Otherwise the first demand that they do
not meet is what they are refused for, and neither the factory nor the registry is touched. What is
planned is coherent, and no simulated factory refuses it of itself. -/
theorem options_accepted_iff (options : EngineOptions) :
    ((∃ planned, options.plan = .ok planned) ↔ ∀ demand : Demand, demand.Met options) ∧
      (∀ fault, options.plan = .error fault →
        (∃ demand, options.FirstUnmet demand ∧ fault = demand.fault options ∧
          fault.field = demand.field) ∧
          ∀ (φ ε : Type) [Engine ε] [Factory φ ε] (bridge : Bridge φ ε),
            create options bridge = ⟨.error (.bridge (.invalidOptions fault)), bridge, []⟩) ∧
      ∀ settings warnings, options.plan = .ok (settings, warnings) → settings.Coherent ∧
        ∀ bridge : Bridge SimulatedFactory SimulatedEngine, bridge.factory.failure = none →
          (∃ engine after, Factory.create settings bridge.factory =
            ((.ok engine, after) : Reported SimulatedEngine × SimulatedFactory)) ∧
          ∀ reason, (create options bridge).outcome ≠ .error (.failed ⟨.create, reason⟩) := by
  refine ⟨?_, ?_, ?_⟩
  · constructor
    · rintro ⟨planned, hplan⟩
      exact (EngineOptions.plan_eq_ok_iff.mp hplan).1
    · intro met
      exact ⟨_, EngineOptions.plan_of_met met⟩
  · intro fault hplan
    obtain ⟨demand, first, rfl⟩ := EngineOptions.exists_firstUnmet_of_plan hplan
    exact ⟨⟨demand, first, rfl, demand.field_fault options⟩, fun _ _ _ _ => create_of_fault hplan⟩
  · intro settings warnings hplan
    obtain ⟨met, hlaid⟩ := EngineOptions.plan_eq_ok_iff.mp hplan
    have hsettings : settings = options.layout.1 := congrArg Prod.fst hlaid
    have hcoherent : settings.Coherent := hsettings ▸ EngineOptions.coherent_layout met
    refine ⟨hcoherent, fun bridge sound => ?_⟩
    obtain ⟨engine, after, hmade⟩ := SimulatedFactory.made_of_coherent hcoherent sound
    exact ⟨⟨engine, after, hmade⟩, fun reason => create_ne_failed hplan hmade ⟨.create, reason⟩⟩

/-- Options whose last port is out of range, with a proxy that has no host. -/
def outOfRange : EngineOptions where
  proxy := ⟨.http, "", 8080⟩
  endPort := 65536

def newBridge : Bridge SimulatedFactory SimulatedEngine :=
  ⟨.empty {}, { addressing := .unified }⟩

theorem keyed_made_outOfRange_refused :
    (∀ demand : Demand, demand.Met EngineOptions.keyed) ∧
      EngineOptions.keyed.layout.1.Coherent ∧
      (∀ reason, (create EngineOptions.keyed newBridge).outcome ≠
        .error (.failed ⟨.create, reason⟩)) ∧
      (∃ demand, outOfRange.FirstUnmet demand ∧ demand.field = "end_port") ∧
      create outOfRange newBridge =
        ⟨.error (.bridge (.invalidOptions (.portTooLarge .last))), newBridge, []⟩ := by
  have hkeyed : EngineOptions.keyed.plan = .ok (EngineOptions.keyed.layout.1, []) := by rfl
  have hfault : outOfRange.plan = .error (.portTooLarge .last) := by rfl
  obtain ⟨hiff, -, hmade⟩ := options_accepted_iff EngineOptions.keyed
  obtain ⟨-, hrefused, -⟩ := options_accepted_iff outOfRange
  obtain ⟨hcoherent, hcreate⟩ := hmade _ _ hkeyed
  obtain ⟨⟨demand, first, -, hfield⟩, hsame⟩ := hrefused _ hfault
  exact ⟨hiff.mp ⟨_, hkeyed⟩, hcoherent, (hcreate newBridge rfl).2,
    ⟨demand, first, hfield.symm⟩, hsame _ _ newBridge⟩

end Bridge

end Switchboard
