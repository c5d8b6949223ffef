import Switchboard.Bridge
import Switchboard.Proofs.Registry.ErrorLog
/-!
# Errors that the bridge logs

Violations come about in many places: tables of numbers, the transfer table, codes outside a
catalogue, a second kill. In every state that can be reached each is logged once where it is
returned, and nothing else is logged as an error (`violations_logged_once`). A caller that works on
the session itself may still let go of a violation after it was logged (`recovered_still_logged`).
-/

namespace Switchboard

namespace Bridge

variable {φ ε α : Type}

/-! ## Making sessions -/

private theorem quiet_warn (warnings : List OptionWarning) (bridge : Bridge φ ε) :
    (warn warnings bridge).Quiet CallError.violation? := by
  induction warnings generalizing bridge with
  | nil => exact ⟨rfl, rfl⟩
  | cons warning rest ih => exact .bind ⟨rfl, rfl⟩ fun _ => ih _

section Create

variable [Engine ε] [Factory φ ε]

private theorem reports_create (options : EngineOptions) (bridge : Bridge φ ε) :
    (create options bridge).Reports CallError.violation? := by
  rw [create]
  cases options.plan with
  | error fault => exact rfl
  | ok plan =>
    obtain ⟨settings, warnings⟩ := plan
    refine .bind (quiet_warn warnings bridge).reports fun _ => .bind rfl fun made => ?_
    cases made with
    | ok engine =>
      have hadd : ∀ registry, ((Registry.add engine).mapError CallError.bridge registry).Reports
          CallError.violation? := fun registry =>
        (Registry.quiet_add engine registry).reports.mapError CallError.violation?_bridge
      exact hadd _
    | error code =>
      dsimp only
      cases Operation.create.reason? code with
      | some reason => exact rfl
      | none => exact ⟨_, rfl, List.mem_cons_self⟩

private theorem reports_createGuarded (options : EngineOptions) (bridge : Bridge φ ε) :
    (createGuarded options bridge).Reports CallError.violation? :=
  .bind (reports_create options bridge) fun _ => rfl

end Create

/-! ## All operations -/

/-- Every operation of the bridge, of its registry and of guards reports its violation. -/
structure Reporting [Engine ε] [Factory φ ε] (bridge : Bridge φ ε) : Prop where
  registry : bridge.registry.Reporting
  create : ∀ options, (create options bridge).Reports CallError.violation?
  createGuarded : ∀ options, (createGuarded options bridge).Reports CallError.violation?
  request : ∀ now handle request,
    (Bridge.request now handle request bridge).Reports CallError.violation?
  drain : ∀ handle, (drain handle bridge).Reports BridgeError.violation?
  drainEncoded : ∀ handle, (drainEncoded handle bridge).Reports BridgeError.violation?
  kill : ∀ handle, (kill handle bridge).Reports BridgeError.violation?
  finalize : ∀ handle, (finalize handle bridge).Reports BridgeError.violation?
  shutdown : (shutdown bridge).Reports BridgeError.violation?

/-- In every state that a run reaches, an operation that returns a violation logs one error, which
names the violation, and an operation that ends in any other way, be it by a panic, logs none. Work
that a caller does on a session returns and logs what it returns and logs there. -/
theorem violations_logged_once [Engine ε] [Factory φ ε] (config : Registry.Config)
    (deeds : List (Registry.Deed ε)) (factory : φ) :
    Reporting (⟨(Registry.doAll deeds (Registry.empty config)).registry, factory⟩ :
      Bridge φ ε) := by
  obtain ⟨commands, hreached, -, -⟩ := Registry.exists_commands_doAll deeds (Registry.empty config)
  rw [← hreached]
  have hregistry :
      (Registry.performAll commands (Registry.empty config)).registry.Reporting :=
    Registry.reporting fun hl =>
      ⟨(Registry.tallied_performAll commands (Registry.tallied_empty config)).1,
        Registry.stocked_performAll commands (Registry.tallied_empty config) hl
          (Registry.stocked_empty config)⟩
  exact
    { registry := hregistry
      create := fun options => reports_create options _
      createGuarded := fun options => reports_createGuarded options _
      request := fun now handle request =>
        hregistry.built handle (HeldSession.built_request now request)
      drain := hregistry.drain
      drainEncoded := fun handle => .bind (hregistry.drain handle) fun _ => rfl
      kill := hregistry.kill
      finalize := hregistry.finalize
      shutdown := hregistry.shutdown }

/-- Work on a session that lets go of the violation it comes upon. -/
def recovering : Held SimulatedEngine Unit := do
  let _ ← Run.attempt (δ := CallError) (HeldSession.dispatch .epoch ⟨[.friendStatus 0 99], false⟩)
  pure ()

/-- The error stays in the log, though none is returned. -/
theorem recovered_still_logged :
    (Registry.withSession ⟨0, 1⟩ recovering (Registry.doAll [.ask (.add Registry.sampleEngine)]
        (Registry.empty {})).registry).outcome = .ok () ∧
      ¬ (Registry.withSession ⟨0, 1⟩ recovering (Registry.doAll [.ask (.add Registry.sampleEngine)]
        (Registry.empty {})).registry).Reports CallError.violation? := by
  have hok : (Registry.withSession ⟨0, 1⟩ recovering
      (Registry.doAll [.ask (.add Registry.sampleEngine)] (Registry.empty {})).registry).outcome =
        .ok () := by
    decide +kernel
  have hone : (Log.errors (Registry.withSession ⟨0, 1⟩ recovering
      (Registry.doAll [.ask (.add Registry.sampleEngine)]
        (Registry.empty {})).registry).log).length = 1 := by
    decide +kernel
  generalize Registry.withSession ⟨0, 1⟩ recovering
    (Registry.doAll [.ask (.add Registry.sampleEngine)] (Registry.empty {})).registry = ran at *
  refine ⟨hok, fun reports => ?_⟩
  rw [Ran.Reports, hok] at reports
  have hnone : Log.errors ran.log = [] := reports
  rw [hnone] at hone
  cases hone

end Bridge

end Switchboard
