import Switchboard.Proofs.Registry.Admission
/-!
# Runs of a registry

A run asks a registry for one operation after the other (`Command`, `performAll`). What it does to
the handles is told by the list of those sessions moved in under (`Onward`): they were unknown
before and differ from each other, and nothing else becomes known but generation 0 of their slots.
A run composes of its operations, and so does this (`onward_performAll`).
-/

namespace Switchboard

namespace Registry

variable {ε : Type}

/-! ## Commands -/

/-- An operation that may be asked of a registry. -/
inductive Command (ε : Type) where
  | add (engine : ε)
  | use (handle : Handle) (operation : Held ε Reply)
  | drain (handle : Handle)
  | kill (handle : Handle)
  | finalize (handle : Handle)
  | shutdown

inductive Answer where
  | issued (handle : Handle)
  | reply (reply : Reply)
  | events (batch : Batch)
  | done
  | reclaimed (count : Nat)
  deriving DecidableEq, Repr

def Command.perform [Engine ε] : Command ε → Run (Registry ε) CallError Answer
  | .add engine => do return .issued (← (Registry.add engine).mapError .bridge)
  | .use handle operation => do return .reply (← withSession handle operation)
  | .drain handle => do return .events (← (Registry.drain handle).mapError .bridge)
  | .kill handle => do (Registry.kill handle).mapError .bridge; return .done
  | .finalize handle => do (Registry.finalize handle).mapError .bridge; return .done
  | .shutdown => do return .reclaimed (← Registry.shutdown.mapError .bridge)

def issued? : Outcome CallError Answer → Option Handle
  | .ok (.issued handle) => some handle
  | _ => none

/-- How the operations of a run ended, and the registry after it. -/
structure History (ε : Type) where
  outcomes : List (Outcome CallError Answer)
  registry : Registry ε

def History.issued (history : History ε) : List Handle := history.outcomes.filterMap issued?

/-- Perform operations one after the other. Neither an error nor a panic ends the run. -/
def performAll [Engine ε] : List (Command ε) → Registry ε → History ε
  | [], registry => ⟨[], registry⟩
  | command :: rest, registry =>
    let ran := command.perform registry
    let after := performAll rest ran.state
    ⟨ran.outcome :: after.outcomes, after.registry⟩

theorem performAll_append [Engine ε] (first second : List (Command ε)) (registry : Registry ε) :
    performAll (first ++ second) registry =
      ⟨(performAll first registry).outcomes ++
          (performAll second (performAll first registry).registry).outcomes,
        (performAll second (performAll first registry).registry).registry⟩ := by
  induction first generalizing registry with
  | nil => rfl
  | cons command rest ih => simp only [List.cons_append, performAll, ih]

/-! ## What becomes known -/

/-- Generation 0 of a slot that is in use. No session ever gets such a handle. -/
def Zeroth (taken : List Handle) (handle : Handle) : Prop :=
  handle.generation = 0 ∧ ∃ other ∈ taken, other.slot = handle.slot

instance (taken : List Handle) (handle : Handle) : Decidable (Zeroth taken handle) :=
  inferInstanceAs (Decidable (_ ∧ _))

private theorem zeroth_append {first second : List Handle} {handle : Handle} :
    Zeroth (first ++ second) handle ↔ Zeroth first handle ∨ Zeroth second handle := by
  simp only [Zeroth, List.mem_append, or_and_right, exists_or, ← and_or_left]

/-- A registry came from another while sessions moved in under the handles `taken`. -/
structure Onward (first : Registry ε) (taken : List Handle) (second : Registry ε) : Prop where
  sound : second.Sound
  lockPoisoned_eq : second.lockPoisoned = first.lockPoisoned
  new : ∀ handle ∈ taken, first.state? handle = none
  distinct : taken.Nodup
  unknown_iff : ∀ handle, second.state? handle = none ↔
    first.state? handle = none ∧ handle ∉ taken ∧ ¬ Zeroth taken handle
  finalized : ∀ handle, first.state? handle = some .finalized →
    second.state? handle = some .finalized

namespace Onward

theorem refl {registry : Registry ε} (sound : registry.Sound) : Onward registry [] registry where
  sound := sound
  lockPoisoned_eq := rfl
  new := fun _ hm => nomatch hm
  distinct := List.nodup_nil
  unknown_iff := fun handle => by simp [Zeroth]
  finalized := fun _ hf => hf

theorem of_upkeep {first second : Registry ε} (sound : first.Sound) (h : Upkeep first second) :
    Onward first [] second where
  sound := h.sound sound
  lockPoisoned_eq := h.lockPoisoned_eq
  new := fun _ hm => nomatch hm
  distinct := List.nodup_nil
  unknown_iff := fun handle => by simp [Zeroth, h.state?_eq_none_iff sound]
  finalized := fun _ hf => h.finalized sound hf

theorem trans {first second third : Registry ε} {earlier later : List Handle}
    (h₁ : Onward first earlier second) (h₂ : Onward second later third) :
    Onward first (earlier ++ later) third where
  sound := h₂.sound
  lockPoisoned_eq := h₂.lockPoisoned_eq.trans h₁.lockPoisoned_eq
  new := by
    intro handle hm
    rcases List.mem_append.mp hm with hm | hm
    · exact h₁.new handle hm
    · exact ((h₁.unknown_iff handle).mp (h₂.new handle hm)).1
  distinct := by
    refine List.nodup_append.mpr ⟨h₁.distinct, h₂.distinct, ?_⟩
    rintro handle he _ hm rfl
    exact ((h₁.unknown_iff handle).mp (h₂.new handle hm)).2.1 he
  unknown_iff := by
    intro handle
    rw [h₂.unknown_iff, h₁.unknown_iff, zeroth_append, List.mem_append, not_or, not_or]
    constructor
    · rintro ⟨⟨hu, he, hze⟩, hl, hzl⟩
      exact ⟨hu, ⟨he, hl⟩, hze, hzl⟩
    · rintro ⟨hu, ⟨he, hl⟩, hze, hzl⟩
      exact ⟨⟨hu, he, hze⟩, hl, hzl⟩
  finalized := fun handle hf => h₂.finalized handle (h₁.finalized handle hf)

end Onward

/-- A session that moved in, in whatever state it stays. -/
theorem onward_admitted {registry ready : Registry ε} {handle : Handle} (sound : registry.Sound)
    (claimed : Claimed registry handle ready) {occupant : Occupant ε}
    (hn : occupant.state ≠ .finalized) (live : Nat) :
    Onward registry [handle] (ready.admitted handle occupant live) where
  sound := sound_admitted claimed sound hn live
  lockPoisoned_eq := admitted_lockPoisoned claimed _ _
  new := by
    intro other hm
    rw [List.mem_singleton.mp hm]
    exact claimed.unknown sound
  distinct := List.nodup_cons.mpr ⟨List.not_mem_nil, List.nodup_nil⟩
  unknown_iff := by
    intro other
    rw [state?_admitted claimed sound, List.mem_singleton]
    by_cases he : other = handle
    · simp [he]
    · by_cases hz : other.slot = handle.slot ∧ other.generation = 0
      · simp [he, hz, Zeroth]
      · have hnz : ¬ Zeroth [handle] other := by
          rintro ⟨hg, taken, hm, hs⟩
          rw [List.mem_singleton.mp hm] at hs
          exact hz ⟨hs.symm, hg⟩
        simp [he, hz, hnz]
  finalized := by
    intro other hf
    have hne : other ≠ handle := by
      rintro rfl
      rw [claimed.unknown sound] at hf
      cases hf
    rw [state?_admitted claimed sound, if_neg hne]
    split
    · rfl
    · exact hf

/-! ## Steps and runs -/

def TellsAddressing [Engine ε] (engine : ε) : Prop :=
  (Engine.perform .addressing engine).1.isSome = true

/-- The engine does not panic while it is added. -/
def Registers [Engine ε] (engine : ε) : Prop :=
  TellsAddressing engine ∧
    (Session.subscribe NotificationKind.all (Engine.perform .addressing engine).2).1 = true

theorem state_perform_add [Engine ε] (engine : ε) (registry : Registry ε) :
    (Command.perform (.add engine) registry).state = (Registry.add engine registry).state := by
  simp only [Command.perform, Run.mapError, Run.bind_apply, Run.andThen]
  cases (Registry.add engine registry).outcome <;> rfl

private theorem onward_add [Engine ε] {engine : ε} {registry : Registry ε} (sound : registry.Sound)
    (answers : TellsAddressing engine) :
    ∃ taken, Onward registry taken (Command.perform (.add engine) registry).state ∧
      (issued? (Command.perform (.add engine) registry).outcome).toList.Sublist taken ∧
      (Registers engine →
        taken = (issued? (Command.perform (.add engine) registry).outcome).toList) := by
  have hadd := added_add engine registry
  simp only [Command.perform, Run.mapError, Run.bind_apply, Run.andThen]
  generalize (Registry.add engine registry).outcome = outcome,
    (Registry.add engine registry).state = next at hadd ⊢
  cases hadd with
  | refused =>
    exact ⟨[], .of_upkeep sound (.release _), .refl _, fun _ => rfl⟩
  | unanswered claimed ha =>
    simp [TellsAddressing, ha] at answers
  | @unsubscribed handle _ _ _ _ _ claimed ha hs =>
    have hn : Lifecycle.created ≠ .finalized := by decide
    refine ⟨[handle], onward_admitted sound claimed hn _, List.nil_sublist _, ?_⟩
    intro registers
    simp [Registers, ha, hs] at registers
  | @active handle _ _ _ _ _ claimed ha hs =>
    have hn : Lifecycle.active ≠ .finalized := by decide
    exact ⟨[handle], onward_admitted sound claimed hn _, .refl _, fun _ => rfl⟩

/-- An operation that is answered with something else than a handle. -/
theorem change_answered {α : Type} {run : Run (Registry ε) CallError α}
    (h : Run.Moves Change run) {answer : α → Answer}
    (ha : ∀ value, issued? (.ok (answer value)) = none) (registry : Registry ε) :
    Change registry
        ((do return answer (← run) : Run (Registry ε) CallError Answer) registry).state ∧
      issued? ((do return answer (← run) : Run (Registry ε) CallError Answer) registry).outcome =
        none := by
  have hs := h registry
  simp only [Run.bind_apply, Run.andThen]
  cases (run registry).outcome with
  | ok value => exact ⟨hs, ha value⟩
  | error cause => exact ⟨hs, rfl⟩
  | panic => exact ⟨hs, rfl⟩

/-- Every command but adding changes the registry in the known ways, and issues nothing. -/
theorem change_perform [Engine ε] {command : Command ε} (h : ∀ engine, command ≠ .add engine)
    (registry : Registry ε) :
    Change registry (command.perform registry).state ∧
      issued? (command.perform registry).outcome = none := by
  cases command with
  | add engine => exact absurd rfl (h engine)
  | use handle operation =>
    exact change_answered (change_withSession handle operation) (fun _ => rfl) registry
  | drain handle =>
    exact change_answered ((change_drain handle).mapError _) (fun _ => rfl) registry
  | kill handle => exact change_answered ((change_kill handle).mapError _) (fun _ => rfl) registry
  | finalize handle =>
    exact change_answered ((change_finalize handle).mapError _) (fun _ => rfl) registry
  | shutdown => exact change_answered (change_shutdown.mapError _) (fun _ => rfl) registry

theorem onward_perform [Engine ε] {command : Command ε} {registry : Registry ε}
    (sound : registry.Sound) (answers : ∀ engine, command = .add engine → TellsAddressing engine) :
    ∃ taken, Onward registry taken (command.perform registry).state ∧
      (issued? (command.perform registry).outcome).toList.Sublist taken ∧
      ((∀ engine, command = .add engine → Registers engine) →
        taken = (issued? (command.perform registry).outcome).toList) := by
  by_cases hadd : ∃ engine, command = .add engine
  · obtain ⟨engine, rfl⟩ := hadd
    obtain ⟨taken, honward, hsub, heq⟩ := onward_add sound (answers engine rfl)
    exact ⟨taken, honward, hsub, fun registers => heq (registers engine rfl)⟩
  · obtain ⟨hchange, hnone⟩ := change_perform (fun engine e => hadd ⟨engine, e⟩) registry
    rw [hnone]
    exact ⟨[], .of_upkeep sound hchange.upkeep, .refl _, fun _ => rfl⟩

/-- A whole run: the issued handles are among those sessions moved in under, and are all of them
if no engine panics while it is added. -/
theorem onward_performAll [Engine ε] (commands : List (Command ε)) {registry : Registry ε}
    (sound : registry.Sound) (answers : ∀ engine, .add engine ∈ commands → TellsAddressing engine) :
    ∃ taken, Onward registry taken (performAll commands registry).registry ∧
      (performAll commands registry).issued.Sublist taken ∧
      ((∀ engine, .add engine ∈ commands → Registers engine) →
        taken = (performAll commands registry).issued) := by
  induction commands generalizing registry with
  | nil => exact ⟨[], .refl sound, .refl _, fun _ => rfl⟩
  | cons command rest ih =>
    obtain ⟨here, hstep, hsub, heq⟩ := onward_perform sound fun engine e =>
      answers engine (e ▸ List.mem_cons_self)
    obtain ⟨there, hrest, hsub', heq'⟩ := ih hstep.sound fun engine hm =>
      answers engine (List.mem_cons_of_mem _ hm)
    have hissued : (performAll (command :: rest) registry).issued =
        (issued? (command.perform registry).outcome).toList ++
          (performAll rest (command.perform registry).state).issued := by
      simp only [History.issued, performAll, List.filterMap_cons]
      cases issued? (command.perform registry).outcome <;> rfl
    rw [hissued]
    refine ⟨here ++ there, hstep.trans hrest, hsub.append hsub', fun registers => ?_⟩
    rw [heq fun engine e => registers engine (e ▸ List.mem_cons_self),
      heq' fun engine hm => registers engine (List.mem_cons_of_mem _ hm)]

end Registry

end Switchboard
