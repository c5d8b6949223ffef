import Switchboard.Proofs.Registry.Command
import Switchboard.Simulation.SimulatedEngine
/-!
# Handles over whole runs

What callers may rely on about the handles a registry issued: none is issued twice, and once its
session is gone a handle reaches nobody for the rest of the run, however often its slot is used
again. And what the registry can tell about a handle that it never issued.
-/

namespace Switchboard

namespace Registry

variable {ε : Type}

/-! ## Stale handles -/

/-- The session of the handle is gone, and whatever is asked under the handle reaches no other. -/
structure Stale (registry : Registry ε) (handle : Handle) : Prop where
  state : registry.state? handle = some .finalized
  use : ∀ (α : Type) (operation : Held ε α),
    withSession handle operation registry = ⟨.error (.bridge (.notFound handle)), registry, []⟩
  drain : Registry.drain handle registry = ⟨.error (.notFound handle), registry, []⟩
  kill : Registry.kill handle registry = ⟨.error (.notFound handle), registry, []⟩
  finalize : (Registry.finalize handle registry).outcome = .ok () ∧
    (Registry.finalize handle registry).state = registry

private theorem stale_of_finalized {registry : Registry ε} {handle : Handle}
    (sound : registry.Sound) (hl : registry.lockPoisoned = false)
    (hf : registry.state? handle = some .finalized) :
    Stale registry handle := by
  obtain ⟨ho, hi⟩ := sound.occupant?_of_finalized hf
  have hs : registry.state? handle ≠ some .active := by
    rw [hf]
    exact fun e => nomatch e
  exact
    { state := hf
      use := fun _ => withSession_of_inactive hl hs
      drain := drain_of_inactive hl hs
      kill := kill_of_absent hl ho
      finalize := finalize_of_finalized hl ho hi }

private theorem nodup_raw {handles : List Handle} (h : handles.Nodup) :
    (handles.map Handle.raw).Nodup := by
  refine List.pairwise_map.mpr (h.imp fun {a b} hne he => hne ?_)
  rw [← Handle.ofRaw_raw a, he, Handle.ofRaw_raw]

/-- Issued handles differ from each other, as do their numbers, and a handle whose session is gone
at some point of a run is stale at every later one. -/
theorem issued_nodup_and_stale_forever [Engine ε] (config : Config)
    (earlier later : List (Command ε))
    (answers : ∀ engine, .add engine ∈ earlier ++ later → TellsAddressing engine) :
    (performAll (earlier ++ later) (empty config)).issued.Nodup ∧
      ((performAll (earlier ++ later) (empty config)).issued.map Handle.raw).Nodup ∧
      (∀ handle : Handle, Handle.ofRaw handle.raw = handle) ∧
      ∀ handle, (performAll earlier (empty config)).registry.state? handle = some .finalized →
        Stale (performAll (earlier ++ later) (empty config)).registry handle := by
  obtain ⟨before, hbefore, hsub, -⟩ := onward_performAll earlier (sound_empty config)
    fun engine hm => answers engine (List.mem_append_left _ hm)
  obtain ⟨after, hafter, hsub', -⟩ := onward_performAll later hbefore.sound
    fun engine hm => answers engine (List.mem_append_right _ hm)
  have hnodup : (performAll (earlier ++ later) (empty config)).issued.Nodup := by
    simp only [History.issued, performAll_append, List.filterMap_append]
    exact (hbefore.trans hafter).distinct.sublist (hsub.append hsub')
  refine ⟨hnodup, nodup_raw hnodup, Handle.ofRaw_raw, fun handle hf => ?_⟩
  rw [performAll_append]
  refine stale_of_finalized hafter.sound ?_ (hafter.finalized handle hf)
  rw [hafter.lockPoisoned_eq, hbefore.lockPoisoned_eq]
  rfl

def sampleEngine : SimulatedEngine := { number := 1, addressing := .legacy, savedata := [] }

/-- One slot, used three times. -/
theorem stale_in_a_reused_slot :
    (performAll [.add sampleEngine, .kill ⟨0, 1⟩, .finalize ⟨0, 1⟩, .add sampleEngine,
        .finalize ⟨0, 2⟩, .add sampleEngine] (empty {})).issued = [⟨0, 1⟩, ⟨0, 2⟩, ⟨0, 3⟩] ∧
      Stale (performAll [.add sampleEngine, .kill ⟨0, 1⟩, .finalize ⟨0, 1⟩, .add sampleEngine,
        .finalize ⟨0, 2⟩, .add sampleEngine] (empty {})).registry ⟨0, 1⟩ := by
  refine ⟨by decide +kernel, ?_⟩
  refine (issued_nodup_and_stale_forever {}
    [.add sampleEngine, .kill ⟨0, 1⟩, .finalize ⟨0, 1⟩]
    [.add sampleEngine, .finalize ⟨0, 2⟩, .add sampleEngine] ?_).2.2.2 ⟨0, 1⟩ (by decide +kernel)
  intro engine hm
  simp only [List.cons_append, List.nil_append, List.mem_cons, reduceCtorEq, Command.add.injEq,
    false_or, List.not_mem_nil, or_false, or_self] at hm
  rw [hm]
  rfl

/-! ## Handles that were never issued -/

theorem finalize_notFound_iff {registry : Registry ε} {handle : Handle} (sound : registry.Sound)
    (hl : registry.lockPoisoned = false) :
    (Registry.finalize handle registry).outcome = .error (.notFound handle) ↔
      registry.state? handle = none := by
  cases ho : registry.occupant? handle with
  | none =>
    cases hi : registry.wasIssued handle with
    | true => simp [(finalize_of_finalized hl ho hi).1, state?, ho, hi]
    | false => simp [finalize_of_unknown hl ho hi, state?, ho, hi]
  | some occupant =>
    rw [state?_of_occupant ho]
    by_cases hk : occupant.state = .killed
    · simp [(finalize_of_killed hl ho hk).1]
    · rw [(finalize_of_not_killed hl ho hk).1]
      have hkills := kills_kill handle registry
      generalize (Registry.kill handle registry).outcome = outcome,
        (Registry.kill handle registry).state = next at hkills ⊢
      cases hkills with
      | refused hr =>
        rcases hr occupant ho hl with hs | hs
        · exact absurd hs hk
        · exact absurd hs (sound.occupant_ne_finalized ho)
      | kept => simp
      | released => simp

/-- If no engine panics while it is added, exactly the handles a run issued are known after it, and
beside them generation 0 of every slot that was used. -/
theorem unknown_iff_not_issued [Engine ε] (config : Config) (commands : List (Command ε))
    (registers : ∀ engine, .add engine ∈ commands → Registers engine) (handle : Handle) :
    ((performAll commands (empty config)).registry.state? handle = none ↔
        handle ∉ (performAll commands (empty config)).issued ∧
          ¬ Zeroth (performAll commands (empty config)).issued handle) ∧
      ((finalize handle (performAll commands (empty config)).registry).outcome =
          .error (.notFound handle) ↔
        handle ∉ (performAll commands (empty config)).issued ∧
          ¬ Zeroth (performAll commands (empty config)).issued handle) := by
  obtain ⟨taken, honward, -, heq⟩ := onward_performAll commands (sound_empty config)
    fun engine hm => (registers engine hm).1
  rw [← heq registers]
  have hstate := honward.unknown_iff handle
  have hempty : (empty config : Registry ε).state? handle = none := rfl
  simp only [hempty, true_and] at hstate
  have hl : (performAll commands (empty config)).registry.lockPoisoned = false :=
    honward.lockPoisoned_eq
  exact ⟨hstate, (finalize_notFound_iff honward.sound hl).trans hstate⟩

/-- After one session the next generation of its slot is still unknown. -/
theorem unknown_beside_an_issued_handle :
    (performAll [.add sampleEngine] (empty {})).registry.state? ⟨0, 2⟩ = none ∧
      (performAll [.add sampleEngine] (empty {})).issued = [⟨0, 1⟩] := by
  refine ⟨(unknown_iff_not_issued {} [.add sampleEngine] ?_ ⟨0, 2⟩).1.mpr (by decide +kernel),
    by decide +kernel⟩
  intro engine hm
  simp only [List.mem_singleton, Command.add.injEq] at hm
  rw [hm]
  exact ⟨rfl, rfl⟩

/-- Generation 0 of a slot passes for a handle whose session is gone, though nobody was given it. -/
theorem zeroth_passes_for_issued :
    (performAll [.add sampleEngine] (empty {})).issued = [⟨0, 1⟩] ∧
      (performAll [.add sampleEngine] (empty {})).registry.state? ⟨0, 0⟩ = some .finalized ∧
      (Registry.finalize ⟨0, 0⟩ (performAll [.add sampleEngine] (empty {})).registry).outcome =
        .ok () := by
  decide +kernel

end Registry

end Switchboard
