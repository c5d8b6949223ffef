import Switchboard.Proofs.Registry.Removal
import Switchboard.Proofs.Registry.Stock
import Switchboard.Proofs.Session.Built
import Switchboard.Simulation.FaultyEngine
/-!
# Capacity

What the slots, the free list and the counter of a registry have to do with each other in every run
(`Coherent`): the free list has exactly the vacant slots, the counter is the number of sessions that
moved in and are not finalized, and a slot is added only when all others are in use. So a registry
has no more slots than sessions lived in it at once, and turns an engine away exactly when it is
full (`capacity_exact`).
-/

namespace Switchboard

namespace Session

variable {ε α : Type}

def SameHandle (session next : Session ε) : Prop := next.handle = session.handle

private theorem sameHandle_hold {operation : Held ε α} (keeps : HeldSession.KeepsHandle operation)
    (session : Session ε) : session.SameHandle (hold operation session).state := by
  unfold hold
  split
  · rfl
  · split
    · rfl
    · split
      · rfl
      · exact keeps _

private theorem sameHandle_drain (session : Session ε) :
    session.SameHandle (drain session).state := by
  unfold drain
  split <;> rfl

end Session

namespace Registry

variable {ε : Type}

/-! ## The handles of the sessions -/

theorem length_handles (registry : Registry ε) : registry.handles.length = registry.occupied := by
  have hslots : registry.slots = registry.slots.zipIdx.map Prod.fst :=
    (List.zipIdx_map_fst 0 registry.slots).symm
  rw [occupied, hslots, List.countP_map, handles, List.length_filterMap_eq_countP]
  refine List.countP_congr fun entry _ => ?_
  simp

theorem mem_handles {registry : Registry ε} (small : registry.slots.length ≤ 4294967296)
    {handle : Handle} {state : Lifecycle} :
    (handle, state) ∈ registry.handles ↔
      ∃ occupant, registry.occupant? handle = some occupant ∧ occupant.state = state := by
  simp only [handles, List.mem_filterMap, Option.map_eq_some_iff]
  constructor
  · rintro ⟨⟨slot, index⟩, hm, occupant, hin, he⟩
    rw [List.mem_zipIdx_iff_getElem?] at hm
    have hlt := (List.getElem?_eq_some_iff.mp hm).1
    have hindex : (UInt32.ofNat index).toNat = index := toNat_ofNat_of_lt (by omega)
    cases he
    exact ⟨occupant, occupant?_eq_some.mpr
      ⟨slot, by rwa [slot?, hindex], rfl, hin⟩, rfl⟩
  · rintro ⟨occupant, ho, rfl⟩
    obtain ⟨slot, hs, hg, hin⟩ := occupant?_eq_some.mp ho
    refine ⟨(slot, handle.slot.toNat), List.mem_zipIdx_iff_getElem?.mpr hs, occupant, hin, ?_⟩
    rw [UInt32.ofNat_toNat, hg]

theorem nodup_handles {registry : Registry ε} (small : registry.slots.length ≤ 4294967296) :
    (registry.handles.map Prod.fst).Nodup := by
  have hindices : registry.slots.zipIdx.Pairwise fun a b => a.2 ≠ b.2 := by
    apply List.pairwise_map.mp
    rw [List.zipIdx_map_snd]
    exact List.nodup_range'
  have hlt : ∀ entry ∈ registry.slots.zipIdx, entry.2 < 4294967296 := by
    intro entry hm
    have := (List.getElem?_eq_some_iff.mp (List.mem_zipIdx_iff_getElem?.mp hm)).1
    omega
  refine List.pairwise_map.mpr (List.pairwise_filterMap.mpr (hindices.imp_of_mem ?_))
  intro a b ha hb hne first hf second hs he
  obtain ⟨_, _, rfl⟩ := Option.map_eq_some_iff.mp hf
  obtain ⟨_, _, rfl⟩ := Option.map_eq_some_iff.mp hs
  have hslot : UInt32.ofNat a.2 = UInt32.ofNat b.2 := congrArg Handle.slot he
  apply hne
  rw [← toNat_ofNat_of_lt (hlt a ha), ← toNat_ofNat_of_lt (hlt b hb), hslot]

/-! ## Sessions know their handles -/

/-- Every session carries the handle it is reached by. -/
def Named (registry : Registry ε) : Prop :=
  ∀ handle occupant, registry.occupant? handle = some occupant → occupant.session.handle = handle

theorem Named.replace {registry : Registry ε} {handle : Handle} {occupant next : Occupant ε}
    (named : registry.Named) (ho : registry.occupant? handle = some occupant)
    (hn : occupant.session.SameHandle next.session) :
    (registry.setOccupant handle next).Named := by
  obtain ⟨slot, hs, hg, -⟩ := occupant?_eq_some.mp ho
  intro other found hf
  rw [occupant?_setOccupant_eq hs hg] at hf
  split at hf
  · rename_i he
    cases hf
    rw [hn, he]
    exact named handle occupant ho
  · exact named other found hf

theorem ChangeAt.named {handle : Handle} {first second : Registry ε}
    (change : ChangeAt Session.SameHandle handle first second) (named : first.Named) :
    second.Named := by
  induction change with
  | refl => exact named
  | used ho _ hu => exact named.replace ho hu
  | @killed registry occupant ho _ _ =>
    let next : Occupant ε := ⟨.killed, { occupant.session with engine := none, transfers := none }⟩
    have hreplaced : (registry.setOccupant handle next).Named := named.replace ho rfl
    exact hreplaced
  | kept ho _ _ => exact named.replace ho rfl
  | vacated ho _ =>
    intro other found hf
    rw [occupant?_vacate ho] at hf
    split at hf
    · cases hf
    · exact named other found hf
  | trans _ _ ih₁ ih₂ => exact ih₂ (ih₁ named)

/-! ## Runs -/

/-- What a registry keeps to in every run. -/
structure Kept (registry : Registry ε) : Prop where
  tallied : registry.Tallied
  stocked : registry.Stocked
  named : registry.Named

private theorem kept_empty (config : Config) : (empty config : Registry ε).Kept where
  tallied := tallied_empty config
  stocked := stocked_empty config
  named := fun _ _ h => nomatch h

section Step

variable [Engine ε] {engine : ε} {command : Command ε} {registry next : Registry ε}
  {outcome : Outcome BridgeError Handle}

theorem Added.config_eq (added : Added engine registry outcome next) :
    next.config = registry.config := by
  cases added with
  | refused => rfl
  | unanswered claimed => exact claimed.config_eq
  | unsubscribed _ claimed => exact (setOccupant_config _ _ _).trans claimed.config_eq
  | active _ claimed => exact (setOccupant_config _ _ _).trans claimed.config_eq

theorem Added.named (added : Added engine registry outcome next) (named : registry.Named) :
    next.Named := by
  intro other found hf
  cases added with
  | refused => exact named other found hf
  | unanswered claimed => exact named other found ((claimed.occupant? other).symm.trans hf)
  | unsubscribed _ claimed =>
    rw [occupant?_admitted_eq claimed] at hf
    split at hf
    · rename_i he
      cases hf
      exact he.symm
    · exact named other found hf
  | active _ claimed =>
    rw [occupant?_admitted_eq claimed] at hf
    split at hf
    · rename_i he
      cases hf
      exact he.symm
    · exact named other found hf

theorem Added.stocked (added : Added engine registry outcome next)
    (answers : TellsAddressing engine ∨ next.lockPoisoned = false) (sound : registry.Sound)
    (stocked : registry.Stocked) : next.Stocked := by
  cases added with
  | refused =>
    exact ⟨stocked.free_of_vacant, stocked.retired_last, stocked.length_le, stocked.live_le⟩
  | unanswered _ ha => simp [TellsAddressing, ha] at answers
  | unsubscribed _ claimed _ _ room => exact stocked.admitted claimed sound _ room
  | active _ claimed _ _ room => exact stocked.admitted claimed sound _ room

/-- A slot gets lost only where a panic breaks the lock. -/
theorem stocked_perform (tallied : registry.Tallied) (stocked : registry.Stocked)
    (answers : (∀ engine, command = .add engine → TellsAddressing engine) ∨
      (command.perform registry).state.lockPoisoned = false) :
    (command.perform registry).state.Stocked := by
  by_cases hadd : ∃ engine, command = .add engine
  · obtain ⟨engine, rfl⟩ := hadd
    rw [state_perform_add] at answers ⊢
    exact (added_add engine registry).stocked (answers.imp_left fun tells => tells engine rfl)
      tallied.sound stocked
  · have hchange := (change_perform (fun engine e => hadd ⟨engine, e⟩) registry).1
    exact hchange.stocked tallied stocked

/-- Sessions may be used as long as they keep their handles. -/
theorem named_perform (named : registry.Named)
    (keeps : ∀ handle operation, command = .use handle operation →
      HeldSession.KeepsHandle operation) : (command.perform registry).state.Named := by
  have hmoves : ∀ {δ α : Type} {handle : Handle} {run : Run (Registry ε) δ α},
      Run.Moves (ChangeAt Session.SameHandle handle) run →
      Run.Moves (fun first second => first.Named → second.Named) run :=
    fun h registry => (h registry).named
  cases command with
  | add engine =>
    rw [state_perform_add]
    exact (added_add engine registry).named named
  | use handle operation =>
    have huse : Run.Moves (ChangeAt Session.SameHandle handle) (withSession handle operation) :=
      changeAt_withSession handle operation (Session.sameHandle_hold (keeps handle operation rfl))
    exact (hmoves huse).andReturn _ registry named
  | drain handle =>
    have hdrain : Run.Moves (ChangeAt Session.SameHandle handle)
        (Registry.drain handle : Op ε Batch) :=
      changeAt_drain handle Session.sameHandle_drain
    exact ((hmoves hdrain).mapError _).andReturn _ registry named
  | kill handle =>
    exact ((hmoves (changeAt_kill handle)).mapError _).andReturn _ registry named
  | finalize handle =>
    exact ((hmoves (changeAt_finalize handle)).mapError _).andReturn _ registry named
  | shutdown =>
    have hshutdown : Run.Moves (fun first second => first.Named → second.Named)
        (shutdown : Op ε Nat) :=
      moves_shutdown (fun _ hn => hn) (fun h₁ h₂ hn => h₂ (h₁ hn))
        (fun handle => hmoves (changeAt_kill handle))
        (fun handle => hmoves (changeAt_finalize handle))
    exact (hshutdown.mapError _).andReturn _ registry named

theorem kept_perform (kept : registry.Kept)
    (answers : ∀ engine, command = .add engine → TellsAddressing engine)
    (keeps : ∀ handle operation, command = .use handle operation →
      HeldSession.KeepsHandle operation) : (command.perform registry).state.Kept where
  tallied := (tallied_perform command kept.tallied).1
  stocked := stocked_perform kept.tallied kept.stocked (.inl answers)
  named := named_perform kept.named keeps

private theorem config_perform (command : Command ε) (registry : Registry ε) :
    (command.perform registry).state.config = registry.config := by
  by_cases hadd : ∃ engine, command = .add engine
  · obtain ⟨engine, rfl⟩ := hadd
    rw [state_perform_add]
    exact (added_add engine registry).config_eq
  · exact (change_perform (fun engine e => hadd ⟨engine, e⟩) registry).1.config_eq

/-- Slots are added only when all others are in use. -/
theorem length_slots_perform (kept : registry.Kept)
    (answers : ∀ engine, command = .add engine → TellsAddressing engine) :
    registry.spent ≤ (command.perform registry).state.spent ∧
      ((command.perform registry).state.slots.length = registry.slots.length ∨
        (command.perform registry).state.slots.length =
          (command.perform registry).state.live + (command.perform registry).state.spent) := by
  by_cases hadd : ∃ engine, command = .add engine
  · obtain ⟨engine, rfl⟩ := hadd
    have htells := answers engine rfl
    have hadded := added_add engine registry
    rw [state_perform_add]
    generalize (Registry.add engine registry).outcome = outcome,
      (Registry.add engine registry).state = next at hadded ⊢
    cases hadded with
    | refused => exact ⟨Nat.le_refl _, .inl rfl⟩
    | unanswered _ ha => simp [TellsAddressing, ha] at htells
    | unsubscribed _ claimed =>
      obtain ⟨hspent, hlength⟩ := length_slots_admitted claimed kept.tallied kept.stocked _
      exact ⟨Nat.le_of_eq hspent.symm, hlength.imp_right fun h => h.trans (by rw [hspent]; rfl)⟩
    | active _ claimed =>
      obtain ⟨hspent, hlength⟩ := length_slots_admitted claimed kept.tallied kept.stocked _
      exact ⟨Nat.le_of_eq hspent.symm, hlength.imp_right fun h => h.trans (by rw [hspent]; rfl)⟩
  · have hchange := (change_perform (fun engine e => hadd ⟨engine, e⟩) registry).1
    exact ⟨hchange.spent_le, .inl hchange.length_slots_eq⟩

end Step

section Runs

variable [Engine ε] (config : Config) (commands : List (Command ε))

theorem config_performAll (registry : Registry ε) :
    (performAll commands registry).registry.config = registry.config := by
  induction commands generalizing registry with
  | nil => rfl
  | cons command rest ih => exact (ih _).trans (config_perform command registry)

theorem kept_performAll
    (answers : ∀ engine, .add engine ∈ commands → TellsAddressing engine)
    (keeps : ∀ handle operation, .use handle operation ∈ commands →
      HeldSession.KeepsHandle operation) {registry : Registry ε} (kept : registry.Kept) :
    (performAll commands registry).registry.Kept := by
  induction commands generalizing registry with
  | nil => exact kept
  | cons command rest ih =>
    have hstep : (command.perform registry).state.Kept := kept_perform kept
      (fun engine e => answers engine (e ▸ List.mem_cons_self))
      (fun handle operation e => keeps handle operation (e ▸ List.mem_cons_self))
    exact ih (fun engine hm => answers engine (List.mem_cons_of_mem _ hm))
      (fun handle operation hm => keeps handle operation (List.mem_cons_of_mem _ hm)) hstep

/-- Retired slots apart, there were once as many sessions as there are slots. -/
theorem length_slots_le_peak
    (answers : ∀ engine, .add engine ∈ commands → TellsAddressing engine)
    (keeps : ∀ handle operation, .use handle operation ∈ commands →
      HeldSession.KeepsHandle operation) :
    ∃ earlier, earlier <+: commands ∧
      (performAll commands (empty config)).registry.slots.length ≤
        (performAll earlier (empty config)).registry.live +
          (performAll commands (empty config)).registry.spent := by
  obtain ⟨reversed, rfl⟩ : ∃ reversed : List (Command ε), commands = reversed.reverse :=
    ⟨commands.reverse, (List.reverse_reverse commands).symm⟩
  induction reversed with
  | nil => exact ⟨[], List.prefix_refl _, Nat.zero_le _⟩
  | cons command rest ih =>
    rw [List.reverse_cons] at answers keeps ⊢
    generalize rest.reverse = before at ih answers keeps ⊢
    have hanswers : ∀ engine, .add engine ∈ before → TellsAddressing engine :=
      fun engine hm => answers engine (List.mem_append_left _ hm)
    have hkeeps : ∀ handle operation, .use handle operation ∈ before →
        HeldSession.KeepsHandle operation :=
      fun handle operation hm => keeps handle operation (List.mem_append_left _ hm)
    obtain ⟨earlier, hprefix, hle⟩ := ih hanswers hkeeps
    have hkept := kept_performAll before hanswers hkeeps (kept_empty config)
    have hlast : (performAll (before ++ [command]) (empty config)).registry =
        (command.perform (performAll before (empty config)).registry).state := by
      rw [performAll_append]
      rfl
    obtain ⟨hspent, hlength⟩ := length_slots_perform hkept fun engine e =>
      answers engine (e ▸ List.mem_append_right _ List.mem_cons_self)
    rw [hlast]
    rcases hlength with hsame | hall
    · refine ⟨earlier, hprefix.trans (List.prefix_append _ _), ?_⟩
      omega
    · refine ⟨before ++ [command], List.prefix_refl _, ?_⟩
      rw [hlast]
      exact Nat.le_of_eq hall

end Runs

/-! ## The sessions that moved in -/

private theorem Claimed.claim?_eq {registry ready : Registry ε} {handle : Handle}
    (claimed : Claimed registry handle ready) : registry.claim? = some (handle, ready) := by
  cases claimed with
  | freed hfree hs => simp [claim?, hfree, hs]
  | fresh hfree hn => simp [claim?, hfree, hn]

section Inserted

variable [Engine ε]

/-- The handle of the session a command brings in. It stays if asking its engine for notifications
panics. -/
def Command.inserted? : Command ε → Registry ε → Option Handle
  | .add engine, registry =>
    match (Registry.add engine registry).outcome with
    | .error _ => none
    | _ => registry.claim?.map Prod.fst
  | _, _ => none

def inserted : List (Command ε) → Registry ε → List Handle
  | [], _ => []
  | command :: rest, registry =>
    (command.inserted? registry).toList ++ inserted rest (command.perform registry).state

private theorem onward_inserted? {command : Command ε} {registry : Registry ε}
    (sound : registry.Sound) (answers : ∀ engine, command = .add engine → TellsAddressing engine) :
    Onward registry (command.inserted? registry).toList (command.perform registry).state := by
  by_cases hadd : ∃ engine, command = .add engine
  · obtain ⟨engine, rfl⟩ := hadd
    have htells := answers engine rfl
    have hadded := added_add engine registry
    rw [state_perform_add, Command.inserted?]
    generalize (Registry.add engine registry).outcome = outcome,
      (Registry.add engine registry).state = next at hadded ⊢
    cases hadded with
    | refused => exact .of_upkeep sound (.release _)
    | unanswered _ ha => simp [TellsAddressing, ha] at htells
    | unsubscribed _ claimed =>
      have hn : Lifecycle.created ≠ .finalized := by decide
      simp only [claimed.claim?_eq]
      exact onward_admitted sound claimed hn _
    | active _ claimed =>
      have hn : Lifecycle.active ≠ .finalized := by decide
      simp only [claimed.claim?_eq]
      exact onward_admitted sound claimed hn _
  · have hchange := (change_perform (fun engine e => hadd ⟨engine, e⟩) registry).1
    have hnone : command.inserted? registry = none := by
      cases command with
      | add engine => exact absurd ⟨engine, rfl⟩ hadd
      | _ => rfl
    rw [hnone]
    exact .of_upkeep sound hchange.upkeep

private theorem onward_inserted (commands : List (Command ε)) {registry : Registry ε}
    (sound : registry.Sound) (answers : ∀ engine, .add engine ∈ commands → TellsAddressing engine) :
    Onward registry (inserted commands registry) (performAll commands registry).registry := by
  induction commands generalizing registry with
  | nil => exact .refl sound
  | cons command rest ih =>
    have hstep := onward_inserted? sound fun engine e => answers engine (e ▸ List.mem_cons_self)
    exact hstep.trans (ih hstep.sound fun engine hm => answers engine (List.mem_cons_of_mem _ hm))

end Inserted

/-! ## Capacity -/

section Capacity

variable {registry : Registry ε}

/-- The sessions that moved in and are not finalized are those the registry has. -/
theorem Onward.length_filter_eq {config : Config} {taken : List Handle}
    (onward : Onward (empty config) taken registry)
    (small : registry.slots.length ≤ 4294967296) :
    (taken.filter fun handle => registry.state? handle ≠ some .finalized).length =
      registry.occupied := by
  have hknown : ∀ handle, registry.state? handle = none ↔
      handle ∉ taken ∧ ¬ Zeroth taken handle :=
    fun handle => (onward.unknown_iff handle).trans (and_iff_right rfl)
  rw [← length_handles, ← List.length_map Prod.fst]
  refine ((List.perm_ext_iff_of_nodup (onward.distinct.filter _) (nodup_handles small)).mpr
    fun handle => ?_).length_eq
  simp only [List.mem_filter, List.mem_map, Prod.exists, exists_and_right, exists_eq_right,
    mem_handles small, decide_eq_true_eq]
  constructor
  · rintro ⟨hm, hs⟩
    cases ho : registry.occupant? handle with
    | some occupant => exact ⟨_, occupant, rfl, rfl⟩
    | none =>
      have hne : registry.state? handle ≠ none := fun h => ((hknown handle).mp h).1 hm
      simp only [state?, ho] at hne hs
      split at hs <;> simp_all
  · rintro ⟨_, occupant, ho, -⟩
    have hstate := state?_of_occupant ho
    refine ⟨?_, ?_⟩
    · obtain ⟨slot, hs, hg, -⟩ := occupant?_eq_some.mp ho
      have hpos := (onward.sound.slot hs).generation_pos
      refine Decidable.byContradiction fun hm => ?_
      have hunknown := (hknown handle).mpr ⟨hm, fun hz => ?_⟩
      · rw [hstate] at hunknown
        cases hunknown
      · rw [hg, hz.1] at hpos
        exact UInt32.lt_irrefl 0 hpos
    · rw [hstate]
      exact fun h => onward.sound.occupant_ne_finalized ho (Option.some.inj h)

/-- As long as no slot is retired there is one for every session that may come. -/
theorem Kept.claim?_ne_none (kept : registry.Kept) (spent : registry.spent = 0)
    (room : registry.live < 4294967296) : registry.claim? ≠ none := by
  intro h
  unfold claim? at h
  split at h
  · rename_i index rest hfree
    obtain ⟨slot, hs, -⟩ := kept.tallied.sound.free_vacant index
      (by rw [hfree]; exact List.mem_cons_self)
    rw [hs] at h
    cases h
  · rename_i hfree
    have hall := kept.stocked.length_slots_eq kept.tallied.sound hfree
    have hlive := kept.tallied.live_eq
    split at h
    · cases h
    · omega

/-- The counter, the slots and the free list of a registry that sessions moved into under the
handles `inserted`. -/
structure Coherent (config : Config) (inserted : List Handle) (registry : Registry ε) : Prop where
  live_occupied : registry.live = registry.occupied
  live_inserted : registry.live =
    (inserted.filter fun handle => registry.state? handle ≠ some .finalized).length
  live_le : registry.live ≤ config.maxSessions.toNat
  length_le : registry.slots.length ≤ 4294967296
  free_nodup : registry.free.Nodup
  mem_free_iff : ∀ index : UInt32, index ∈ registry.free ↔
    ∃ slot, registry.slots[index.toNat]? = some slot ∧ slot.occupant = none
  occupant : ∀ {index : Nat} {slot : Slot ε} {occupant : Occupant ε},
    registry.slots[index]? = some slot → slot.occupant = some occupant →
    occupant.session.handle = ⟨UInt32.ofNat index, slot.generation⟩ ∧ occupant.state ≠ .finalized

theorem Kept.coherent {config : Config} {taken : List Handle} (kept : registry.Kept)
    (hconfig : registry.config = config) (onward : Onward (empty config) taken registry)
    (lasting : ∀ slot ∈ registry.slots, slot.generation ≠ lastGeneration) :
    Coherent config taken registry where
  live_occupied := kept.tallied.live_eq
  live_inserted := by
    rw [onward.length_filter_eq kept.stocked.length_le, kept.tallied.live_eq]
  live_le := hconfig ▸ kept.stocked.live_le
  length_le := kept.stocked.length_le
  free_nodup := kept.tallied.sound.free_nodup
  mem_free_iff := by
    intro index
    constructor
    · intro hm
      obtain ⟨slot, hs, vacant⟩ := kept.tallied.sound.free_vacant index hm
      exact ⟨slot, hs, vacant.empty⟩
    · rintro ⟨slot, hs, hempty⟩
      have hfound : registry.slot? ⟨index, 0⟩ = some slot := hs
      cases hr : slot.retired with
      | false => exact kept.stocked.free_of_vacant hfound ⟨hempty, hr⟩
      | true =>
        have hlast := kept.stocked.retired_last hfound hr
        exact absurd hlast (lasting slot (List.mem_of_getElem? hs))
  occupant := by
    intro index slot occupant hs hin
    have hlt := (List.getElem?_eq_some_iff.mp hs).1
    have hsmall := kept.stocked.length_le
    have hindex : (UInt32.ofNat index).toNat = index := toNat_ofNat_of_lt (by omega)
    have ho : registry.occupant? ⟨UInt32.ofNat index, slot.generation⟩ = some occupant :=
      occupant?_eq_some.mpr ⟨slot, by rwa [slot?, hindex], rfl, hin⟩
    exact ⟨kept.named _ occupant ho, kept.tallied.sound.occupant_ne_finalized ho⟩

/-- Nothing but a lack of room turns an engine away. -/
theorem Kept.add_error_iff [Engine ε] (kept : registry.Kept)
    (hl : registry.lockPoisoned = false) (hspent : registry.spent = 0)
    (small : registry.config.maxSessions.toNat ≤ 4294967296) (engine : ε) :
    ((∃ limit, (add engine registry).outcome = .error (.capacityExhausted limit)) ↔
        registry.live = registry.config.maxSessions.toNat) ∧
      ∀ cause, (add engine registry).outcome = .error cause →
        (add engine registry).state =
          { registry with released := registry.released ++ [engine] } := by
  have hle := kept.stocked.live_le
  have hclaim : registry.live < registry.config.maxSessions.toNat → registry.claim? ≠ none :=
    fun room => kept.claim?_ne_none hspent (by omega)
  have hadded := added_add engine registry
  generalize (add engine registry).outcome = outcome, (add engine registry).state = next
    at hadded ⊢
  cases hadded with
  | refused why =>
    refine ⟨?_, fun _ _ => rfl⟩
    cases why with
    | broken hb =>
      rw [hl] at hb
      cases hb
    | full hfull => exact ⟨fun _ => Nat.le_antisymm hle hfull, fun _ => ⟨_, rfl⟩⟩
    | unclaimed hnone =>
      refine ⟨fun _ => Nat.le_antisymm hle (Nat.le_of_not_lt fun room => ?_), fun _ => ⟨_, rfl⟩⟩
      exact hclaim room hnone
  | unanswered _ _ room =>
    exact ⟨⟨fun ⟨_, h⟩ => (nomatch h), fun h => absurd h (Nat.ne_of_lt room)⟩, fun _ h => nomatch h⟩
  | unsubscribed _ _ _ _ room =>
    exact ⟨⟨fun ⟨_, h⟩ => (nomatch h), fun h => absurd h (Nat.ne_of_lt room)⟩, fun _ h => nomatch h⟩
  | active _ _ _ _ room =>
    exact ⟨⟨fun ⟨_, h⟩ => (nomatch h), fun h => absurd h (Nat.ne_of_lt room)⟩, fun _ h => nomatch h⟩

end Capacity

/-- In every run in which no engine panics when it is asked how it numbers files, and no slot comes
to its last generation, the counter, the slots and the free list stay coherent, there are no more
slots than sessions lived at once, and exactly a full registry turns an engine away, which changes
nothing but that the engine goes. -/
theorem capacity_exact [Engine ε] (config : Config) (commands : List (Command ε))
    (answers : ∀ engine, .add engine ∈ commands → TellsAddressing engine)
    (keeps : ∀ handle operation, .use handle operation ∈ commands →
      HeldSession.KeepsHandle operation)
    (small : config.maxSessions.toNat ≤ 4294967296)
    (lasting : ∀ slot ∈ (performAll commands (empty config)).registry.slots,
      slot.generation ≠ lastGeneration) :
    (inserted commands (empty config)).Nodup ∧
      Coherent config (inserted commands (empty config))
        (performAll commands (empty config)).registry ∧
      (∃ earlier, earlier <+: commands ∧
        (performAll commands (empty config)).registry.slots.length ≤
          (performAll earlier (empty config)).registry.live) ∧
      ∀ engine : ε,
        ((∃ limit, (add engine (performAll commands (empty config)).registry).outcome =
              .error (.capacityExhausted limit)) ↔
            (performAll commands (empty config)).registry.live = config.maxSessions.toNat) ∧
          ∀ cause, (add engine (performAll commands (empty config)).registry).outcome =
              .error cause →
            (add engine (performAll commands (empty config)).registry).state =
              { (performAll commands (empty config)).registry with
                released :=
                  (performAll commands (empty config)).registry.released ++ [engine] } := by
  have hkept := kept_performAll commands answers keeps (kept_empty config)
  have hconfig := config_performAll commands (empty config : Registry ε)
  have honward := onward_inserted commands (sound_empty config) answers
  have hspent : (performAll commands (empty config)).registry.spent = 0 := by
    refine List.countP_eq_zero.mpr fun slot hm hr => lasting slot hm ?_
    obtain ⟨handle, hs⟩ := hkept.stocked.exists_slot? hm
    exact hkept.stocked.retired_last hs hr
  obtain ⟨earlier, hprefix, hpeak⟩ := length_slots_le_peak config commands answers keeps
  rw [hspent] at hpeak
  refine ⟨honward.distinct, hkept.coherent hconfig honward lasting, ⟨earlier, hprefix, hpeak⟩,
    fun engine => ?_⟩
  have hmax : (performAll commands (empty config)).registry.config.maxSessions =
      config.maxSessions := by rw [hconfig]; rfl
  have hadd := hkept.add_error_iff honward.lockPoisoned_eq hspent (by rw [hmax]; exact small) engine
  rwa [hmax] at hadd

/-- A sound engine moves in, one that panics when it is asked for notifications, and another sound
one after the first left. -/
def crowded : List (Command FaultyEngine) :=
  [.add ⟨sampleEngine, {}⟩, .add ⟨sampleEngine, { registerLimit := some 0 }⟩,
    .use ⟨0, 1⟩ (Request.perform .epoch .iterate), .finalize ⟨0, 1⟩, .add ⟨sampleEngine, {}⟩]

/-- Two sessions are in, one in a slot that is used again, and a third is turned away. -/
theorem capacity_of_two_reached :
    Coherent { maxSessions := 2 } [⟨0, 1⟩, ⟨1, 1⟩, ⟨0, 2⟩]
        (performAll crowded (empty { maxSessions := 2 })).registry ∧
      ∃ limit, (add ⟨sampleEngine, {}⟩
          (performAll crowded (empty { maxSessions := 2 })).registry).outcome =
        .error (.capacityExhausted limit) := by
  have hinserted : inserted crowded (empty { maxSessions := 2 }) = [⟨0, 1⟩, ⟨1, 1⟩, ⟨0, 2⟩] := by
    decide +kernel
  have hanswers : ∀ engine, .add engine ∈ crowded → TellsAddressing engine := by
    intro engine hm
    simp only [crowded, List.mem_cons, reduceCtorEq, Command.add.injEq, false_or,
      List.not_mem_nil, or_false] at hm
    rcases hm with rfl | rfl | rfl <;> rfl
  have hkeeps : ∀ handle operation, .use handle operation ∈ crowded →
      HeldSession.KeepsHandle operation := by
    intro handle operation hm
    simp only [crowded, List.mem_cons, reduceCtorEq, Command.use.injEq, false_or,
      List.not_mem_nil, or_false] at hm
    rw [hm.2]
    exact HeldSession.keepsHandle_perform _ _
  obtain ⟨-, hcoherent, -, hadd⟩ := capacity_exact { maxSessions := 2 } crowded hanswers hkeeps
    (by decide) (by decide +kernel)
  rw [hinserted] at hcoherent
  exact ⟨hcoherent, (hadd _).1.mpr (by decide +kernel)⟩

end Registry

end Switchboard
