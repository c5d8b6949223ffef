import Mathlib.Data.List.Basic
import Switchboard.Proofs.Registry.Deeds
import Switchboard.Proofs.Registry.Enduring
import Switchboard.Proofs.Registry.Separation
import Switchboard.Simulation
/-!
# Shutdown

A shutdown goes through a snapshot of the sessions and kills and finalizes one after the other. A
kill that stops at a broken lock still leaves a session that counts as killed, so the finalize after
it vacates the slot whatever state the session was in (`finalize_kill`). The other sessions of the
snapshot are where they were, and by induction over the snapshot all slots are vacated
(`shutdownEach_vacates`).
-/

namespace Switchboard

namespace Registry

variable {ε : Type}

/-! ## One session -/

section One

variable {registry : Registry ε} {handle : Handle} {occupant : Occupant ε}

/-- However the kill of a session that lives goes, it leaves a killed session, and its slot vacated
is the slot of the session vacated at once. -/
theorem vacate_kill (hl : registry.lockPoisoned = false)
    (ho : registry.occupant? handle = some occupant)
    (hs : occupant.state = .created ∨ occupant.state = .active) :
    (∃ killed, (kill handle registry).state.occupant? handle = some killed ∧
        killed.state = .killed) ∧
      (kill handle registry).state.vacate handle = registry.vacate handle := by
  obtain ⟨slot, hslot, hg, -⟩ := occupant?_eq_some.mp ho
  cases hp : occupant.session.lockPoisoned with
  | true =>
    let next : Occupant ε := { occupant with state := .killed }
    have hvacate := vacate_replaced ho next registry.released
    rw [← released_vacate ho] at hvacate
    have hsame : ({ registry.setOccupant handle next with released := registry.released } :
        Registry ε) = registry.setOccupant handle next := by
      rw [← setOccupant_released handle next registry]
    rw [hsame] at hvacate
    rw [(kill_of_live_broken hl ho hs hp).2]
    exact ⟨⟨next, occupant?_setOccupant hslot hg next, rfl⟩, hvacate⟩
  | false =>
    let next : Occupant ε := ⟨.killed, { occupant.session with engine := none, transfers := none }⟩
    have hvacate := vacate_replaced ho next (registry.released ++ occupant.session.engine.toList)
    have hnone : registry.released ++ occupant.session.engine.toList ++ next.session.engine.toList =
        (registry.vacate handle).released := by
      rw [released_vacate ho]
      exact List.append_nil _
    rw [hnone] at hvacate
    rw [(kill_of_live hl ho hs hp).2]
    exact ⟨⟨next, occupant?_setOccupant hslot hg next, rfl⟩, hvacate⟩

theorem healthy_kill (hl : registry.lockPoisoned = false) :
    (kill handle registry).state.lockPoisoned = false := by
  have hchange : Change registry (kill handle registry).state := change_kill handle registry
  rw [hchange.upkeep.lockPoisoned_eq, hl]

/-- A session that lives is gone after a kill and a finalize, however the kill went. -/
theorem finalize_kill (hl : registry.lockPoisoned = false)
    (ho : registry.occupant? handle = some occupant)
    (hs : occupant.state = .created ∨ occupant.state = .active) :
    (finalize handle (kill handle registry).state).outcome = .ok () ∧
      (finalize handle (kill handle registry).state).state = registry.vacate handle := by
  obtain ⟨⟨killed, hfound, hk⟩, hvacate⟩ := vacate_kill hl ho hs
  rw [← hvacate]
  exact finalize_of_killed (healthy_kill hl) hfound hk

/-- The kill of a session ends with a value or an error. -/
theorem kill_ne_panic (handle : Handle) (registry : Registry ε) :
    (kill handle registry).outcome ≠ .panic := by
  have hkills := kills_kill handle registry
  intro h
  rw [h] at hkills
  cases hkills

theorem shutdownOne_vacates (sound : registry.Sound) (hl : registry.lockPoisoned = false)
    (ho : registry.occupant? handle = some occupant) :
    (shutdownOne handle occupant.state registry).outcome = .ok true ∧
      (shutdownOne handle occupant.state registry).state = registry.vacate handle := by
  by_cases hk : occupant.state = .killed
  · obtain ⟨hok, hstate⟩ := finalize_of_killed hl ho hk
    simp [shutdownOne, hk, Run.attempt, hok, hstate]
  · obtain ⟨hok, hstate⟩ := finalize_kill hl ho (sound.live_of_not_killed ho hk)
    cases hkilled : (kill handle registry).outcome with
    | ok => simp [shutdownOne, hk, Run.attempt, hkilled, hok, hstate]
    | error cause => simp [shutdownOne, hk, Run.attempt, hkilled, hok, hstate, log]
    | panic => exact absurd hkilled (kill_ne_panic handle registry)

end One

/-! ## The snapshot -/

/-- The sessions of the list are there, each once, in the states the list says. -/
structure Present (sessions : List (Handle × Lifecycle)) (registry : Registry ε) : Prop where
  found : ∀ session ∈ sessions,
    ∃ occupant, registry.occupant? session.1 = some occupant ∧ occupant.state = session.2
  distinct : (sessions.map Prod.fst).Nodup

theorem present_handles {registry : Registry ε} (small : registry.slots.length ≤ 4294967296) :
    Present registry.handles registry where
  found := fun _ hm => (mem_handles small).mp hm
  distinct := nodup_handles small

/-- The first session may go without the others being touched. -/
theorem Present.rest {session : Handle × Lifecycle} {rest : List (Handle × Lifecycle)}
    {registry : Registry ε} {occupant : Occupant ε} (present : Present (session :: rest) registry)
    (sound : registry.Sound) (ho : registry.occupant? session.1 = some occupant) :
    Present rest (registry.vacate session.1) ∧
      ∀ other ∈ rest,
        (registry.vacate session.1).occupant? other.1 = registry.occupant? other.1 := by
  obtain ⟨hnew, hdistinct⟩ := List.nodup_cons.mp present.distinct
  have hsame : ∀ other ∈ rest,
      (registry.vacate session.1).occupant? other.1 = registry.occupant? other.1 := by
    intro other hm
    have hne : other.1 ≠ session.1 := fun e => hnew (e ▸ List.mem_map_of_mem hm)
    exact (same_vacate sound ho hne).1
  refine ⟨⟨fun other hm => ?_, hdistinct⟩, hsame⟩
  rw [hsame other hm]
  exact present.found other (List.mem_cons_of_mem _ hm)

/-- Every session of the list goes, and takes its engine along. -/
theorem shutdownEach_vacates {sessions : List (Handle × Lifecycle)} {registry : Registry ε}
    (tallied : registry.Tallied) (hl : registry.lockPoisoned = false)
    (present : Present sessions registry) :
    (shutdownEach sessions registry).outcome = .ok sessions.length ∧
      (shutdownEach sessions registry).state.live + sessions.length = registry.live ∧
      (shutdownEach sessions registry).state.released =
        registry.released ++ sessions.filterMap fun session =>
          (registry.occupant? session.1).bind (·.session.engine) := by
  induction sessions generalizing registry with
  | nil => exact ⟨rfl, rfl, (List.append_nil _).symm⟩
  | cons session rest ih =>
    obtain ⟨handle, state⟩ := session
    obtain ⟨occupant, ho, rfl⟩ := present.found _ List.mem_cons_self
    obtain ⟨hrest, hsame⟩ := present.rest tallied.sound ho
    obtain ⟨hone, hvacated⟩ := shutdownOne_vacates tallied.sound hl ho
    have hhealthy : (registry.vacate handle).lockPoisoned = false := by
      rw [vacate_lockPoisoned, hl]
    obtain ⟨hok, hlive, hreleased⟩ := ih (tallied.vacate ho) hhealthy hrest
    have heach : (shutdownEach ((handle, occupant.state) :: rest) registry).outcome =
          .ok (rest.length + 1) ∧
        (shutdownEach ((handle, occupant.state) :: rest) registry).state =
          (shutdownEach rest (registry.vacate handle)).state := by
      simp [shutdownEach, Run.andThen, hone, hvacated, hok]
    have hgone : (registry.vacate handle).live + 1 = registry.live := by
      have hcount := occupied_vacate ho
      rw [(tallied.vacate ho).live_eq, tallied.live_eq, hcount]
    have hengines : (rest.filterMap fun session =>
          ((registry.vacate handle).occupant? session.1).bind (·.session.engine)) =
        rest.filterMap fun session =>
          (registry.occupant? session.1).bind (·.session.engine) :=
      List.filterMap_congr fun other hm => by rw [hsame other hm]
    refine ⟨heach.1, ?_, ?_⟩
    · rw [heach.2, List.length_cons, ← hgone, ← hlive, Nat.add_assoc]
    · rw [heach.2, hreleased, hengines, released_vacate ho, List.append_assoc,
        List.filterMap_cons, ho, Option.bind_some]
      cases occupant.session.engine <;> rfl

/-- The engines of the snapshot are those of the slots. -/
theorem engines_eq {registry : Registry ε} (small : registry.slots.length ≤ 4294967296) :
    (registry.handles.filterMap fun session =>
      (registry.occupant? session.1).bind (·.session.engine)) = registry.engines := by
  have hslots : registry.slots = registry.slots.zipIdx.map Prod.fst :=
    (List.zipIdx_map_fst 0 registry.slots).symm
  rw [engines, hslots, List.filterMap_map, handles, List.filterMap_filterMap]
  refine List.filterMap_congr fun entry hm => ?_
  obtain ⟨slot, index⟩ := entry
  rw [List.mem_zipIdx_iff_getElem?] at hm
  have hlt := (List.getElem?_eq_some_iff.mp hm).1
  have hindex : (UInt32.ofNat index).toNat = index := toNat_ofNat_of_lt (by omega)
  cases hin : slot.occupant with
  | none => simp [hin]
  | some occupant =>
    have ho : registry.occupant? ⟨UInt32.ofNat index, slot.generation⟩ = some occupant :=
      occupant?_eq_some.mpr ⟨slot, by rwa [slot?, hindex], rfl, hin⟩
    simp [hin, ho]

/-! ## The whole shutdown -/

theorem shutdown_apply (registry : Registry ε) :
    (shutdown registry).outcome = (shutdownEach registry.handles registry).outcome ∧
      (shutdown registry).state = (shutdownEach registry.handles registry).state := by
  simp only [shutdown, Run.bind_apply, Run.get_apply, Run.andThen_ok]
  obtain ⟨outcome, state, entries⟩ := shutdownEach registry.handles registry
  cases outcome with
  | ok reclaimed =>
    by_cases hr : 0 < reclaimed
    · simp [hr]
    · simp [hr]
  | error cause => exact ⟨rfl, rfl⟩
  | panic => exact ⟨rfl, rfl⟩

/-- Nothing is left of the sessions but the engines that were released. -/
structure Reclaimed (registry : Registry ε) (ran : Ran (Registry ε) BridgeError Nat) : Prop where
  outcome : ran.outcome = .ok registry.live
  live : ran.state.live = 0
  finalized : ∀ handle, registry.state? handle ≠ none →
    ran.state.state? handle = some .finalized
  released : ran.state.released = registry.released ++ registry.engines
  empty : ∀ slot ∈ ran.state.slots, slot.occupant = none
  free_nodup : ran.state.free.Nodup
  /-- Every slot is free again but those whose generations are used up. -/
  mem_free_iff : ∀ index : UInt32, index ∈ ran.state.free ↔
    ∃ slot, ran.state.slots[index.toNat]? = some slot ∧ slot.retired = false
  retired_last : ∀ slot ∈ ran.state.slots, slot.retired = true → slot.generation = lastGeneration
  again : shutdown ran.state = ⟨.ok 0, ran.state, []⟩

section Whole

variable {registry : Registry ε}

private theorem Tallied.empty_of_live (tallied : registry.Tallied) (hlive : registry.live = 0) :
    ∀ slot ∈ registry.slots, slot.occupant = none := by
  have hnone : registry.occupied = 0 := by rw [← tallied.live_eq, hlive]
  intro slot hm
  simpa using List.countP_eq_zero.mp hnone slot hm

/-- A registry without sessions has nothing to shut down. -/
theorem shutdown_of_vacant (tallied : registry.Tallied) (hlive : registry.live = 0) :
    shutdown registry = ⟨.ok 0, registry, []⟩ := by
  have hnone : registry.handles = [] := by
    rw [← List.length_eq_zero_iff, length_handles, ← tallied.live_eq, hlive]
  simp [shutdown, hnone, shutdownEach]

theorem shutdown_reclaims (tallied : registry.Tallied) (stocked : registry.Stocked)
    (hl : registry.lockPoisoned = false) : Reclaimed registry (shutdown registry) := by
  have hchange : Change registry (shutdown registry).state := change_shutdown registry
  have htallied := hchange.tallied tallied
  have hstocked := hchange.stocked tallied stocked
  obtain ⟨hout, hstate⟩ := shutdown_apply registry
  obtain ⟨hok, hcount, hreleased⟩ :=
    shutdownEach_vacates tallied hl (present_handles stocked.length_le)
  have hlength : registry.handles.length = registry.live := by
    rw [length_handles, tallied.live_eq]
  rw [hlength] at hok hcount
  have hlive : (shutdown registry).state.live = 0 := by
    rw [hstate]
    omega
  have hempty := htallied.empty_of_live hlive
  exact
    { outcome := hout.trans hok
      live := hlive
      finalized := by
        intro handle hknown
        have hshown := mt (hchange.upkeep.state?_eq_none_iff tallied.sound handle).mp hknown
        have hgone : (shutdown registry).state.occupant? handle = none := by
          cases ho : (shutdown registry).state.occupant? handle with
          | none => rfl
          | some occupant =>
            obtain ⟨slot, hs, -, hin⟩ := occupant?_eq_some.mp ho
            rw [hempty slot (List.mem_of_getElem? hs)] at hin
            cases hin
        simp only [state?, hgone] at hshown ⊢
        cases hi : (shutdown registry).state.wasIssued handle with
        | true => rfl
        | false => simp [hi] at hshown
      released := by rw [hstate, hreleased, engines_eq stocked.length_le]
      empty := hempty
      free_nodup := htallied.sound.free_nodup
      mem_free_iff := by
        intro index
        constructor
        · intro hm
          obtain ⟨slot, hs, vacant⟩ := htallied.sound.free_vacant index hm
          exact ⟨slot, hs, vacant.in_use⟩
        · rintro ⟨slot, hs, hr⟩
          have hfound : (shutdown registry).state.slot? ⟨index, 0⟩ = some slot := hs
          exact hstocked.free_of_vacant hfound ⟨hempty slot (List.mem_of_getElem? hs), hr⟩
      retired_last := by
        intro slot hm hr
        obtain ⟨handle, hs⟩ := hstocked.exists_slot? hm
        exact hstocked.retired_last hs hr
      again := shutdown_of_vacant htallied hlive }

/-- An engine that does not panic moves in if there is room and a slot. -/
theorem add_ok_iff [Engine ε] (sound : registry.Sound) (hl : registry.lockPoisoned = false)
    {engine : ε} (registers : Registers engine) :
    (∃ handle, (add engine registry).outcome = .ok handle) ↔
      registry.live < registry.config.maxSessions.toNat ∧
        (registry.free ≠ [] ∨ registry.slots.length < 4294967296) := by
  have hadded := added_add engine registry
  generalize (add engine registry).outcome = outcome, (add engine registry).state = next at hadded ⊢
  cases hadded with
  | refused why =>
    refine ⟨fun ⟨_, h⟩ => (nomatch h), fun ⟨room, slot⟩ => ?_⟩
    cases why with
    | broken hb =>
      rw [hl] at hb
      cases hb
    | full hfull => exact absurd room (Nat.not_lt.mpr hfull)
    | unclaimed hnone =>
      exfalso
      unfold claim? at hnone
      split at hnone
      · rename_i index rest hfree
        obtain ⟨vacant, hs, -⟩ := sound.free_vacant index (by rw [hfree]; exact List.mem_cons_self)
        rw [hs] at hnone
        cases hnone
      · rename_i hfree
        rw [if_pos (slot.resolve_left fun hne => hne hfree)] at hnone
        cases hnone
  | unanswered _ ha => simp [Registers, TellsAddressing, ha] at registers
  | unsubscribed _ _ ha hs => simp [Registers, ha, hs] at registers
  | active _ claimed _ _ room =>
    refine ⟨fun _ => ⟨room, ?_⟩, fun _ => ⟨_, rfl⟩⟩
    cases claimed with
    | freed hfree => exact .inl (by rw [hfree]; exact List.cons_ne_nil _ _)
    | fresh _ hn => exact .inr hn

end Whole

/-- From here on engines move in as long as there is room and a slot, and get none of the handles
`issued`, nor one of them twice. -/
structure Restarts [Engine ε] (config : Config) (issued : List Handle) (registry : Registry ε) :
    Prop where
  nodup : ∀ later : List (Deed ε), (issued ++ (doAll later registry).issued).Nodup
  add_ok_iff : ∀ later : List (Deed ε), (doAll later registry).registry.lockPoisoned = false →
    ∀ engine : ε, Registers engine →
      ((∃ handle, (add engine (doAll later registry).registry).outcome = .ok handle) ↔
        (doAll later registry).registry.live < config.maxSessions.toNat ∧
          ((doAll later registry).registry.free ≠ [] ∨
            (doAll later registry).registry.slots.length < 4294967296))

private theorem restarts_of_handedOut [Engine ε] {registry : Registry ε} {issued : List Handle}
    (tallied : registry.Tallied) (distinct : issued.Nodup)
    (handed : ∀ handle ∈ issued, registry.HandedOut handle) :
    Restarts registry.config issued registry where
  nodup := by
    intro later
    obtain ⟨commands, -, hissued, -⟩ := exists_commands_doAll later registry
    rw [← hissued]
    refine List.nodup_append.mpr ⟨distinct, nodup_issued commands tallied, ?_⟩
    rintro handle hearlier _ hlater rfl
    exact issued_not_handedOut commands tallied (handed handle hearlier) hlater
  add_ok_iff := by
    intro later hhealthy engine registers
    obtain ⟨commands, hreached, -, -⟩ := exists_commands_doAll later registry
    rw [← hreached] at hhealthy ⊢
    have hafter := (tallied_performAll commands tallied).1
    rw [← config_performAll commands registry]
    exact add_ok_iff hafter.sound hhealthy registers

/-- In every run that leaves the lock of the registry healthy, whatever panicked in it, a shutdown
reclaims all sessions and releases all engines there are, and the registry can be used again. Every
slot is free then, but for those that were retired because they have no generation left. -/
theorem shutdown_reclaims_everything [Engine ε] (config : Config) (deeds : List (Deed ε))
    (hl : (doAll deeds (empty config)).registry.lockPoisoned = false) :
    Reclaimed (doAll deeds (empty config)).registry
        (shutdown (doAll deeds (empty config)).registry) ∧
      (∀ handle ∈ (doAll deeds (empty config)).issued,
        (shutdown (doAll deeds (empty config)).registry).state.state? handle =
          some .finalized) ∧
      (shutdown (doAll deeds (empty config)).registry).state.released.length =
        deeds.countP Deed.brings ∧
      Restarts config (doAll deeds (empty config)).issued
        (shutdown (doAll deeds (empty config)).registry).state := by
  obtain ⟨commands, hreached, hcommands, hbrings⟩ := exists_commands_doAll deeds (empty config)
  rw [← hreached] at hl ⊢
  rw [← hcommands, ← hbrings]
  obtain ⟨tallied, hengines⟩ := tallied_performAll commands (tallied_empty config)
  have hstocked := stocked_performAll commands (tallied_empty config) hl (stocked_empty config)
  have hissued := (handedOut_performAll commands (tallied_empty config)).2
  have hnodup := nodup_issued commands (tallied_empty config : (empty config : Registry ε).Tallied)
  have hconfig : (performAll commands (empty config)).registry.config = config :=
    config_performAll commands (empty config : Registry ε)
  generalize performAll commands (empty config) = history at *
  have hreclaimed := shutdown_reclaims tallied hstocked hl
  have hchange : Change history.registry (shutdown history.registry).state :=
    change_shutdown history.registry
  refine ⟨hreclaimed, fun handle hm => ?_, ?_, ?_⟩
  · exact hreclaimed.finalized handle (hissued handle hm).known
  · have hheld : (shutdown history.registry).state.holding = 0 :=
      List.countP_eq_zero.mpr fun slot hm => by simp [Slot.hasEngine, hreclaimed.empty slot hm]
    have hnone : (empty config : Registry ε).engineCount = 0 := rfl
    have hcount := hchange.engineCount_eq
    rw [engineCount, hheld] at hcount
    omega
  · rw [← hconfig, ← hchange.config_eq]
    exact restarts_of_handedOut (hchange.tallied tallied) hnodup fun handle hm =>
      hchange.handedOut tallied.sound (hissued handle hm)

/-- Seven engines. The first panics while it registers. The sessions of the next two panic in a
pass, and one of them is killed after that, as is the fourth, which did not. The fifth session is
disabled, in the sixth an event waits and a file is under way, and the guard of the last is
dropped. -/
def assorted : List (Deed FaultyEngine) :=
  .ask (.add ⟨sampleEngine, { registerLimit := some 0 }⟩) ::
    List.replicate 6 (.ask (.add ⟨sampleEngine, {}⟩)) ++
    [.ask (.use ⟨1, 1⟩ (Request.perform .epoch (.invoke ⟨[], true⟩))),
      .ask (.use ⟨2, 1⟩ (Request.perform .epoch (.invoke ⟨[], true⟩))),
      .ask (.kill ⟨2, 1⟩), .ask (.kill ⟨3, 1⟩),
      .ask (.use ⟨4, 1⟩ (Request.perform .epoch (.invoke ⟨[.friendStatus 0 99], false⟩))),
      .ask (.use ⟨5, 1⟩ (Request.perform .epoch
        (.invoke ⟨[.legacyFileSendRequest 4 7 5 []], false⟩))),
      .drop ⟨⟨6, 1⟩⟩]

/-- The six that are left go, with their engines, and the next engine moves in. -/
theorem assorted_reclaimed :
    (doAll assorted (empty {})).registry.lockPoisoned = false ∧
      Reclaimed (doAll assorted (empty {})).registry
        (shutdown (doAll assorted (empty {})).registry) ∧
      (shutdown (doAll assorted (empty {})).registry).outcome = .ok 6 ∧
      (shutdown (doAll assorted (empty {})).registry).state.released.length = 7 ∧
      ∃ handle, (add ⟨sampleEngine, {}⟩
        (shutdown (doAll assorted (empty {})).registry).state).outcome = .ok handle := by
  have hl : (doAll assorted (empty {})).registry.lockPoisoned = false := by decide +kernel
  have hlive : (doAll assorted (empty {})).registry.live = 6 := by decide +kernel
  obtain ⟨hreclaimed, -, hreleased, restarts⟩ := shutdown_reclaims_everything {} assorted hl
  have hbrought : assorted.countP Deed.brings = 7 := by decide +kernel
  refine ⟨hl, hreclaimed, by rw [hreclaimed.outcome, hlive], hreleased.trans hbrought, ?_⟩
  have hhealthy : (shutdown (doAll assorted (empty {})).registry).state.lockPoisoned =
      false := by decide +kernel
  have registers : Registers (⟨sampleEngine, {}⟩ : FaultyEngine) := ⟨rfl, rfl⟩
  have hadd := restarts.add_ok_iff []
  simp only [doAll] at hadd
  exact (hadd hhealthy _ registers).mpr ⟨by decide +kernel, .inr (by decide +kernel)⟩

end Registry

end Switchboard
