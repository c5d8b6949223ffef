import Switchboard.Proofs.Registry.Upkeep
/-!
# Separation

What is done under one handle leaves what every other handle reaches and shows as it was
(`ChangeAt.frame`), also of a handle that names the same slot under another generation. And how it
goes is up to what the one handle reaches and shows, whatever else is in the registry
(`agree_withSession`, `agree_drain`, `agree_kill`, `agree_finalize`).
-/

namespace Switchboard

namespace Registry

variable {ε α : Type}

/-! ## Other handles -/

def Same (handle : Handle) (first second : Registry ε) : Prop :=
  first.occupant? handle = second.occupant? handle ∧ first.state? handle = second.state? handle

theorem Same.trans {handle : Handle} {first second third : Registry ε}
    (h₁ : Same handle first second) (h₂ : Same handle second third) : Same handle first third :=
  ⟨h₁.1.trans h₂.1, h₁.2.trans h₂.2⟩

theorem Same.symm {handle : Handle} {first second : Registry ε} (h : Same handle first second) :
    Same handle second first := ⟨h.1.symm, h.2.symm⟩

section Frame

variable {registry : Registry ε} {handle other : Handle} {occupant : Occupant ε}

private theorem same_setOccupant (ho : registry.occupant? handle = some occupant)
    (next : Occupant ε) (hne : other ≠ handle) :
    Same other (registry.setOccupant handle next) registry := by
  obtain ⟨slot, hs, hg, -⟩ := occupant?_eq_some.mp ho
  constructor
  · rw [occupant?_setOccupant_eq hs hg, if_neg hne]
  · rw [state?_setOccupant hs hg, if_neg hne]

theorem same_vacate (sound : registry.Sound) (ho : registry.occupant? handle = some occupant)
    (hne : other ≠ handle) : Same other (registry.vacate handle) registry := by
  obtain ⟨slot, hs, hg, -⟩ := occupant?_eq_some.mp ho
  constructor
  · rw [occupant?_vacate ho]
    split
    · rename_i he
      have hs' : registry.slot? other = some slot := by simpa [slot?, he] using hs
      have hng : slot.generation ≠ other.generation :=
        fun e => hne (handle_eq_iff.mpr ⟨he, e.symm.trans hg⟩)
      simp [occupant?, hs', hng]
    · rfl
  · rw [state?_vacate ho hs (sound.slot hs), if_neg hne]

/-- What is done under a handle is not seen under any other. -/
theorem ChangeAt.frame {first second : Registry ε}
    (change : ChangeAt Session.Used handle first second) (sound : first.Sound)
    (hne : other ≠ handle) : Same other second first := by
  induction change with
  | refl => exact ⟨rfl, rfl⟩
  | used ho => exact same_setOccupant ho _ hne
  | killed ho => exact same_setOccupant ho _ hne
  | kept ho => exact same_setOccupant ho _ hne
  | vacated ho => exact same_vacate sound ho hne
  | trans h₁ _ ih₁ ih₂ =>
    have hsound := (h₁.change fun _ _ used => used).upkeep.sound sound
    exact (ih₂ hsound).trans (ih₁ sound)

end Frame

/-! ## One handle in two registries -/

/-- Two registries in which the handle reaches and shows the same, and which let the same engines go
since they had released these. -/
structure Twins (handle : Handle) (before before' : List ε) (first second : Registry ε) : Prop where
  sound : first.Sound
  sound' : second.Sound
  healthy : first.lockPoisoned = false
  healthy' : second.lockPoisoned = false
  same : Same handle first second
  released : ∃ gone, first.released = before ++ gone ∧ second.released = before' ++ gone

section Twins

variable {handle : Handle} {before before' : List ε} {first second : Registry ε}
  {occupant : Occupant ε}

private theorem Twins.occupant?_eq (twins : Twins handle before before' first second)
    (ho : first.occupant? handle = some occupant) : second.occupant? handle = some occupant :=
  twins.same.1.symm.trans ho

theorem Twins.replace (twins : Twins handle before before' first second)
    (ho : first.occupant? handle = some occupant) {next : Occupant ε}
    (hn : next.state ≠ .finalized) :
    Twins handle before before' (first.setOccupant handle next)
      (second.setOccupant handle next) := by
  have ho' := twins.occupant?_eq ho
  obtain ⟨slot, hs, hg, -⟩ := occupant?_eq_some.mp ho
  obtain ⟨slot', hs', hg', -⟩ := occupant?_eq_some.mp ho'
  exact
    { sound := sound_setOccupant twins.sound ho hn
      sound' := sound_setOccupant twins.sound' ho' hn
      healthy := by rw [setOccupant_lockPoisoned, twins.healthy]
      healthy' := by rw [setOccupant_lockPoisoned, twins.healthy']
      same := by
        constructor
        · rw [occupant?_setOccupant hs hg, occupant?_setOccupant hs' hg']
        · rw [state?_setOccupant hs hg, state?_setOccupant hs' hg', if_pos rfl, if_pos rfl]
      released := by simpa only [setOccupant_released] using twins.released }

theorem Twins.release (twins : Twins handle before before' first second) (engines : List ε) :
    Twins handle before before' { first with released := first.released ++ engines }
      { second with released := second.released ++ engines } where
  sound := ⟨twins.sound.slot, twins.sound.free_nodup, twins.sound.free_vacant⟩
  sound' := ⟨twins.sound'.slot, twins.sound'.free_nodup, twins.sound'.free_vacant⟩
  healthy := twins.healthy
  healthy' := twins.healthy'
  same := twins.same
  released := by
    obtain ⟨gone, h, h'⟩ := twins.released
    exact ⟨gone ++ engines, by rw [h, List.append_assoc], by rw [h', List.append_assoc]⟩

theorem Twins.vacate (twins : Twins handle before before' first second)
    (ho : first.occupant? handle = some occupant) :
    Twins handle before before' (first.vacate handle) (second.vacate handle) := by
  have ho' := twins.occupant?_eq ho
  obtain ⟨slot, hs, -, -⟩ := occupant?_eq_some.mp ho
  obtain ⟨slot', hs', -, -⟩ := occupant?_eq_some.mp ho'
  exact
    { sound := sound_vacate twins.sound ho
      sound' := sound_vacate twins.sound' ho'
      healthy := by rw [vacate_lockPoisoned, twins.healthy]
      healthy' := by rw [vacate_lockPoisoned, twins.healthy']
      same := by
        constructor
        · rw [occupant?_vacate ho, occupant?_vacate ho', if_pos rfl, if_pos rfl]
        · rw [state?_vacate ho hs (twins.sound.slot hs),
            state?_vacate ho' hs' (twins.sound'.slot hs'), if_pos rfl, if_pos rfl]
      released := by
        obtain ⟨gone, h, h'⟩ := (twins.release occupant.session.engine.toList).released
        exact ⟨gone, (released_vacate ho).trans h, (released_vacate ho').trans h'⟩ }

end Twins

/-! ## Operations -/

section Agree

variable {handle : Handle} {before before' : List ε}

theorem agree_withSession (operation : Held ε α) :
    Run.Agree (Twins handle before before') (withSession handle operation)
      (withSession handle operation) := by
  intro first second twins
  by_cases hs : first.state? handle = some .active
  · obtain ⟨occupant, ho, ha⟩ := occupant?_of_active hs
    rw [withSession_of_active twins.healthy ho ha,
      withSession_of_active twins.healthy' (twins.occupant?_eq ho) ha]
    refine ⟨rfl, twins.replace ho ?_⟩
    rw [ha]
    decide
  · have hs' : second.state? handle ≠ some .active := twins.same.2 ▸ hs
    rw [withSession_of_inactive twins.healthy hs, withSession_of_inactive twins.healthy' hs']
    exact ⟨rfl, twins⟩

theorem agree_drain :
    Run.Agree (Twins handle before before') (drain handle : Op ε Batch) (drain handle) := by
  intro first second twins
  by_cases hs : first.state? handle = some .active
  · obtain ⟨occupant, ho, ha⟩ := occupant?_of_active hs
    rw [drain_of_active twins.healthy ho ha,
      drain_of_active twins.healthy' (twins.occupant?_eq ho) ha]
    refine ⟨rfl, twins.replace ho ?_⟩
    rw [ha]
    decide
  · have hs' : second.state? handle ≠ some .active := twins.same.2 ▸ hs
    rw [drain_of_inactive twins.healthy hs, drain_of_inactive twins.healthy' hs']
    exact ⟨rfl, twins⟩

theorem agree_kill :
    Run.Agree (Twins handle before before') (kill handle : Op ε Unit) (kill handle) := by
  intro first second twins
  cases ho : first.occupant? handle with
  | none =>
    have ho' : second.occupant? handle = none := twins.same.1.symm.trans ho
    rw [kill_of_absent twins.healthy ho, kill_of_absent twins.healthy' ho']
    exact ⟨rfl, twins⟩
  | some occupant =>
    have ho' := twins.occupant?_eq ho
    by_cases hk : occupant.state = .killed
    · obtain ⟨he, hsame⟩ := kill_of_killed twins.healthy ho hk
      obtain ⟨he', hsame'⟩ := kill_of_killed twins.healthy' ho' hk
      rw [he, he', hsame, hsame']
      exact ⟨rfl, twins⟩
    have hs := twins.sound.live_of_not_killed ho hk
    cases hp : occupant.session.lockPoisoned with
    | true =>
      obtain ⟨he, hkilled⟩ := kill_of_live_broken twins.healthy ho hs hp
      obtain ⟨he', hkilled'⟩ := kill_of_live_broken twins.healthy' ho' hs hp
      rw [he, he', hkilled, hkilled']
      exact ⟨rfl, twins.replace ho (fun h => nomatch h)⟩
    | false =>
      obtain ⟨hok, hkilled⟩ := kill_of_live twins.healthy ho hs hp
      obtain ⟨hok', hkilled'⟩ := kill_of_live twins.healthy' ho' hs hp
      rw [hok, hok', hkilled, hkilled']
      have hreplaced : Twins handle before before'
          (first.setOccupant handle
            ⟨.killed, { occupant.session with engine := none, transfers := none }⟩)
          (second.setOccupant handle
            ⟨.killed, { occupant.session with engine := none, transfers := none }⟩) :=
        twins.replace ho (fun h => nomatch h)
      have hreleased := hreplaced.release occupant.session.engine.toList
      simp only [setOccupant_released] at hreleased
      exact ⟨rfl, hreleased⟩

private theorem wasIssued_of_absent {registry : Registry ε}
    (ho : registry.occupant? handle = none) :
    registry.wasIssued handle = true ↔ registry.state? handle = some .finalized := by
  simp [state?, ho]

theorem agree_finalize :
    Run.Agree (Twins handle before before') (finalize handle : Op ε Unit) (finalize handle) := by
  intro first second twins
  cases ho : first.occupant? handle with
  | none =>
    have ho' : second.occupant? handle = none := twins.same.1.symm.trans ho
    have hissued : first.wasIssued handle = second.wasIssued handle := by
      rw [Bool.eq_iff_iff, wasIssued_of_absent ho, wasIssued_of_absent ho', twins.same.2]
    cases hi : first.wasIssued handle with
    | true =>
      obtain ⟨hok, hsame⟩ := finalize_of_finalized twins.healthy ho hi
      obtain ⟨hok', hsame'⟩ := finalize_of_finalized twins.healthy' ho' (hissued ▸ hi)
      rw [hok, hok', hsame, hsame']
      exact ⟨rfl, twins⟩
    | false =>
      rw [finalize_of_unknown twins.healthy ho hi,
        finalize_of_unknown twins.healthy' ho' (hissued ▸ hi)]
      exact ⟨rfl, twins⟩
  | some occupant =>
    have ho' := twins.occupant?_eq ho
    by_cases hk : occupant.state = .killed
    · obtain ⟨hok, hstate⟩ := finalize_of_killed twins.healthy ho hk
      obtain ⟨hok', hstate'⟩ := finalize_of_killed twins.healthy' ho' hk
      rw [hok, hok', hstate, hstate']
      exact ⟨rfl, twins.vacate ho⟩
    · obtain ⟨hout, hstate⟩ := finalize_of_not_killed twins.healthy ho hk
      obtain ⟨hout', hstate'⟩ := finalize_of_not_killed twins.healthy' ho' hk
      obtain ⟨heq, hkilled⟩ := agree_kill first second twins
      rw [hout, hout', hstate, hstate', ← heq]
      refine ⟨rfl, ?_⟩
      split
      · rename_i hok
        obtain ⟨killed, hf, -⟩ := occupant?_kill hok
        exact hkilled.vacate hf
      · exact hkilled

end Agree

end Registry

end Switchboard
