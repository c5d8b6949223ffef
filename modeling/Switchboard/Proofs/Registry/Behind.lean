import Switchboard.Proofs.Registry.Admission
import Switchboard.Proofs.Registry.Deeds
/-!
# Behind a handle

What is known of the engine behind a handle (`Behind`) stays known until somebody uses it or another
session moves in: nothing that is done under other handles gets at it, and neither killing nor
finalizing changes it.
-/

namespace Switchboard

namespace Registry

variable {ε : Type}

/-- The session that the handle reaches, if any, has no engine or one of these. -/
def Behind (P : ε → Prop) (handle : Handle) (registry : Registry ε) : Prop :=
  ∀ occupant engine, registry.occupant? handle = some occupant →
    occupant.session.engine = some engine → P engine

section Behind

variable {P : ε → Prop} {handle other : Handle} {registry first second : Registry ε}

theorem behind_empty (config : Config) : Behind P handle (empty config) :=
  fun _ _ reached => nomatch reached

theorem Behind.setOccupant (behind : Behind P handle registry) {before : Occupant ε}
    (ho : registry.occupant? other = some before) {next : Occupant ε}
    (own : other = handle → ∀ engine, next.session.engine = some engine → P engine) :
    Behind P handle (registry.setOccupant other next) := by
  obtain ⟨slot, hs, hg, -⟩ := occupant?_eq_some.mp ho
  intro occupant engine reached held
  rw [occupant?_setOccupant_eq hs hg] at reached
  split at reached
  · rename_i same
    cases reached
    exact own same.symm engine held
  · exact behind occupant engine reached held

/-- Users who leave the engine as it is may be any. -/
theorem Behind.changeAt (behind : Behind P handle first) {uses : Session ε → Session ε → Prop}
    (own : other = handle → ∀ session next, uses session next → next.engine = session.engine)
    (change : ChangeAt uses other first second) : Behind P handle second := by
  induction change with
  | refl => exact behind
  | used ho _ used =>
    refine behind.setOccupant ho fun same engine held => ?_
    exact behind _ engine (same ▸ ho) ((own same _ _ used).symm.trans held)
  | killed ho => exact behind.setOccupant ho fun _ _ held => nomatch held
  | @kept _ occupant ho =>
    exact behind.setOccupant ho fun same engine held => behind occupant engine (same ▸ ho) held
  | vacated ho =>
    intro occupant engine reached held
    rw [occupant?_vacate ho] at reached
    split at reached
    · cases reached
    · exact behind occupant engine reached held
  | trans _ _ ih₁ ih₂ => exact ih₂ (ih₁ behind)

/-- A session that moves in under the handle has one of these engines. -/
theorem Behind.admitted (behind : Behind P handle registry) {ready : Registry ε}
    (claimed : Claimed registry other ready) {occupant : Occupant ε} (live : Nat)
    (own : other = handle → ∀ engine, occupant.session.engine = some engine → P engine) :
    Behind P handle (ready.admitted other occupant live) := by
  intro found engine reached held
  rw [occupant?_admitted_eq claimed] at reached
  split at reached
  · rename_i same
    cases reached
    exact own same.symm engine held
  · exact behind found engine reached held

/-! ## Removing -/

def Keeps (P : ε → Prop) (handle : Handle) (first second : Registry ε) : Prop :=
  Behind P handle first → Behind P handle second

theorem Keeps.refl (registry : Registry ε) : Keeps P handle registry registry := id

theorem Keeps.trans {third : Registry ε} (h₁ : Keeps P handle first second)
    (h₂ : Keeps P handle second third) : Keeps P handle first third := h₂ ∘ h₁

theorem keeps_kill (other : Handle) : Run.Moves (Keeps P handle) (kill other : Op ε Unit) :=
  fun registry behind =>
    have change : ChangeAt (fun _ _ => False) other registry (kill other registry).state :=
      changeAt_kill other registry
    behind.changeAt (fun _ _ _ used => used.elim) change

theorem keeps_finalize (other : Handle) :
    Run.Moves (Keeps P handle) (finalize other : Op ε Unit) :=
  fun registry behind =>
    have change : ChangeAt (fun _ _ => False) other registry (finalize other registry).state :=
      changeAt_finalize other registry
    behind.changeAt (fun _ _ _ used => used.elim) change

theorem keeps_shutdown : Run.Moves (Keeps P handle) (shutdown : Op ε Nat) :=
  moves_shutdown .refl .trans keeps_kill keeps_finalize

theorem keeps_close (guard : Guard) : Run.Moves (Keeps P handle) (guard.close : Op ε Unit) :=
  guard.moves_close .refl .trans keeps_kill keeps_finalize

theorem keeps_drop (guard : Guard) : Run.Moves (Keeps P handle) (guard.drop : Op ε Unit) :=
  guard.moves_drop .refl .trans keeps_kill keeps_finalize

end Behind

end Registry

end Switchboard
