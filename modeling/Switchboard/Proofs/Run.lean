import Switchboard.Run
/-!
# Reasoning about runs

How a run is worked out at a state, and ways to speak of all its states at once: `Moves R` (it
leads from each state to one that is related by `R`), `Agree R` (two runs from related states end
alike in related states) and `Mirror R V` (they end alike but for their values, which `V` relates).
All pass through `bind`, so what is shown of the parts of an operation holds of the whole.
-/

namespace Switchboard

/-- Two outcomes that are alike but for their values, which are related. -/
inductive Outcome.Rel {ε α β : Type} (V : α → β → Prop) : Outcome ε α → Outcome ε β → Prop
  | ok {value : α} {value' : β} : V value value' → Rel V (.ok value) (.ok value')
  | error (cause : ε) : Rel V (.error cause) (.error cause)
  | panic : Rel V .panic .panic

namespace Run

variable {σ τ ε δ α β : Type}

/-! ## Working a run out -/

@[simp] theorem pure_apply (value : α) (state : σ) :
    (pure value : Run σ ε α) state = ⟨.ok value, state, []⟩ := rfl

@[simp] theorem bind_apply (first : Run σ ε α) (next : α → Run σ ε β) (state : σ) :
    (first >>= next) state = andThen (first state) next := rfl

@[simp] theorem andThen_ok (value : α) (state : σ) (log : List Log.Entry) (next : α → Run σ ε β) :
    andThen ⟨.ok value, state, log⟩ next =
      ⟨(next value state).outcome, (next value state).state, log ++ (next value state).log⟩ := rfl

/-- A step that logs nothing leaves no trace of its own. -/
theorem andThen_silent (value : α) (state : σ) (next : α → Run σ ε β) :
    andThen ⟨.ok value, state, []⟩ next = next value state := rfl

@[simp] theorem andThen_error (cause : ε) (state : σ) (log : List Log.Entry)
    (next : α → Run σ ε β) :
    andThen ⟨.error cause, state, log⟩ next = ⟨.error cause, state, log⟩ := rfl

@[simp] theorem andThen_panic (state : σ) (log : List Log.Entry) (next : α → Run σ ε β) :
    andThen ⟨.panic, state, log⟩ next = ⟨.panic, state, log⟩ := rfl

theorem state_andThen_pure (ran : Ran σ ε α) (answer : α → β) :
    (andThen ran fun value => pure (answer value)).state = ran.state := by
  obtain ⟨outcome, state, log⟩ := ran
  cases outcome <;> rfl

theorem error_of_andThen_pure {ran : Ran σ ε α} {answer : α → β} {cause : ε}
    (h : (andThen ran fun value => pure (answer value)).outcome = .error cause) :
    ran.outcome = .error cause := by
  obtain ⟨outcome, state, log⟩ := ran
  cases outcome with
  | error earlier => exact congrArg Outcome.error (Outcome.error.inj h)
  | _ => cases h

theorem ok_of_andThen_pure {ran : Ran σ ε α} {answer value : β}
    (h : (andThen ran fun _ => pure answer).outcome = .ok value) :
    ∃ earlier, ran.outcome = .ok earlier := by
  obtain ⟨outcome, state, log⟩ := ran
  cases outcome with
  | ok earlier => exact ⟨earlier, rfl⟩
  | _ => cases h

theorem panic_andThen_pure {ran : Ran σ ε α} (h : ran.outcome = .panic) (answer : β) :
    (andThen ran fun _ => pure answer).outcome = .panic := by
  simp only [andThen, h]

@[simp] theorem get_apply (state : σ) : (get : Run σ ε σ) state = ⟨.ok state, state, []⟩ := rfl

@[simp] theorem modify_apply (change : σ → σ) (state : σ) :
    (modify change : Run σ ε Unit) state = ⟨.ok (), change state, []⟩ := rfl

@[simp] theorem log_apply (level : Log.Level) (message : String)
    (fields : List (String × Log.Value)) (state : σ) :
    (log level message fields : Run σ ε Unit) state = ⟨.ok (), state, [⟨level, message, fields⟩]⟩ :=
  rfl

@[simp] theorem fail_apply (cause : ε) (state : σ) :
    (fail cause : Run σ ε α) state = ⟨.error cause, state, []⟩ := rfl

/-! ## Where a run leads -/

/-- From every state the run leads to a related one, however it ends. -/
def Moves (R : σ → σ → Prop) (run : Run σ ε α) : Prop := ∀ state, R state (run state).state

section Moves

variable {R : σ → σ → Prop}

theorem Moves.bind (trans : ∀ {a b c}, R a b → R b c → R a c) {first : Run σ ε α}
    {next : α → Run σ ε β} (hf : Moves R first) (hn : ∀ value, Moves R (next value)) :
    Moves R (first >>= next) := by
  intro state
  have hs := hf state
  simp only [bind_apply, andThen]
  split
  · exact trans hs (hn _ _)
  · exact hs
  · exact hs

theorem Moves.andReturn {run : Run σ ε α} (h : Moves R run) (answer : α → β) :
    Moves R (do return answer (← run)) := by
  intro state
  have hs := h state
  simp only [bind_apply, andThen]
  split <;> exact hs

theorem Moves.attempt {run : Run σ ε α} (h : Moves R run) :
    Moves R (Run.attempt run : Run σ δ (Except ε α)) := by
  intro state
  simp only [Run.attempt]
  split <;> exact h state

/-- What follows an attempt has two cases. -/
theorem Moves.attempt_bind (trans : ∀ {a b c}, R a b → R b c → R a c) {first : Run σ ε α}
    {next : Except ε α → Run σ δ β} (hf : Moves R first)
    (hok : ∀ value, Moves R (next (.ok value)))
    (herror : ∀ cause, Moves R (next (.error cause))) : Moves R (Run.attempt first >>= next) := by
  refine Moves.bind (R := R) trans hf.attempt fun ended => ?_
  cases ended with
  | ok value => exact hok value
  | error cause => exact herror cause

theorem Moves.mapError {run : Run σ ε α} (h : Moves R run) (change : ε → δ) :
    Moves R (run.mapError change) := by
  intro state
  simp only [Run.mapError]
  split <;> exact h state

end Moves

/-! ## Two runs side by side -/

/-- From related states the two runs end alike, and in related states. -/
def Agree (R : σ → τ → Prop) (first : Run σ ε α) (second : Run τ ε α) : Prop :=
  ∀ s t, R s t → (first s).outcome = (second t).outcome ∧ R (first s).state (second t).state

section Agree

variable {R : σ → τ → Prop}

theorem Agree.pure (value : α) : Agree (ε := ε) R (pure value) (pure value) :=
  fun _ _ h => ⟨rfl, h⟩

theorem Agree.fail (cause : ε) : Agree (α := α) R (fail cause) (fail cause) :=
  fun _ _ h => ⟨rfl, h⟩

theorem Agree.bind {first : Run σ ε α} {second : Run τ ε α} {next : α → Run σ ε β}
    {next' : α → Run τ ε β} (hf : Agree R first second)
    (hn : ∀ value, Agree R (next value) (next' value)) :
    Agree R (first >>= next) (second >>= next') := by
  intro s t h
  obtain ⟨ho, hs⟩ := hf s t h
  simp only [bind_apply, andThen, ← ho]
  cases (first s).outcome with
  | ok value => exact hn value _ _ hs
  | error cause => exact ⟨rfl, hs⟩
  | panic => exact ⟨rfl, hs⟩

theorem Agree.modify {change : σ → σ} {change' : τ → τ}
    (h : ∀ s t, R s t → R (change s) (change' t)) :
    Agree (ε := ε) R (modify change) (modify change') := fun s t hr => ⟨rfl, h s t hr⟩

theorem Agree.log (level : Log.Level) (message : String) (fields : List (String × Log.Value)) :
    Agree (ε := ε) R (log level message fields) (log level message fields) :=
  fun _ _ h => ⟨rfl, h⟩

theorem Agree.mapError {first : Run σ ε α} {second : Run τ ε α} (h : Agree R first second)
    (change : ε → δ) : Agree R (first.mapError change) (second.mapError change) := by
  intro s t hr
  obtain ⟨ho, hs⟩ := h s t hr
  simp only [Run.mapError, ← ho]
  cases (first s).outcome with
  | ok value => exact ⟨rfl, hs⟩
  | error cause => exact ⟨rfl, hs⟩
  | panic => exact ⟨rfl, hs⟩

theorem Agree.attempt {first : Run σ ε α} {second : Run τ ε α} (h : Agree R first second) :
    Agree (ε := δ) R (Run.attempt first) (Run.attempt second) := by
  intro s t hr
  obtain ⟨ho, hs⟩ := h s t hr
  simp only [Run.attempt, ← ho]
  cases (first s).outcome with
  | ok value => exact ⟨rfl, hs⟩
  | error cause => exact ⟨rfl, hs⟩
  | panic => exact ⟨rfl, hs⟩

/-- What follows an attempt has two cases. -/
theorem Agree.attempt_bind {first : Run σ ε α} {second : Run τ ε α}
    {next : Except ε α → Run σ δ β} {next' : Except ε α → Run τ δ β}
    (h : Agree R first second)
    (hok : ∀ value, Agree R (next (.ok value)) (next' (.ok value)))
    (herror : ∀ cause, Agree R (next (.error cause)) (next' (.error cause))) :
    Agree R (Run.attempt first >>= next) (Run.attempt second >>= next') := by
  refine .bind h.attempt fun ended => ?_
  cases ended with
  | ok value => exact hok value
  | error cause => exact herror cause

end Agree

/-- From related states the two runs end alike but for their values, which are related, and in
related states. -/
def Mirror (R : σ → τ → Prop) (V : α → β → Prop) (first : Run σ ε α) (second : Run τ ε β) : Prop :=
  ∀ s t, R s t →
    Outcome.Rel V (first s).outcome (second t).outcome ∧ R (first s).state (second t).state

section Mirror

variable {γ ζ : Type} {R : σ → τ → Prop} {V : α → β → Prop} {W : γ → ζ → Prop}

theorem mirror_eq {first : Run σ ε α} {second : Run τ ε α} :
    Mirror R (· = ·) first second ↔ Agree R first second := by
  constructor
  · intro h s t hr
    obtain ⟨ho, hs⟩ := h s t hr
    refine ⟨?_, hs⟩
    generalize (first s).outcome = outcome, (second t).outcome = outcome' at ho
    cases ho with
    | ok same => rw [same]
    | error cause => rfl
    | panic => rfl
  · intro h s t hr
    obtain ⟨ho, hs⟩ := h s t hr
    refine ⟨?_, hs⟩
    rw [← ho]
    cases (first s).outcome with
    | ok value => exact .ok rfl
    | error cause => exact .error cause
    | panic => exact .panic

theorem Mirror.pure {value : α} {value' : β} (h : V value value') :
    Mirror (ε := ε) R V (pure value) (pure value') := fun _ _ hr => ⟨.ok h, hr⟩

theorem Mirror.fail (cause : ε) : Mirror (ε := ε) R V (fail cause) (fail cause) :=
  fun _ _ hr => ⟨.error cause, hr⟩

theorem Mirror.get : Mirror (ε := ε) R R get get := fun _ _ hr => ⟨.ok hr, hr⟩

theorem Mirror.bind {first : Run σ ε α} {second : Run τ ε β} {next : α → Run σ ε γ}
    {next' : β → Run τ ε ζ} (hf : Mirror R V first second)
    (hn : ∀ value value', V value value' → Mirror R W (next value) (next' value')) :
    Mirror R W (first >>= next) (second >>= next') := by
  intro s t hr
  obtain ⟨ho, hs⟩ := hf s t hr
  simp only [bind_apply, andThen]
  generalize (first s).outcome = outcome, (second t).outcome = outcome' at ho
  cases ho with
  | ok hv => exact hn _ _ hv _ _ hs
  | error cause => exact ⟨.error cause, hs⟩
  | panic => exact ⟨.panic, hs⟩

/-- Where the values do not matter to the end, the whole ends alike. -/
theorem Mirror.bind_agree {first : Run σ ε α} {second : Run τ ε β} {next : α → Run σ ε γ}
    {next' : β → Run τ ε γ} (hf : Mirror R V first second)
    (hn : ∀ value value', V value value' → Agree R (next value) (next' value')) :
    Agree R (first >>= next) (second >>= next') :=
  mirror_eq.mp (hf.bind fun value value' hv => mirror_eq.mpr (hn value value' hv))

theorem Agree.bind_mirror {first : Run σ ε α} {second : Run τ ε α} {next : α → Run σ ε γ}
    {next' : α → Run τ ε ζ} (hf : Agree R first second)
    (hn : ∀ value, Mirror R W (next value) (next' value)) :
    Mirror R W (first >>= next) (second >>= next') :=
  (mirror_eq.mpr hf).bind fun value _ hv => hv ▸ hn value

theorem Mirror.mapError {first : Run σ ε α} {second : Run τ ε β} (h : Mirror R V first second)
    (change : ε → δ) : Mirror R V (first.mapError change) (second.mapError change) := by
  intro s t hr
  obtain ⟨ho, hs⟩ := h s t hr
  simp only [Run.mapError]
  generalize (first s).outcome = outcome, (second t).outcome = outcome' at ho
  cases ho with
  | ok hv => exact ⟨.ok hv, hs⟩
  | error cause => exact ⟨.error _, hs⟩
  | panic => exact ⟨.panic, hs⟩

end Mirror

end Run

end Switchboard
