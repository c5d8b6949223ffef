import Switchboard.Proofs.Session.Built
import Switchboard.Proofs.Session.Work
import Switchboard.Simulation.SimulatedEngine
/-!
# Warnings of a backlog

Between two drains of a session there is one warning of a backlog if a pass ended well with more
events waiting than the threshold, and none otherwise (`backlog_warned_once`). The threshold decides
about warnings alone: under any other one the same passes end well, the same batches are drained and
the same events wait.

What is kept along the way is that the session remembers a warning exactly if there was such a pass
since the last drain (`Warns`). Only the last part of a pass touches that memory; everything else a
request does is quiet (`Built.quiet`).
-/

namespace Switchboard

def Log.Entry.isBacklogWarning (entry : Log.Entry) : Bool :=
  entry.level == .warn && entry.message == backlogMessage

def backlogWarnings (entries : List Log.Entry) : Nat := entries.countP (·.isBacklogWarning)

@[simp] theorem backlogWarnings_nil : backlogWarnings [] = 0 := rfl

@[simp] theorem backlogWarnings_append (first second : List Log.Entry) :
    backlogWarnings (first ++ second) = backlogWarnings first + backlogWarnings second :=
  List.countP_append

namespace Mark

/-- A pass that ended well, with more events waiting than the threshold. -/
def overfull (threshold : Nat) : Mark → Bool
  | .passed pending => threshold < pending
  | _ => false

def isDrain : Mark → Bool
  | .drained _ => true
  | _ => false

end Mark

/-- The steps from one memory of a warning to another, each with the warnings it has to give. -/
inductive Warns (threshold : Nat) : Bool → List Stage → Bool → Prop
  | nil (warned : Bool) : Warns threshold warned [] warned
  | cons {warned last : Bool} {stage : Stage} {rest : List Stage} :
    backlogWarnings stage.entries = (if stage.mark.overfull threshold && !warned then 1 else 0) →
    Warns threshold (!stage.mark.isDrain && (warned || stage.mark.overfull threshold)) rest last →
    Warns threshold warned (stage :: rest) last

namespace Warns

variable {threshold : Nat} {warned middle last : Bool} {first second : List Stage}

theorem append (h : Warns threshold warned first middle)
    (h' : Warns threshold middle second last) : Warns threshold warned (first ++ second) last := by
  induction h with
  | nil => exact h'
  | cons count _ ih => exact .cons count (ih h')

theorem split (h : Warns threshold warned (first ++ second) last) :
    ∃ middle, Warns threshold warned first middle ∧ Warns threshold middle second last := by
  induction first generalizing warned with
  | nil => exact ⟨warned, .nil warned, h⟩
  | cons stage rest ih =>
    cases h with
    | cons count h =>
      obtain ⟨middle, front, back⟩ := ih h
      exact ⟨middle, .cons count front, back⟩

/-- After a drain there is no memory of a warning. -/
theorem reset (h : Warns threshold warned first last) {stage : Stage}
    (ends : stage ∈ first.getLast?) (drain : stage.mark.isDrain = true) : last = false := by
  induction h with
  | nil => cases ends
  | @cons warned last head rest _ h ih =>
    cases rest with
    | nil =>
      cases h
      have same : head = stage := by simpa using ends
      rw [same, drain]
      rfl
    | cons next rest => exact ih (by simpa using ends)

/-- As long as nothing is drained, one warning is given if there was none before and there is a
reason for one. -/
theorem count (h : Warns threshold warned first last)
    (undrained : ∀ stage ∈ first, stage.mark.isDrain = false) :
    backlogWarnings (first.flatMap (·.entries))
      = if first.any (·.mark.overfull threshold) && !warned then 1 else 0 := by
  induction h with
  | nil => simp
  | @cons warned last stage rest count _ ih =>
    have rest := ih fun other h => undrained other (List.mem_cons_of_mem _ h)
    rw [undrained stage List.mem_cons_self] at rest
    rw [List.flatMap_cons, backlogWarnings_append, count, rest, List.any_cons]
    cases warned <;> cases stage.mark.overfull threshold <;> simp

end Warns

/-! ## Operations that hold the session -/

section Held

variable {ε α β : Type}

/-- A run of an operation that was such a step remembers and gives the warnings it has to. -/
structure Remembers (mark : Mark) (held : HeldSession ε) (ran : Ran (HeldSession ε) CallError α) :
    Prop where
  threshold : ran.state.warnThreshold = held.warnThreshold
  warned : ran.state.warned =
    (!mark.isDrain && (held.warned || mark.overfull held.warnThreshold.toNat))
  warnings : backlogWarnings ran.log =
    if mark.overfull held.warnThreshold.toNat && !held.warned then 1 else 0

/-- The operation neither warns of a backlog nor touches the memory of that. -/
abbrev Quiet (operation : Held ε α) : Prop := ∀ held, Remembers .other held (operation held)

private theorem quiet_iff {held : HeldSession ε} {ran : Ran (HeldSession ε) CallError α} :
    Remembers .other held ran ↔ ran.state.warnThreshold = held.warnThreshold ∧
      ran.state.warned = held.warned ∧ backlogWarnings ran.log = 0 := by
  constructor
  · rintro ⟨threshold, warned, warnings⟩
    exact ⟨threshold, warned.trans (by simp [Mark.isDrain, Mark.overfull]), warnings⟩
  · rintro ⟨threshold, warned, warnings⟩
    exact ⟨threshold, warned.trans (by simp [Mark.isDrain, Mark.overfull]), warnings⟩

/-- A quiet part first does not make a difference. -/
theorem Remembers.after {mark : Mark} {held : HeldSession ε}
    {first : Ran (HeldSession ε) CallError α} {value : α} (ok : first.outcome = .ok value)
    (quiet : Remembers .other held first) {next : α → Held ε β}
    (h : Remembers mark first.state (next value first.state)) :
    Remembers mark held (Run.andThen first next) := by
  obtain ⟨threshold, warned, warnings⟩ := quiet_iff.mp quiet
  have last := h
  rw [Run.andThen, ok]
  refine ⟨h.threshold.trans threshold, ?_, ?_⟩
  · rw [← threshold, ← warned]
    exact h.warned
  · rw [← threshold, ← warned, backlogWarnings_append, warnings, Nat.zero_add]
    exact h.warnings

/-- The operation gives the warning that a pass has to. -/
abbrev Passing (operation : Held ε α) : Prop :=
  ∀ held, Remembers (.ofPass (operation held)) held (operation held)

theorem Passing.bind {first : Held ε α} {next : α → Held ε β} (hf : Quiet first)
    (hn : ∀ value, Passing (next value)) : Passing (first >>= next) := by
  intro held
  have quiet := hf held
  rcases hran : first held with ⟨outcome, state, entries⟩
  rw [hran] at quiet
  rw [Run.bind_apply, hran]
  cases outcome with
  | ok value => exact quiet.after rfl (hn value state)
  | error cause => exact ⟨quiet.threshold, quiet.warned, quiet.warnings⟩
  | panic => exact ⟨quiet.threshold, quiet.warned, quiet.warnings⟩

theorem Passing.andReturn {operation : Held ε α} (h : Passing operation) (answer : β) :
    Passing (do let _ ← operation; return answer) := by
  intro held
  have passing := h held
  rcases hran : operation held with ⟨outcome, state, entries⟩
  rw [hran] at passing
  rw [Run.bind_apply, hran]
  cases outcome with
  | ok value =>
    refine ⟨passing.threshold, passing.warned, ?_⟩
    rw [Run.andThen_ok, Run.pure_apply, List.append_nil]
    exact passing.warnings
  | error cause => exact ⟨passing.threshold, passing.warned, passing.warnings⟩
  | panic => exact ⟨passing.threshold, passing.warned, passing.warnings⟩

namespace HeldSession

private theorem passing_warnOfBacklog : Passing (warnOfBacklog (ε := ε)) := by
  intro held
  simp only [warnOfBacklog]
  by_cases exceeded : held.warnThreshold.toNat < held.events.length
  · cases hwarned : held.warned with
    | true =>
      rw [if_neg (by simp)]
      exact ⟨rfl, by simp [hwarned, Mark.ofPass, Mark.isDrain], by simp [hwarned]⟩
    | false =>
      rw [if_pos ⟨exceeded, rfl⟩]
      refine ⟨rfl, ?_, ?_⟩
      · simp [Mark.ofPass, Mark.isDrain, Mark.overfull, exceeded]
      · simp [Mark.ofPass, Mark.overfull, exceeded, hwarned]
        rfl
  · rw [if_neg fun h => exceeded h.1]
    refine ⟨rfl, ?_, ?_⟩
    · simp [Mark.ofPass, Mark.isDrain, Mark.overfull, exceeded]
    · simp [Mark.ofPass, Mark.overfull, exceeded]

variable [Engine ε]

/-- What is put together without a warning of a backlog is quiet. -/
theorem Built.quiet {may : Call → Prop} {operation : Held ε α}
    (built : Built may False operation) : Quiet operation := by
  intro held
  induction built generalizing held with
  | @bind _ _ first next _ _ hf hn =>
    have quiet := hf held
    rcases hran : first held with ⟨outcome, state, entries⟩
    rw [hran] at quiet
    rw [Run.bind_apply, hran]
    cases outcome with
    | ok value => exact quiet.after rfl (hn value state)
    | error cause => exact ⟨quiet.threshold, quiet.warned, quiet.warnings⟩
    | panic => exact ⟨quiet.threshold, quiet.warned, quiet.warnings⟩
  | call _ =>
    simp only [HeldSession.call]
    split <;> exact quiet_iff.mpr ⟨rfl, rfl, rfl⟩
  | log message fields aside =>
    refine quiet_iff.mpr ⟨rfl, rfl, ?_⟩
    simp [HeldSession.log, backlogWarnings, Log.Entry.isBacklogWarning, aside.2]
  | receive now notification =>
    have traced : backlogWarnings (held.traceEntry notification) = 0 := by
      rw [traceEntry]
      split <;> rfl
    simp only [HeldSession.receive]
    split <;> exact quiet_iff.mpr ⟨rfl, rfl, traced⟩
  | requestChunks now =>
    simp only [HeldSession.requestChunks, Run.modify_apply]
    split <;> exact quiet_iff.mpr ⟨rfl, rfl, rfl⟩
  | warnOfBacklog never => exact never.elim
  | _ => exact quiet_iff.mpr ⟨rfl, rfl, rfl⟩

private theorem passing_dispatch (now : Timestamp) (fired : Fired) :
    Passing (ε := ε) (dispatch now fired) := by
  have taken : Built (ε := ε) (fun _ => True) False (receiveAll now fired.notifications) :=
    built_receiveAll now fired.notifications
  refine .bind taken.quiet fun violation => ?_
  split
  · exact fun held => quiet_iff.mpr ⟨rfl, rfl, rfl⟩
  · cases violation with
    | some violation => exact fun held => quiet_iff.mpr ⟨rfl, rfl, rfl⟩
    | none =>
      have outbound : Built (ε := ε) (fun _ => True) False takeOutbound := .takeOutbound
      have chunks : Built (ε := ε) (fun _ => True) False (requestChunks now) := .requestChunks now
      refine .bind outbound.quiet fun controls => ?_
      have told : Built (ε := ε) (fun _ => True) False (tell controls) :=
        built_tell (fun _ _ _ _ => trivial) controls
      exact .bind told.quiet fun _ => .bind chunks.quiet fun _ => passing_warnOfBacklog

private theorem passing_iterate (now : Timestamp) : Passing (ε := ε) (iterate now) := by
  have asked : Built (ε := ε) (fun _ => True) False (call .iterate) := .call trivial
  exact .bind asked.quiet fun fired => passing_dispatch now fired

theorem passing_perform (now : Timestamp) {request : Request} (pass : request.isPass = true) :
    Passing (ε := ε) (request.perform now) := by
  cases request with
  | iterate => exact (passing_iterate now).andReturn _
  | invoke fired => exact (passing_dispatch now fired).andReturn _
  | _ => cases pass

end HeldSession

variable [Engine ε]

/-- Every step of an operation that holds the session gives the warnings it has to. -/
theorem Doing.remembers (doing : Doing α) (held : HeldSession ε) :
    Remembers (doing.mark (doing.perform held)) held (doing.perform held) := by
  have quiet : ∀ {γ : Type} {operation : Held ε γ},
      HeldSession.Built (fun _ => True) False operation → Quiet operation :=
    fun built => built.quiet
  cases doing with
  | look => exact quiet_iff.mpr ⟨rfl, rfl, rfl⟩
  | call c => exact quiet (.call trivial) held
  | updateTransfers change => exact quiet (.updateTransfers change) held
  | poison violation => exact quiet (.poison violation) held
  | drain => exact ⟨rfl, rfl, rfl⟩
  | request now asked =>
    rw [perform, mark]
    split
    · rename_i pass
      exact HeldSession.passing_perform now pass held
    · rename_i other
      exact quiet (HeldSession.built_perform now (fun _ _ => trivial) other) held

/-- So does the whole operation. -/
theorem Work.warns (work : Work) (held : HeldSession ε) :
    (work.run held).state.warnThreshold = held.warnThreshold ∧
      Warns held.warnThreshold.toNat held.warned (work.stages held)
        (work.run held).state.warned := by
  induction work generalizing held with
  | finish outcome => exact ⟨rfl, .nil _⟩
  | step doing next ih =>
    have first := doing.remembers held
    obtain ⟨threshold, rest⟩ := ih (doing.perform held).outcome (doing.perform held).state
    rw [first.threshold, first.warned] at rest
    exact ⟨threshold.trans first.threshold, .cons first.warnings rest⟩

end Held

namespace Session

variable {ε : Type} [Engine ε]

/-- Every step of a run gives the warnings it has to. -/
theorem Step.warns (step : Step) (session : Session ε) :
    (step.perform session).1.warnThreshold = session.warnThreshold ∧
      Warns session.warnThreshold.toNat session.warned (step.stages session)
        (step.perform session).1.warned := by
  have quiet : ∀ {after : Session ε} {entries : List Log.Entry},
      after.warnThreshold = session.warnThreshold → after.warned = session.warned →
      backlogWarnings entries = 0 →
      after.warnThreshold = session.warnThreshold ∧
        Warns session.warnThreshold.toNat session.warned [⟨.other, entries⟩] after.warned := by
    intro after entries threshold warned none
    refine ⟨threshold, .cons none ?_⟩
    simpa [warned, Mark.isDrain, Mark.overfull] using Warns.nil session.warned
  cases step with
  | subscribe =>
    simp only [stages, perform, subscribeAll]
    split
    · exact quiet rfl rfl rfl
    · split
      · exact quiet rfl rfl rfl
      · split <;> exact quiet rfl rfl rfl
  | hold work =>
    simp only [stages, perform]
    cases h : session.held? with
    | none =>
      rw [(hold_of_not_held h work.run).2]
      exact ⟨rfl, .nil _⟩
    | some held =>
      obtain ⟨-, broken, after⟩ := hold_of_held? h work.run
      rw [after, ← toCore_of_held? h]
      exact work.warns held
  | drain =>
    simp only [stages, perform, Session.drain]
    split
    · exact quiet rfl rfl rfl
    · exact ⟨rfl, .cons rfl (.nil false)⟩
  | release =>
    simp only [stages, perform, Session.release]
    split
    · exact quiet rfl rfl rfl
    · refine quiet rfl rfl ?_
      dsimp only
      split
      · split <;> rfl
      · rfl

theorem warns_course (steps : List Step) (session : Session ε) :
    Warns session.warnThreshold.toNat session.warned (course steps session)
      (performAll steps session).1.warned := by
  induction steps generalizing session with
  | nil => exact .nil _
  | cons step rest ih =>
    obtain ⟨threshold, first⟩ := step.warns session
    have more := ih (step.perform session).1
    rw [threshold] at more
    exact first.append more

/-- Whatever is done with a new session, and whatever its threshold is: if `before` is empty or ends
with a drain, what follows without a drain logs exactly one warning of a backlog if a pass ended
well with more events waiting than the threshold, and none otherwise. Under any other threshold the
same passes end well with as many events, the same batches are drained, and the same events wait. -/
theorem backlog_warned_once (handle : Handle) (engine : ε) (addressing : Addressing)
    (threshold : UInt64) (steps : List Step) :
    (course steps (opened handle engine addressing threshold)).flatMap (·.entries) =
        (performAll steps (opened handle engine addressing threshold)).2 ∧
      (∀ before cycle after,
        course steps (opened handle engine addressing threshold) = before ++ cycle ++ after →
        (∀ last ∈ before.getLast?, last.mark.isDrain = true) →
        (∀ stage ∈ cycle, stage.mark.isDrain = false) →
        backlogWarnings (cycle.flatMap (·.entries)) =
          if cycle.any (·.mark.overfull threshold.toNat) then 1 else 0) ∧
      ∀ other : UInt64,
        (course steps (opened handle engine addressing threshold)).map (·.mark) =
            (course steps (opened handle engine addressing other)).map (·.mark) ∧
          (performAll steps (opened handle engine addressing threshold)).1.events =
            (performAll steps (opened handle engine addressing other)).1.events ∧
          (performAll steps (opened handle engine addressing threshold)).1.engine =
            (performAll steps (opened handle engine addressing other)).1.engine := by
  refine ⟨entries_course steps _, ?_, fun other => ?_⟩
  · intro before cycle after split opens undrained
    have warns := warns_course steps (opened handle engine addressing threshold)
    rw [split, List.append_assoc] at warns
    obtain ⟨memory, front, back⟩ := warns.split
    obtain ⟨_, inside, -⟩ := back.split
    have fresh : memory = false := by
      cases before with
      | nil => cases front; rfl
      | cons stage rest =>
        have ends := List.getLast?_eq_some_getLast (List.cons_ne_nil stage rest)
        exact front.reset ends (opens _ ends)
    rw [fresh] at inside
    have counted := inside.count undrained
    rw [Bool.not_false, Bool.and_true] at counted
    exact counted
  · have alike : (opened handle engine addressing threshold).Like (· = ·)
        (opened handle engine addressing other) :=
      ⟨⟨rfl, rfl, rfl, rfl⟩, rfl, rfl⟩
    obtain ⟨marks, last⟩ := marks_course steps alike
    exact ⟨marks, last.core.events, last.engine⟩

def crowding : List Step :=
  [.hold (.single .epoch (.invoke ⟨[.groupSelfJoin 1, .groupSelfJoin 2], false⟩)),
    .hold (.single .epoch (.invoke ⟨[.groupSelfJoin 3], false⟩)), .drain,
    .hold (.single .epoch (.invoke ⟨[.groupSelfJoin 4], false⟩))]

def crowded : List Stage :=
  course crowding (opened ⟨0, 1⟩ (SimulatedEngine.make 0 .unified {}) .unified 1)

theorem crowded_warned_once :
    crowded.map (·.mark.overfull 1) = [true, true, false, false] ∧
      backlogWarnings ((crowded.take 2).flatMap (·.entries)) = 1 ∧
      backlogWarnings ((crowded.drop 3).flatMap (·.entries)) = 0 := by
  obtain ⟨-, once, -⟩ :=
    backlog_warned_once ⟨0, 1⟩ (SimulatedEngine.make 0 .unified {}) .unified 1 crowding
  refine ⟨by decide +kernel, ?_, ?_⟩
  · exact (once [] (crowded.take 2) (crowded.drop 2) (by rfl) (by decide)
      (by decide +kernel)).trans (by decide +kernel)
  · exact (once (crowded.take 3) (crowded.drop 3) [] (by rfl) (by decide +kernel)
      (by decide +kernel)).trans (by decide +kernel)

end Session

end Switchboard
