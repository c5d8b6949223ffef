import Switchboard.Proofs.Session.Agreement
import Switchboard.Proofs.Session.Asked
/-!
# What is done with a session

A session is asked for its notifications, held by one operation after the other, drained, and
released at last (`Session.Step`). An operation that holds it works with it in steps of its own
(`Work`): it looks at the session, calls the engine, changes the transfers, disables or drains the
session, or makes a request, and goes on as it sees fit by how that ended.

A run is told as a list of stages, each with what the step was as far as the waiting events are
concerned and with what it logged (`course`). Sessions that are alike in all that can be seen of
them run through the same stages but for the log (`marks_course`).
-/

namespace Switchboard

/-- What a step was, as far as the waiting events are concerned. -/
inductive Mark where
  | drained (batch : Batch)
  /-- A pass that ended well, with so many events waiting. -/
  | passed (pending : Nat)
  | other
  deriving DecidableEq, Repr

def Mark.ofDrain {δ : Type} : Outcome δ Batch → Mark
  | .ok batch => .drained batch
  | _ => .other

def Mark.ofPass {ε α : Type} (ran : Ran (HeldSession ε) CallError α) : Mark :=
  match ran.outcome with
  | .ok _ => .passed ran.state.events.length
  | _ => .other

structure Stage where
  mark : Mark
  entries : List Log.Entry
  deriving DecidableEq, Repr

/-- What an operation can see of a session it holds, but for the engine. -/
structure Sight where
  handle : Handle
  events : EventQueue
  transfers : Option Transfer.Table

/-- A step of an operation that holds a session, with the type of its value. -/
inductive Doing : Type → Type where
  | look : Doing Sight
  | call (c : Call) : Doing c.Answer
  | updateTransfers (change : Transfer.Table → Transfer.Table) : Doing Unit
  | poison (violation : Violation) : Doing Unit
  | drain : Doing Batch
  | request (now : Timestamp) (request : Request) : Doing Reply

/-- What an operation does with a session it holds: one step after the other, each chosen by how the
steps before it ended. -/
inductive Work : Type 1 where
  | finish (outcome : Outcome CallError Unit)
  | step {α : Type} (doing : Doing α) (next : Outcome CallError α → Work)

def Work.single (now : Timestamp) (request : Request) : Work :=
  .step (.request now request) fun outcome =>
    match outcome with
    | .ok _ => .finish (.ok ())
    | .error cause => .finish (.error cause)
    | .panic => .finish .panic

section Held

variable {ε : Type} [Engine ε]

def Doing.perform {α : Type} : Doing α → Held ε α
  | .look => fun held => ⟨.ok ⟨held.handle, held.events, held.transfers⟩, held, []⟩
  | .call c => HeldSession.call c
  | .updateTransfers change => HeldSession.updateTransfers change
  | .poison violation => HeldSession.poison violation
  | .drain => HeldSession.drain
  | .request now asked => asked.perform now

def Doing.mark {α : Type} : Doing α → Ran (HeldSession ε) CallError α → Mark
  | .drain, ran => .ofDrain ran.outcome
  | .request _ asked, ran => if asked.isPass then .ofPass ran else .other
  | .look, _ | .call _, _ | .updateTransfers _, _ | .poison _, _ => .other

namespace Work

def run : Work → Held ε Unit
  | .finish outcome => fun held => ⟨outcome, held, []⟩
  | .step doing next => fun held =>
    let ran := doing.perform held
    let last := (next ran.outcome).run ran.state
    ⟨last.outcome, last.state, ran.log ++ last.log⟩

def stages : Work → HeldSession ε → List Stage
  | .finish _, _ => []
  | .step doing next, held =>
    let ran := doing.perform held
    ⟨doing.mark ran, ran.log⟩ :: (next ran.outcome).stages ran.state

/-- The stages of an operation log what it logs. -/
theorem entries_stages (work : Work) (held : HeldSession ε) :
    (work.stages held).flatMap (·.entries) = (work.run held).log := by
  induction work generalizing held with
  | finish outcome => rfl
  | step doing next ih =>
    simp only [stages, run, List.flatMap_cons, ih]

end Work

end Held

namespace Session

variable {ε α : Type}

/-- What is done with a session, or with the session inside its lock. -/
inductive Step : Type 1 where
  | subscribe
  | hold (work : Work)
  | drain
  | release

/-- The session in the hands of an operation, if one can hold it. -/
def held? (session : Session ε) : Option (HeldSession ε) :=
  if session.lockPoisoned || session.violation.isSome then none
  else session.engine.map fun engine => ⟨session.toCore, engine⟩

theorem toCore_of_held? {session : Session ε} {held : HeldSession ε}
    (h : session.held? = some held) :
    held.toCore = session.toCore := by
  rw [held?] at h
  split at h
  · cases h
  · obtain ⟨engine, -, rfl⟩ := Option.map_eq_some_iff.mp h
    rfl

theorem hold_of_held? {session : Session ε} {held : HeldSession ε} (h : session.held? = some held)
    (operation : Held ε α) :
    (hold operation session).log = (operation held).log ∧
      ∃ broken, (hold operation session).state =
        ⟨(operation held).state.toCore, some (operation held).state.engine, broken⟩ := by
  rw [held?] at h
  split at h
  · cases h
  · rename_i able
    simp only [Bool.or_eq_true, not_or, Bool.not_eq_true] at able
    obtain ⟨engine, he, rfl⟩ := Option.map_eq_some_iff.mp h
    simp only [hold, able.1, able.2, he, Bool.false_eq_true, if_false]
    exact ⟨trivial, _, rfl⟩

theorem hold_of_not_held {session : Session ε} (h : session.held? = none)
    (operation : Held ε α) :
    (hold operation session).log = [] ∧ (hold operation session).state = session := by
  rw [held?] at h
  rw [hold]
  split at h
  · rename_i unable
    cases hp : session.lockPoisoned with
    | true => exact ⟨rfl, rfl⟩
    | false =>
      rw [hp, Bool.false_or] at unable
      simp only [unable, Bool.false_eq_true, if_false, if_true, and_self]
  · rename_i able
    simp only [Bool.or_eq_true, not_or, Bool.not_eq_true] at able
    rw [Option.map_eq_none_iff] at h
    simp only [able.1, able.2, h, Bool.false_eq_true, if_false, and_self]

variable [Engine ε]

namespace Step

def perform : Step → Session ε → Session ε × List Log.Entry
  | .subscribe, session => ((subscribeAll session).state, (subscribeAll session).log)
  | .hold work, session =>
    ((Session.hold work.run session).state, (Session.hold work.run session).log)
  | .drain, session => ((Session.drain session).state, (Session.drain session).log)
  | .release, session => ((Session.release session).state, (Session.release session).log)

def stages : Step → Session ε → List Stage
  | .subscribe, session => [⟨.other, (subscribeAll session).log⟩]
  | .hold work, session =>
    match session.held? with
    | some held => work.stages held
    | none => []
  | .drain, session => [⟨.ofDrain (Session.drain session).outcome, (Session.drain session).log⟩]
  | .release, session => [⟨.other, (Session.release session).log⟩]

theorem entries_stages (step : Step) (session : Session ε) :
    (step.stages session).flatMap (·.entries) = (step.perform session).2 := by
  cases step with
  | subscribe => exact List.append_nil _
  | hold work =>
    simp only [stages, perform]
    cases h : session.held? with
    | none => exact (hold_of_not_held h work.run).1.symm
    | some held => exact (work.entries_stages held).trans (hold_of_held? h work.run).1.symm
  | drain => exact List.append_nil _
  | release => exact List.append_nil _

end Step

def performAll : List Step → Session ε → Session ε × List Log.Entry
  | [], session => (session, [])
  | step :: rest, session =>
    let (next, entries) := step.perform session
    let (last, more) := performAll rest next
    (last, entries ++ more)

/-- The stages that some steps go through. -/
def course : List Step → Session ε → List Stage
  | [], _ => []
  | step :: rest, session => step.stages session ++ course rest (step.perform session).1

theorem entries_course (steps : List Step) (session : Session ε) :
    (course steps session).flatMap (·.entries) = (performAll steps session).2 := by
  induction steps generalizing session with
  | nil => rfl
  | cons step rest ih =>
    simp only [course, performAll, List.flatMap_append, step.entries_stages, ih]

end Session

/-! ## Sessions that are alike -/

section Alike

variable {ε α : Type} [Engine ε]

theorem Doing.agree_perform (doing : Doing α) :
    HeldSession.Agree (ε := ε) (· = ·) doing.perform doing.perform := by
  cases doing with
  | look =>
    intro first second h
    have same : (⟨first.handle, first.events, first.transfers⟩ : Sight) =
        ⟨second.handle, second.events, second.transfers⟩ := by
      rw [h.core.handle, h.core.events, h.core.transfers]
    exact ⟨congrArg Outcome.ok same, h⟩
  | call c => exact HeldSession.agree_call c
  | updateTransfers change => exact HeldSession.agree_updateTransfers change
  | poison violation => exact HeldSession.agree_poison violation
  | drain =>
    intro first second h
    simp only [perform, HeldSession.drain, Session.Core.drain, h.core.events]
    exact ⟨trivial, ⟨h.core.handle, rfl, h.core.transfers, h.core.violation⟩, h.engine⟩
  | request now asked =>
    exact asked.agree_perform (Q := (· = ·)) (EventQueue.pushClosedAt_eq now)

private theorem Doing.mark_eq (doing : Doing α) {first second : HeldSession ε}
    (h : first.Like (· = ·) second) :
    doing.mark (doing.perform first) = doing.mark (doing.perform second) := by
  obtain ⟨same, next⟩ := doing.agree_perform first second h
  cases doing <;> simp only [mark, Mark.ofPass, same, next.core.events]

/-- An operation does the same with sessions that are alike, and goes through the same stages. -/
theorem Work.agree_run (work : Work) {first second : HeldSession ε}
    (h : first.Like (· = ·) second) :
    (work.stages first).map (·.mark) = (work.stages second).map (·.mark) ∧
      (work.run first).outcome = (work.run second).outcome ∧
      (work.run first).state.Like (· = ·) (work.run second).state := by
  induction work generalizing first second with
  | finish outcome => exact ⟨rfl, rfl, h⟩
  | step doing next ih =>
    obtain ⟨same, related⟩ := doing.agree_perform first second h
    obtain ⟨marks, ends⟩ := ih (doing.perform first).outcome related
    simp only [stages, run, List.map_cons, doing.mark_eq h]
    rw [← same]
    exact ⟨congrArg _ marks, ends⟩

end Alike

namespace Session

variable {ε : Type} {first second : Session ε}

theorem Like.held? (h : first.Like (· = ·) second) :
    (first.held? = none ∧ second.held? = none) ∨
      ∃ held held', first.held? = some held ∧ second.held? = some held' ∧
        held.Like (· = ·) held' := by
  simp only [Session.held?, h.lockPoisoned, h.core.violation, h.engine]
  split
  · exact .inl ⟨rfl, rfl⟩
  · cases second.engine with
    | none => exact .inl ⟨rfl, rfl⟩
    | some engine => exact .inr ⟨_, _, rfl, rfl, h.core, rfl⟩

theorem agree_drain : Run.Agree (Like (ε := ε) (· = ·)) drain drain := by
  intro first second h
  simp only [drain, h.lockPoisoned, Core.drain, h.core.events]
  split
  · exact ⟨rfl, h⟩
  · exact ⟨rfl, ⟨h.core.handle, rfl, h.core.transfers, h.core.violation⟩, h.engine, rfl⟩

variable [Engine ε]

theorem Step.agree_perform (step : Step) (h : first.Like (· = ·) second) :
    (step.stages first).map (·.mark) = (step.stages second).map (·.mark) ∧
      (step.perform first).1.Like (· = ·) (step.perform second).1 := by
  cases step with
  | subscribe =>
    refine ⟨rfl, ?_⟩
    simp only [perform, subscribeAll, h.lockPoisoned, h.engine]
    split
    · exact h
    · cases he : second.engine with
      | none => exact h
      | some engine =>
        dsimp only
        split <;> exact ⟨h.core, rfl, rfl⟩
  | hold work =>
    refine ⟨?_, (agree_hold (fun _ _ related => (work.agree_run related).2) first second h).2⟩
    rcases h.held? with ⟨hf, hs⟩ | ⟨held, held', hf, hs, related⟩
    · simp only [stages, hf, hs]
    · simp only [stages, hf, hs, (work.agree_run related).1]
  | drain =>
    obtain ⟨same, next⟩ := agree_drain first second h
    exact ⟨by simp only [stages, same, List.map_cons, List.map_nil], next⟩
  | release =>
    refine ⟨rfl, ?_⟩
    simp only [perform, Session.release, h.lockPoisoned]
    split
    · exact h
    · exact ⟨⟨h.core.handle, h.core.events, rfl, h.core.violation⟩, rfl, rfl⟩

/-- Sessions that are alike run through the same stages but for the log. -/
theorem marks_course (steps : List Step) (h : first.Like (· = ·) second) :
    (course steps first).map (·.mark) = (course steps second).map (·.mark) ∧
      (performAll steps first).1.Like (· = ·) (performAll steps second).1 := by
  induction steps generalizing first second with
  | nil => exact ⟨rfl, h⟩
  | cons step rest ih =>
    obtain ⟨marks, next⟩ := step.agree_perform h
    obtain ⟨more, last⟩ := ih next
    exact ⟨by simp only [course, List.map_append, marks, more], last⟩

end Session

end Switchboard
