import Switchboard.Log
/-!
# Runs

An operation on a state ends with a value, with an error, or by a panic. It may have changed the
state before that, and it leaves entries in the log; neither is undone by an error or a panic.
`Run` puts such operations one after the other: the first that does not end with a value is the
last.
-/

namespace Switchboard

/-- How an operation ended. -/
inductive Outcome (ε α : Type) where
  | ok (value : α)
  | error (cause : ε)
  | panic
  deriving DecidableEq, Repr

/-- What an operation leaves behind. -/
structure Ran (σ ε α : Type) where
  outcome : Outcome ε α
  state : σ
  log : List Log.Entry

/-- An operation on a state `σ` that gives an `α` or fails with an `ε`. -/
def Run (σ ε α : Type) : Type := σ → Ran σ ε α

namespace Run

variable {σ τ ε δ α β : Type}

/-- Go on from what an operation left behind, if it ended with a value. -/
def andThen (first : Ran σ ε α) (next : α → Run σ ε β) : Ran σ ε β :=
  match first.outcome with
  | .ok value =>
    let last := next value first.state
    ⟨last.outcome, last.state, first.log ++ last.log⟩
  | .error cause => ⟨.error cause, first.state, first.log⟩
  | .panic => ⟨.panic, first.state, first.log⟩

instance : Monad (Run σ ε) where
  pure value := fun state => ⟨.ok value, state, []⟩
  bind first next := fun state => andThen (first state) next

def get : Run σ ε σ := fun state => ⟨.ok state, state, []⟩

def modify (change : σ → σ) : Run σ ε Unit := fun state => ⟨.ok (), change state, []⟩

def log (level : Log.Level) (message : String) (fields : List (String × Log.Value)) :
    Run σ ε Unit :=
  fun state => ⟨.ok (), state, [⟨level, message, fields⟩]⟩

def fail (cause : ε) : Run σ ε α := fun state => ⟨.error cause, state, []⟩

def panic : Run σ ε α := fun state => ⟨.panic, state, []⟩

def ofExcept : Except ε α → Run σ ε α
  | .ok value => pure value
  | .error cause => fail cause

/-- An operation that may fail, as one that gives its error as a value. A panic stays one. -/
def attempt (run : Run σ ε α) : Run σ δ (Except ε α) := fun state =>
  let ran := run state
  match ran.outcome with
  | .ok value => ⟨.ok (.ok value), ran.state, ran.log⟩
  | .error cause => ⟨.ok (.error cause), ran.state, ran.log⟩
  | .panic => ⟨.panic, ran.state, ran.log⟩

/-- Change the error an operation fails with. -/
def mapError (change : ε → δ) (run : Run σ ε α) : Run σ δ α := fun state =>
  let ran := run state
  match ran.outcome with
  | .ok value => ⟨.ok value, ran.state, ran.log⟩
  | .error cause => ⟨.error (change cause), ran.state, ran.log⟩
  | .panic => ⟨.panic, ran.state, ran.log⟩

/-- An operation on a part of the state. -/
def onPart (part : σ → τ) (replace : τ → σ → σ) (run : Run τ ε α) : Run σ ε α := fun state =>
  let ran := run (part state)
  ⟨ran.outcome, replace ran.state state, ran.log⟩

end Run

end Switchboard
