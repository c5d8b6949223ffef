import Switchboard.Simulation.SimulatedEngine
/-!
# What a simulated engine holds

A simulated engine holds a saved state, a name, friends and groups. What becomes of them is settled
by the calls that were made and how they were answered (`holdings_answer`): a call that is refused,
for whatever reason, changes none of them, and only five kinds of calls ever do. Friends and groups
are also added from outside (`Tweak`).
-/

namespace Switchboard

def value? {α : Type} : Option (Reported α) → Option α
  | some (.ok value) => some value
  | _ => none

theorem value?_some_eq_some_iff {α : Type} {reported : Reported α} {value : α} :
    value? (some reported) = some value ↔ reported = .ok value := by
  cases reported <;> simp [value?]

/-- What an engine holds for its user. -/
structure Holdings where
  savedata : Bytes
  name : Bytes
  friends : Keyed UInt32 PublicKey
  nextFriend : UInt32
  groups : Keyed UInt32 Bytes
  nextGroup : UInt32
  deriving DecidableEq, Repr

namespace Holdings

def befriend (friend : UInt32) (key : PublicKey) (holdings : Holdings) : Holdings :=
  { holdings with friends := Keyed.put friend key holdings.friends, nextFriend := friend + 1 }

def openGroup (topic : Bytes) (holdings : Holdings) : Holdings :=
  { holdings with
    groups := Keyed.put holdings.nextGroup topic holdings.groups
    nextGroup := holdings.nextGroup + 1 }

section Reported

variable {α : Type}

/-- What a report makes of them, if it is not one of a failure. -/
def reported (change : α → Holdings → Holdings) :
    Option (Reported α) → Holdings → Holdings
  | some (.ok value), holdings => change value holdings
  | _, holdings => holdings

/-- Where only a value changes what is held, a failure leaves it. -/
theorem reported_of_no_value {answer : Option (Reported α)} (h : value? answer = none)
    (change : α → Holdings → Holdings) (holdings : Holdings) :
    reported change answer holdings = holdings := by
  unfold reported
  split
  · cases h
  · rfl

theorem reported_of_value {answer : Option (Reported α)} {value : α}
    (h : value? answer = some value) (change : α → Holdings → Holdings) (holdings : Holdings) :
    reported change answer holdings = change value holdings := by
  unfold value? at h
  split at h
  · cases h; rfl
  · cases h

end Reported

/-- What is held after a call that was answered so. -/
def answered : (call : Call) → Option call.Answer → Holdings → Holdings
  | .setName name, answer => reported (fun _ holdings => { holdings with name := name }) answer
  | .friendAdd address _, answer =>
    reported (fun friend => befriend friend (Address.publicKey address)) answer
  | .friendAddNorequest key, answer => reported (fun friend => befriend friend key) answer
  | .friendDelete friend, answer =>
    reported (fun _ holdings => { holdings with friends := Keyed.erase friend holdings.friends })
      answer
  | .groupSetTopic group topic, answer =>
    reported (fun _ holdings => { holdings with groups := Keyed.put group topic holdings.groups })
      answer
  | .groupLeave group _, answer =>
    reported (fun _ holdings => { holdings with groups := Keyed.erase group holdings.groups })
      answer
  | _, _ => id

end Holdings

namespace SimulatedEngine

def holdings (engine : SimulatedEngine) : Holdings where
  savedata := engine.savedata
  name := engine.name
  friends := engine.friends
  nextFriend := engine.nextFriend
  groups := engine.groups
  nextGroup := engine.nextGroup

/-! ## Failures to come -/

/-- No failure waits for the operation. -/
def Unhindered (operation : Operation) (engine : SimulatedEngine) : Prop :=
  engine.failures.find? (·.1 = operation) = none

instance (operation : Operation) (engine : SimulatedEngine) :
    Decidable (engine.Unhindered operation) := inferInstanceAs (Decidable (_ = _))

section Report

variable {α : Type} {operation : Operation} {engine : SimulatedEngine}

theorem report_of_unhindered (free : engine.Unhindered operation)
    (answer : SimulatedEngine → Reported α × SimulatedEngine) :
    report operation engine answer = (some (answer engine).1, (answer engine).2) := by
  rw [Unhindered] at free
  simp only [report, takeFailure, free]

/-- The engine answers, or a failure that waits is reported and the engine is not asked. -/
theorem report_cases (operation : Operation) (engine : SimulatedEngine)
    (answer : SimulatedEngine → Reported α × SimulatedEngine) :
    report operation engine answer = (some (answer engine).1, (answer engine).2) ∨
      ∃ code, report operation engine answer =
        (some (.error code),
          { engine with failures := engine.failures.filter (·.1 ≠ operation) }) := by
  by_cases free : engine.Unhindered operation
  · exact .inl (report_of_unhindered free answer)
  · obtain ⟨failure, found⟩ := Option.ne_none_iff_exists'.mp free
    exact .inr ⟨failure.2, by simp only [report, takeFailure, found]⟩

/-- If what an engine holds changes only with an answer, so it does where failures are reported. -/
theorem holdings_report {change : α → Holdings → Holdings}
    {answer : SimulatedEngine → Reported α × SimulatedEngine}
    (h : (answer engine).2.holdings =
      Holdings.reported change (some (answer engine).1) engine.holdings) :
    (report operation engine answer).2.holdings =
      Holdings.reported change (report operation engine answer).1 engine.holdings := by
  rcases report_cases operation engine answer with answered | ⟨code, failed⟩
  · rw [answered]
    exact h
  · rw [failed]
    rfl

/-- Nothing changes whatever is reported. -/
theorem holdings_report_same {answer : SimulatedEngine → Reported α × SimulatedEngine}
    (h : (answer engine).2.holdings = engine.holdings) :
    (report operation engine answer).2.holdings = engine.holdings := by
  rcases report_cases operation engine answer with answered | ⟨code, failed⟩
  · rw [answered]
    exact h
  · rw [failed]
    rfl

end Report

theorem holdings_addFriend (key : PublicKey) (engine : SimulatedEngine) :
    (engine.addFriend key).2.holdings =
      Holdings.reported (fun friend => Holdings.befriend friend key)
        (some (engine.addFriend key).1) engine.holdings := by
  rw [addFriend]
  split <;> rfl

/-- What an engine holds after a call is settled by the answer. -/
theorem holdings_answer (call : Call) (engine : SimulatedEngine) :
    (answer call engine).2.holdings =
      Holdings.answered call (answer call engine).1 engine.holdings := by
  cases call with
  | addressing | register _ | iterate | iterationInterval | savedataSize | savedata _
  | selfNameSize | selfName _ | setStatus _ | status => rfl
  | udpPort | legacyFileControl _ _ _ _ | legacyFileData _ _ _ =>
    exact holdings_report_same rfl
  | bootstrap _ _ _ | setStatusMessage _ | friendByPublicKey _ | friendPublicKey _ | setTyping _ _
  | fileControl _ _ _ | fileSendChunk _ _ _ _ | groupTopicSize _ =>
    refine holdings_report_same ?_
    split <;> rfl
  | setName _ | friendDelete _ | groupSetTopic _ _ | groupLeave _ _ =>
    refine holdings_report ?_
    split <;> rfl
  | friendAdd address message =>
    refine holdings_report ?_
    split
    · rfl
    split
    · rfl
    exact holdings_addFriend _ engine
  | friendAddNorequest key => exact holdings_report (holdings_addFriend key engine)
  | friendSendMessage _ _ _ =>
    refine holdings_report_same ?_
    split
    · rfl
    split
    · rfl
    split <;> rfl
  | friendSendLosslessPacket _ _ =>
    refine holdings_report_same ?_
    split
    · rfl
    · rfl
    split
    · rfl
    split <;> rfl
  | fileSend _ _ _ _ | groupSendMessage _ _ _ =>
    refine holdings_report_same ?_
    split
    · rfl
    split <;> rfl
  | groupTopic _ _ =>
    simp only [answer]
    split <;> rfl

/-! ## From outside -/

/-- What may be done to an engine from outside. -/
inductive Tweak where
  | script (signal : Signal)
  | failNext (operation : Operation) (code : UInt32)
  | addFriend (key : PublicKey)
  | addGroup (topic : Bytes)
  | setStatus (status : UInt32)

def Tweak.apply : Tweak → SimulatedEngine → SimulatedEngine
  | .script signal, engine => engine.notify signal
  | .failNext operation code, engine => engine.failNext operation code
  | .addFriend key, engine => (engine.addFriend key).2
  | .addGroup topic, engine => (engine.addGroup topic).2
  | .setStatus status, engine => { engine with status := status }

/-- What is held after a change from outside. -/
theorem holdings_apply (tweak : Tweak) (engine : SimulatedEngine) :
    (tweak.apply engine).holdings =
      match tweak with
      | .addFriend key =>
        Holdings.reported (fun friend => Holdings.befriend friend key)
          (some (engine.addFriend key).1) engine.holdings
      | .addGroup topic => engine.holdings.openGroup topic
      | _ => engine.holdings := by
  cases tweak with
  | addFriend key => exact holdings_addFriend key engine
  | _ => rfl

end SimulatedEngine

end Switchboard
