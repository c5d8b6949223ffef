import Switchboard.Simulation.SimulatedEngine
/-!
# Simulated engines that are left alone

A simulated engine that was not made to fail, and has nothing scripted, stays so under every call
(`Steady`). It panics at none, and if it refuses one, it does so with a code that is documented for
the operation (`steady_answer`). Only the offer of a file takes a file number (`answer_fileSend`).
-/

namespace Switchboard

/-- If a failure is reported, it is one the operation is documented to fail with. -/
def Documented {α : Type} (operation : Operation) (reported : Reported α) : Prop :=
  ∀ code, reported = .error code → ∃ reason, operation.reason? code = some reason

/-- What is to be expected of the answer to a call. -/
def Call.Sound : (call : Call) → call.Answer → Prop
  | .iterate, fired => fired = ⟨[], false⟩
  | .bootstrap _ _ _, reported => Documented .bootstrap reported
  | .udpPort, reported => Documented .getPort reported
  | .setName _, reported => Documented .setInfo reported
  | .setStatusMessage _, reported => Documented .setInfo reported
  | .status, number => number.toNat < 3
  | .friendAdd _ _, reported => Documented .friendAdd reported
  | .friendAddNorequest _, reported => Documented .friendAdd reported
  | .friendDelete _, reported => Documented .friendDelete reported
  | .friendByPublicKey _, reported => Documented .friendByPublicKey reported
  | .friendPublicKey _, reported => Documented .friendGetPublicKey reported
  | .setTyping _ _, reported => Documented .setTyping reported
  | .friendSendMessage _ _ _, reported => Documented .friendSendMessage reported
  | .friendSendLosslessPacket _ _, reported => Documented .friendCustomPacket reported
  | .fileSend _ _ _ _, reported => Documented .fileSend reported
  | .fileControl _ _ _, reported => Documented .fileControl reported
  | .fileSendChunk _ _ _ _, reported => Documented .fileSendChunk reported
  | .legacyFileControl _ _ _ _, reported => Documented .fileControl reported
  | .legacyFileData _ _ _, reported => Documented .fileSendChunk reported
  | .groupSendMessage _ _ _, reported => Documented .groupSendMessage reported
  | .groupSetTopic _ _, reported => Documented .groupTopicSet reported
  | .groupTopicSize _, reported => Documented .groupStateQueries reported
  | .groupTopic _ _, reported => Documented .groupStateQueries reported
  | .groupLeave _ _, reported => Documented .groupLeave reported
  | _, _ => True

namespace SimulatedEngine

/-- The engine was not made to fail, has nothing to fire, and its status is one there is. -/
structure Steady (engine : SimulatedEngine) : Prop where
  failures : engine.failures = []
  script : engine.script = []
  status : engine.status.toNat < 3

structure Answers {α : Type} (operation : Operation) (engine : SimulatedEngine)
    (answered : Reported α × SimulatedEngine) : Prop where
  documented : Documented operation answered.1
  steady : answered.2.Steady
  nextFile : answered.2.nextFile = engine.nextFile

section Answers

variable {α : Type} {operation : Operation} {engine : SimulatedEngine}

private theorem report_steady (steady : engine.Steady)
    (answer : SimulatedEngine → Reported α × SimulatedEngine) :
    report operation engine answer = (some (answer engine).1, (answer engine).2) := by
  simp only [report, takeFailure, steady.failures, List.find?_nil]

theorem documented_refusal {reason : Reason} (listed : reason ∈ operation.catalogue) :
    Documented (α := α) operation (refusal operation reason) := by
  intro code refused
  cases refused
  exact ⟨reason, operation.reason?_code reason listed⟩

theorem Answers.refused (steady : engine.Steady) {reason : Reason}
    (listed : reason ∈ operation.catalogue := by decide) :
    Answers (α := α) operation engine (refusal operation reason, engine) :=
  ⟨documented_refusal listed, steady, rfl⟩

theorem Answers.took (steady : engine.Steady) (value : α) :
    Answers operation engine (.ok value, engine) := ⟨nofun, steady, rfl⟩

private theorem answers_addFriend (steady : engine.Steady) (key : PublicKey) :
    Answers .friendAdd engine (engine.addFriend key) := by
  simp only [addFriend]
  split
  · exact .refused steady
  · exact ⟨nofun, ⟨steady.failures, steady.script, steady.status⟩, rfl⟩

end Answers

theorem steady_make (number : Nat) (addressing : Addressing) (settings : EngineSettings) :
    (make number addressing settings).Steady := ⟨rfl, rfl, Nat.zero_lt_succ 2⟩

/-- A call that is answered in the way of an operation. -/
theorem exists_report {α : Type} {operation : Operation} {engine : SimulatedEngine}
    (steady : engine.Steady) {answer : SimulatedEngine → Reported α × SimulatedEngine}
    (answers : Answers operation engine (answer engine)) :
    ∃ reported after, report operation engine answer = (some reported, after) ∧
      Documented operation reported ∧ after.Steady ∧ after.nextFile = engine.nextFile :=
  ⟨_, _, report_steady steady answer, answers.documented, answers.steady, answers.nextFile⟩

/-- An engine that is left alone answers every call, and stays as it is. -/
theorem steady_answer {call : Call} {engine : SimulatedEngine} (steady : engine.Steady)
    (sending : ∀ friend kind size name, call ≠ .fileSend friend kind size name)
    (status : ∀ status, call = .setStatus status → status.toNat < 3) :
    ∃ value after, answer call engine = (some value, after) ∧ call.Sound value ∧ after.Steady ∧
      after.nextFile = engine.nextFile := by
  cases call with
  | iterate =>
    refine ⟨⟨[], false⟩, { engine with iterations := engine.iterations + 1, script := [] }, ?_, rfl,
      ⟨steady.failures, rfl, steady.status⟩, rfl⟩
    simp only [answer, steady.script, Fired.ofScript]
  | register _ =>
    exact ⟨(), _, rfl, trivial, ⟨steady.failures, steady.script, steady.status⟩, rfl⟩
  | setStatus number =>
    exact ⟨(), _, rfl, trivial, ⟨steady.failures, steady.script, status number rfl⟩, rfl⟩
  | status => exact ⟨_, _, rfl, steady.status, steady, rfl⟩
  | addressing | iterationInterval | savedataSize | savedata _ | selfNameSize | selfName _ =>
    exact ⟨_, _, rfl, trivial, steady, rfl⟩
  | fileSend friend kind size name => exact absurd rfl (sending friend kind size name)
  | udpPort => exact exists_report steady (.took steady _)
  | legacyFileControl _ _ _ _ | legacyFileData _ _ _ =>
    exact exists_report steady ⟨nofun, ⟨steady.failures, steady.script, steady.status⟩, rfl⟩
  | bootstrap _ _ _ | setName _ | setStatusMessage _ =>
    refine exists_report steady ?_
    split
    · exact .refused steady
    · exact ⟨nofun, ⟨steady.failures, steady.script, steady.status⟩, rfl⟩
  | friendAdd address message =>
    refine exists_report steady ?_
    split
    · exact .refused steady
    split
    · exact .refused steady
    exact answers_addFriend steady _
  | friendAddNorequest key => exact exists_report steady (answers_addFriend steady key)
  | friendByPublicKey _ | friendPublicKey _ | setTyping _ _ | groupTopicSize _ =>
    refine exists_report steady ?_
    split
    · exact .took steady _
    · exact .refused steady
  | friendDelete _ | groupLeave _ _ =>
    refine exists_report steady ?_
    split
    · exact ⟨nofun, ⟨steady.failures, steady.script, steady.status⟩, rfl⟩
    · exact .refused steady
  | fileControl _ _ _ | fileSendChunk _ _ _ _ | groupSetTopic _ _ =>
    refine exists_report steady ?_
    split
    · exact .refused steady
    · exact ⟨nofun, ⟨steady.failures, steady.script, steady.status⟩, rfl⟩
  | friendSendMessage friend type message =>
    refine exists_report steady ?_
    split
    · exact .refused steady
    split
    · exact .refused steady
    split
    · exact .refused steady
    · exact ⟨nofun, ⟨steady.failures, steady.script, steady.status⟩, rfl⟩
  | friendSendLosslessPacket friend data =>
    refine exists_report steady ?_
    split
    · exact .refused steady
    · exact .refused steady
    split
    · exact .refused steady
    split
    · exact .refused steady
    · exact .took steady _
  | groupSendMessage group type message =>
    refine exists_report steady ?_
    split
    · exact .refused steady
    split
    · exact .refused steady
    · exact ⟨nofun, ⟨steady.failures, steady.script, steady.status⟩, rfl⟩
  | groupTopic group room =>
    simp only [answer]
    split
    · exact ⟨_, _, rfl, nofun, steady, rfl⟩
    · exact ⟨_, _, rfl, documented_refusal (by decide), steady, rfl⟩

/-- The offer of a file is refused, or takes the next file number. -/
theorem answer_fileSend {engine : SimulatedEngine} (steady : engine.Steady)
    (friend kind : UInt32) (size : UInt64) (name : Bytes) :
    (∃ reason, reason ∈ Operation.fileSend.catalogue ∧
      answer (.fileSend friend kind size name) engine =
        (some (refusal .fileSend reason), engine)) ∨
    answer (.fileSend friend kind size name) engine =
      (some (.ok engine.nextFile), { engine with nextFile := engine.nextFile + 1 }) := by
  simp only [answer, report_steady steady]
  split
  · exact .inl ⟨.friendNotFound, by decide, rfl⟩
  · split
    · exact .inl ⟨.nameTooLong, by decide, rfl⟩
    · exact .inr rfl

end SimulatedEngine

end Switchboard
