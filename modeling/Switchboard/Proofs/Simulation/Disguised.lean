import Switchboard.Proofs.Recorded
import Switchboard.Simulation.SimulatedEngine
/-!
# What a simulated engine does not look at

A simulated engine looks at its way of numbering files only when it is asked for it, and at its
script and its count of passes only when it is iterated. No other call is answered differently if
they are (`answer_disguised`), and so no other call changes them (`kept_answer`).
-/

namespace Switchboard

namespace SimulatedEngine

/-- The engine with another way of numbering files, another count of passes and another script. -/
def disguised (label : Addressing) (passes : Nat) (script : List Signal)
    (engine : SimulatedEngine) : SimulatedEngine :=
  { engine with addressing := label, iterations := passes, script := script }

section Disguised

variable {label : Addressing} {passes : Nat} {script : List Signal}

private theorem report_disguised {α : Type} (operation : Operation) (engine : SimulatedEngine)
    {answer : SimulatedEngine → Reported α × SimulatedEngine}
    (h : ∀ engine : SimulatedEngine, answer (engine.disguised label passes script) =
      ((answer engine).1, (answer engine).2.disguised label passes script)) :
    report operation (engine.disguised label passes script) answer =
      ((report operation engine answer).1,
        (report operation engine answer).2.disguised label passes script) := by
  have taken : (engine.disguised label passes script).takeFailure operation =
      ((engine.takeFailure operation).1,
        (engine.takeFailure operation).2.disguised label passes script) := by
    simp only [takeFailure]
    cases hfind : engine.failures.find? (·.1 = operation) with
    | none => simp only [disguised, hfind]
    | some failure => simp only [disguised, hfind]
  simp only [report, taken]
  rcases engine.takeFailure operation with ⟨_ | code, left⟩
  · simp only [h]
  · rfl

@[simp] theorem friends_disguised (engine : SimulatedEngine) :
    (engine.disguised label passes script).friends = engine.friends := rfl

@[simp] theorem groups_disguised (engine : SimulatedEngine) :
    (engine.disguised label passes script).groups = engine.groups := rfl

/-- A friend is added whatever the engine is called. -/
theorem addFriend_disguised (key : PublicKey) (engine : SimulatedEngine) :
    (engine.disguised label passes script).addFriend key =
      ((engine.addFriend key).1, (engine.addFriend key).2.disguised label passes script) := by
  by_cases known : engine.friends.any (·.2 = key) = true
  · have known' : (engine.disguised label passes script).friends.any (·.2 = key) = true := known
    rw [addFriend, addFriend, if_pos known, if_pos known']
  · have known' : ¬(engine.disguised label passes script).friends.any (·.2 = key) = true := known
    rw [addFriend, addFriend, if_neg known, if_neg known']
    rfl

/-- Calls other than these two are answered as they would be by the engine in disguise. -/
theorem answer_disguised (call : Call) (asked : call ≠ .addressing) (fired : call ≠ .iterate)
    (engine : SimulatedEngine) :
    answer call (engine.disguised label passes script) =
      ((answer call engine).1, (answer call engine).2.disguised label passes script) := by
  cases call with
  | addressing => exact absurd rfl asked
  | iterate => exact absurd rfl fired
  | register _ | iterationInterval | savedataSize | savedata _ | selfNameSize | selfName _
  | setStatus _ | status => rfl
  | udpPort | legacyFileControl _ _ _ _ | legacyFileData _ _ _ =>
    exact report_disguised _ _ fun engine => rfl
  | bootstrap _ _ _ | setName _ | setStatusMessage _ =>
    exact report_disguised _ _ fun engine => by split <;> rfl
  | friendAdd address message =>
    refine report_disguised _ _ fun engine => ?_
    split
    · rfl
    split
    · rfl
    exact addFriend_disguised _ engine
  | friendAddNorequest key => exact report_disguised _ _ (addFriend_disguised key)
  | friendByPublicKey key =>
    refine report_disguised _ _ fun engine => ?_
    simp only [friendWithKey?, friends_disguised]
    split <;> rfl
  | friendDelete _ | friendPublicKey _ | setTyping _ _ | fileControl _ _ _
  | fileSendChunk _ _ _ _ =>
    refine report_disguised _ _ fun engine => ?_
    simp only [friends_disguised]
    split <;> rfl
  | fileSend friend kind size name =>
    refine report_disguised _ _ fun engine => ?_
    simp only [friends_disguised]
    split
    · rfl
    split <;> rfl
  | friendSendMessage friend type message =>
    refine report_disguised _ _ fun engine => ?_
    simp only [friends_disguised]
    split
    · rfl
    split
    · rfl
    split <;> rfl
  | friendSendLosslessPacket friend data =>
    refine report_disguised _ _ fun engine => ?_
    simp only [friends_disguised]
    split
    · rfl
    · rfl
    split
    · rfl
    split <;> rfl
  | groupSendMessage group type message =>
    refine report_disguised _ _ fun engine => ?_
    simp only [groups_disguised]
    split
    · rfl
    split <;> rfl
  | groupSetTopic _ _ | groupTopicSize _ | groupLeave _ _ =>
    refine report_disguised _ _ fun engine => ?_
    simp only [groups_disguised]
    split <;> rfl
  | groupTopic group room =>
    simp only [answer, groups_disguised]
    split <;> rfl

/-- Only a pass changes what the engine fires, how many passes it counts or how it numbers files. -/
theorem kept_answer {call : Call} (fired : call ≠ .iterate) (engine : SimulatedEngine) :
    (answer call engine).2.addressing = engine.addressing ∧
      (answer call engine).2.iterations = engine.iterations ∧
      (answer call engine).2.script = engine.script := by
  by_cases asked : call = .addressing
  · subst asked
    exact ⟨rfl, rfl, rfl⟩
  · have left : answer call engine = ((answer call engine).1, (answer call engine).2.disguised
        engine.addressing engine.iterations engine.script) :=
      answer_disguised call asked fired engine
    have kept := congrArg Prod.snd left
    rw [kept]
    exact ⟨rfl, rfl, rfl⟩

end Disguised

end SimulatedEngine

end Switchboard
