import Switchboard.Engine
/-!
# Recorded engines

An engine that keeps a list of the calls made to it, to speak of what an engine was asked, and one
that keeps its answers too, to speak of what it took.
-/

namespace Switchboard

structure Recorded (ε : Type) where
  engine : ε
  /-- In the order they were made. -/
  calls : List Call

namespace Recorded

variable {φ ε : Type}

instance [Engine ε] : Engine (Recorded ε) where
  perform call recorded :=
    let (answer, engine) := Engine.perform call recorded.engine
    (answer, ⟨engine, recorded.calls ++ [call]⟩)

instance [Factory φ ε] : Factory φ (Recorded ε) where
  create settings factory :=
    let (made, factory) := Factory.create settings factory
    (made.map fun engine => ⟨engine, []⟩, factory)

/-- Whoever gets such an engine got the engine in it. -/
theorem of_create [Factory φ ε] {settings : EngineSettings} {factory after : φ}
    {made : Recorded ε} (h : Factory.create settings factory = (.ok made, after)) :
    Factory.create settings factory = (.ok made.engine, after) ∧ made = ⟨made.engine, []⟩ := by
  simp only [Factory.create] at h
  rcases hran : Factory.create (ε := ε) settings factory with ⟨ran, left⟩
  rw [hran] at h
  cases ran with
  | error code => cases h
  | ok engine =>
    cases h
    exact ⟨rfl, rfl⟩

end Recorded

/-- A call with its answer. There is none if the call panicked. -/
structure Exchange where
  call : Call
  answer : Option call.Answer

def Reported.code? {α : Type} : Reported α → Option UInt32
  | .ok _ => none
  | .error code => some code

/-- The code an engine answered a call with. -/
def Call.code? : (call : Call) → call.Answer → Option UInt32
  | .bootstrap _ _ _, answer | .udpPort, answer | .setName _, answer
  | .setStatusMessage _, answer | .friendAdd _ _, answer | .friendAddNorequest _, answer
  | .friendDelete _, answer | .friendByPublicKey _, answer | .friendPublicKey _, answer
  | .setTyping _ _, answer | .friendSendMessage _ _ _, answer
  | .friendSendLosslessPacket _ _, answer | .fileSend _ _ _ _, answer
  | .fileControl _ _ _, answer | .fileSendChunk _ _ _ _, answer
  | .legacyFileControl _ _ _ _, answer | .legacyFileData _ _ _, answer
  | .groupSendMessage _ _ _, answer | .groupSetTopic _ _, answer | .groupTopicSize _, answer
  | .groupTopic _ _, answer | .groupLeave _ _, answer => Reported.code? answer
  | _, _ => none

def Exchange.code? (exchange : Exchange) : Option UInt32 :=
  exchange.answer.bind exchange.call.code?

structure Transcribed (ε : Type) where
  engine : ε
  /-- In the order they were made. -/
  exchanges : List Exchange

/-- The data of an upload, if these were sent and the engine took them. -/
def Exchange.accepted? (friend : UInt32) (index : UInt8) : Exchange → Option Bytes
  | ⟨.legacyFileData other slot data, some (.ok _)⟩ =>
    if other = friend ∧ slot = index then some data else none
  | _ => none

def Exchange.isOffer : Exchange → Bool
  | ⟨.fileSend _ _ _ _, some (.ok _)⟩ => true
  | _ => false

theorem Exchange.isOffer_eq_false {c : Call} {answer : Option c.Answer}
    (sending : ∀ friend kind size name, c ≠ .fileSend friend kind size name) :
    Exchange.isOffer ⟨c, answer⟩ = false := by
  cases c with
  | fileSend friend kind size name => exact absurd rfl (sending friend kind size name)
  | _ => rfl

namespace Transcribed

variable {φ ε : Type}

instance [Engine ε] : Engine (Transcribed ε) where
  perform call transcribed :=
    let (answer, engine) := Engine.perform call transcribed.engine
    (answer, ⟨engine, transcribed.exchanges ++ [⟨call, answer⟩]⟩)

instance [Factory φ ε] : Factory φ (Transcribed ε) where
  create settings factory :=
    let (made, factory) := Factory.create settings factory
    (made.map fun engine => ⟨engine, []⟩, factory)

/-- Whoever gets such an engine got the engine in it. -/
theorem of_create [Factory φ ε] {settings : EngineSettings} {factory after : φ}
    {made : Transcribed ε} (h : Factory.create settings factory = (.ok made, after)) :
    Factory.create settings factory = (.ok made.engine, after) ∧ made = ⟨made.engine, []⟩ := by
  simp only [Factory.create] at h
  rcases hran : Factory.create (ε := ε) settings factory with ⟨ran, left⟩
  rw [hran] at h
  cases ran with
  | error code => cases h
  | ok engine =>
    cases h
    exact ⟨rfl, rfl⟩

theorem perform_of_answer [Engine ε] {c : Call} {transcribed : Transcribed ε}
    {answer : Option c.Answer} {after : ε}
    (answered : Engine.perform c transcribed.engine = (answer, after)) :
    Engine.perform c transcribed = (answer, ⟨after, transcribed.exchanges ++ [⟨c, answer⟩]⟩) := by
  have both : Engine.perform c transcribed = ((Engine.perform c transcribed.engine).1,
    ⟨(Engine.perform c transcribed.engine).2,
      transcribed.exchanges ++ [⟨c, (Engine.perform c transcribed.engine).1⟩]⟩) := rfl
  rw [both, answered]

theorem exchanges_of_perform [Engine ε] {c : Call} {transcribed after : Transcribed ε}
    {answer : Option c.Answer} (answered : Engine.perform c transcribed = (answer, after)) :
    after.exchanges = transcribed.exchanges ++ [⟨c, answer⟩] := by
  cases answered
  rfl

/-- The data of an upload that the engine took, one chunk after the other. -/
def accepted (friend : UInt32) (index : UInt8) (transcribed : Transcribed ε) : List Bytes :=
  transcribed.exchanges.filterMap (Exchange.accepted? friend index)

def offers (transcribed : Transcribed ε) : Nat := transcribed.exchanges.countP Exchange.isOffer

end Transcribed

end Switchboard
