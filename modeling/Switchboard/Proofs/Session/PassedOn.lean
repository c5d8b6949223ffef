import Switchboard.Proofs.Session.Accomplished
import Switchboard.Proofs.Session.Built
import Switchboard.Proofs.Transfer.Course
/-!
# Chunks that are passed on

A chunk of the caller's goes to the engine if it is not empty, and counts as passed on if the engine
takes it. What the engine takes of a file in a request is what the request passes on
(`accepted_perform`).
-/

namespace Switchboard

open Transfer

namespace Transfer

/-- The chunk of the caller's that the engine is given in this turn, and takes. -/
def Turn.passedOn? : Turn → Option (UInt64 × Bytes)
  | .sent position data => if data = [] then none else some (position, data)
  | _ => none

end Transfer

def Moment.passedOn? (friend : UInt32) (file : FileId) (moment : Moment) :
    Option (UInt64 × Bytes) :=
  (moment.turn friend file).passedOn?

def passedOn (friend : UInt32) (file : FileId) (moments : List Moment) : List (UInt64 × Bytes) :=
  moments.filterMap (·.passedOn? friend file)

section PassedOn

variable {friend : UInt32} {file : FileId}

theorem Moment.passedOn?_eq_some {moment : Moment} {position : UInt64} {data : Bytes} :
    moment.passedOn? friend file = some (position, data) ↔
      moment.turn friend file = .sent position data ∧ data ≠ [] := by
  rw [passedOn?]
  generalize moment.turn friend file = turn
  cases turn with
  | sent other bytes =>
    simp only [Turn.passedOn?, Turn.sent.injEq]
    split
    · rename_i hempty
      refine ⟨fun h => (nomatch h), ?_⟩
      rintro ⟨⟨-, rfl⟩, hdata⟩
      exact absurd hempty hdata
    · rename_i hdata
      rw [Option.some.injEq, Prod.mk.injEq]
      refine ⟨fun h => ⟨h, h.2 ▸ hdata⟩, And.left⟩
  | _ => exact ⟨fun h => (nomatch h), fun h => (nomatch h.1)⟩

private theorem Moment.answered_of_passedOn {moment : Moment} {chunk : UInt64 × Bytes}
    (h : moment.passedOn? friend file = some chunk) :
    ∃ reply, moment = .answered (.fileSendChunk friend file chunk.1 chunk.2) (.ok reply) := by
  obtain ⟨hturn, -⟩ := passedOn?_eq_some.mp h
  have hmeans := means_turn moment friend file
  rwa [hturn] at hmeans

theorem passedOn_append (first second : List Moment) :
    passedOn friend file (first ++ second) =
      passedOn friend file first ++ passedOn friend file second :=
  List.filterMap_append

private theorem passedOn_eq_nil {moments : List Moment}
    (h : ∀ position data reply,
      .answered (.fileSendChunk friend file position data) (.ok reply) ∈ moments → data = []) :
    passedOn friend file moments = [] := by
  refine List.filterMap_eq_nil_iff.mpr fun moment hm => ?_
  cases hp : moment.passedOn? friend file with
  | none => rfl
  | some chunk =>
    obtain ⟨-, hdata⟩ := Moment.passedOn?_eq_some.mp hp
    obtain ⟨reply, rfl⟩ := Moment.answered_of_passedOn hp
    exact absurd (h _ _ reply hm) hdata

/-- Only what the caller is granted passes a chunk on. -/
theorem passedOn_of_not_granted {moments : List Moment}
    (h : ∀ moment ∈ moments, moment.granted = false) : passedOn friend file moments = [] :=
  passedOn_eq_nil fun _ _ _ hm => nomatch h _ hm

/-- Only requests to send a chunk pass one on. -/
theorem passedOn_of_not_chunk {ε : Type} [Engine ε] {engine : ε} {request : Request}
    {outcome : Outcome CallError Reply} (h : request.isChunk = false) :
    passedOn friend file (request.moments engine outcome) = [] := by
  refine passedOn_eq_nil fun position data reply hm => ?_
  obtain ⟨rfl, -⟩ := Request.answered_of_mem hm
  cases h

private theorem passedOn_of_empty {other : UInt32} {id : FileId} {position : UInt64} {data : Bytes}
    (hd : data = []) (outcome : Outcome CallError Reply) :
    passedOn friend file [.answered (.fileSendChunk other id position data) outcome] = [] := by
  refine passedOn_eq_nil fun _ _ _ hm => ?_
  cases List.mem_singleton.mp hm
  exact hd

end PassedOn

/-! ## What the engine took -/

section Accepted

variable {ε : Type} [Engine ε] {friend : UInt32} {index : UInt8}

private theorem accepted_of_call (friend : UInt32) (index : UInt8) {call : Call}
    {asked left : Recorded (Transcribed ε)} {answer : Option call.Answer}
    (h : Engine.perform call asked = (answer, left)) :
    left.engine.accepted friend index = asked.engine.accepted friend index ++
      (Exchange.accepted? friend index ⟨call, answer⟩).toList := by
  have hexchanges : left.engine.exchanges = asked.engine.exchanges ++ [⟨call, answer⟩] := by
    cases h
    rfl
  rw [Transcribed.accepted, hexchanges, List.filterMap_append, List.filterMap_cons]
  cases Exchange.accepted? friend index ⟨call, answer⟩ <;> rfl

private theorem Exchange.accepted?_of_not_data {exchange : Exchange}
    (h : exchange.call.isData = false) : exchange.accepted? friend index = none := by
  obtain ⟨call, answer⟩ := exchange
  cases call with
  | legacyFileData => cases h
  | _ => rfl

/-- A chunk that was taken brought its data to the upload it was for. -/
theorem passedOn_sent {other : UInt32} {slot : UInt8} {position : UInt64} {data : Bytes}
    (hd : data ≠ []) (reply : Reply) :
    (passedOn friend (.unify .send index)
        [.answered (.fileSendChunk other (.unify .send slot) position data) (.ok reply)]).map
      (·.2) =
      (Exchange.accepted? friend index
        ⟨.legacyFileData other slot data, some (.ok ())⟩).toList := by
  have hpassed : (Turn.sent position data).passedOn? = some (position, data) := if_neg hd
  simp only [passedOn, List.filterMap_cons, List.filterMap_nil, Moment.passedOn?, Moment.turn,
    Request.turn, Exchange.accepted?, FileId.unify_inj, true_and]
  by_cases hk : other = friend ∧ slot = index
  · rw [if_pos hk, if_pos hk, hpassed]
    rfl
  · rw [if_neg hk, if_neg hk]
    rfl

namespace HeldSession

variable {held : HeldSession (Recorded (Transcribed ε))} {table : Table}

/-- A request that is not to send a chunk gives the engine no data of any file. -/
theorem accepted_of_not_chunk (now : Timestamp) {request : Request}
    (h : request.isChunk = false) :
    (request.perform now held).state.engine.engine.accepted friend index =
      held.engine.engine.accepted friend index := by
  have built : Built (ε := Recorded (Transcribed ε)) (fun c => c.isData = false) True
      (request.perform now) :=
    built_perform now (fun _ hc => hc.isData h) fun _ => trivial
  refine built.engine_same (fun engine => engine.engine.accepted friend index) ?_ held
  intro c hc engine
  have hcall := accepted_of_call friend index
    (show Engine.perform c engine = (_, (Engine.perform c engine).2) from rfl)
  rwa [Exchange.accepted?_of_not_data hc, Option.toList_none, List.append_nil] at hcall

private theorem accepted_fileSendChunk (now : Timestamp) (ht : held.transfers = some table)
    (other : UInt32) (file : FileId) (position : UInt64) (data : Bytes) :
    let ran := Request.perform now (.fileSendChunk other file position data) held
    ran.state.engine.engine.accepted friend index = held.engine.engine.accepted friend index ++
      (passedOn friend (.unify .send index)
        [.answered (.fileSendChunk other file position data) ran.outcome]).map (·.2) := by
  simp only [Request.perform, fileSendChunk, Run.bind_apply, Run.get_apply, Run.andThen_ok, ht]
  cases hr : table.resolveChunk other file position (UInt64.ofNat data.length) with
  | error reason =>
    rw [passedOn_of_not_granted fun moment hm => by rw [List.mem_singleton.mp hm]; rfl]
    exact (List.append_nil _).symm
  | ok slot =>
    obtain ⟨rfl, -⟩ := Table.resolveChunk_eq_ok.mp hr
    by_cases hd : data = []
    · simp only [if_pos hd, updateTransfers, Run.modify_apply, Run.andThen_ok, Run.pure_apply]
      rw [passedOn_of_empty hd, List.map_nil, List.append_nil]
    · simp only [if_neg hd, Run.bind_apply, call]
      rcases hp : Engine.perform (.legacyFileData other slot data) held.engine with ⟨answer, left⟩
      have htaken := accepted_of_call friend index hp
      cases answer with
      | none => exact htaken
      | some reported =>
        cases reported with
        | ok value => exact htaken.trans (congrArg _ (passedOn_sent hd .done).symm)
        | error code =>
          dsimp only [Run.andThen_ok, accept]
          cases Operation.fileSendChunk.reason? code <;> exact htaken

/-- What the engine takes of a file in a request is what the request passes on. -/
theorem accepted_perform (friend : UInt32) (index : UInt8) (now : Timestamp)
    (request : Request) (ht : held.transfers = some table) :
    let ran := request.perform now held
    ran.state.engine.engine.accepted friend index = held.engine.engine.accepted friend index ++
      (passedOn friend (.unify .send index) (request.moments held.engine ran.outcome)).map
        (·.2) := by
  cases hc : request.isChunk with
  | true =>
    cases request with
    | fileSendChunk other file position data => exact accepted_fileSendChunk now ht _ _ _ _
    | _ => cases hc
  | false =>
    dsimp only
    rw [passedOn_of_not_chunk hc, List.map_nil, List.append_nil]
    exact accepted_of_not_chunk now hc

end HeldSession

end Accepted

end Switchboard
