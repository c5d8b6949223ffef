import Switchboard.Proofs.Recorded
import Switchboard.Proofs.Session.Built
/-!
# Failure codes

Every request that can fail has one operation in whose catalogue the codes of its failures are
looked up (`Request.operation?`), however many calls it makes. Whichever of them answers with a
code, the request ends with what the catalogue says of that code (`heeds_perform`).
-/

namespace Switchboard

/-! ## Catalogues -/

namespace Operation

variable {operation : Operation} {code : UInt32} {reason : Reason}

/-- No reason is listed twice. -/
theorem nodup_catalogue (operation : Operation) : operation.catalogue.Nodup := by
  cases operation <;> decide

/-- The codes of a catalogue are 1, 2, 3, ... -/
theorem reason?_eq_some_iff :
    operation.reason? code = some reason ↔
      reason ∈ operation.catalogue ∧ operation.code reason = code := by
  constructor
  · intro h
    unfold reason? at h
    split at h
    · cases h
    · rename_i hzero
      obtain ⟨hlength, hreason⟩ := List.getElem?_eq_some_iff.mp h
      have hpositive : 0 < code.toNat := by
        have hne : code.toNat ≠ 0 := fun e => hzero (UInt32.toNat_inj.mp e)
        omega
      have hmem : reason ∈ operation.catalogue := hreason ▸ List.getElem_mem hlength
      refine ⟨hmem, ?_⟩
      rw [Operation.code, ← hreason, (nodup_catalogue operation).idxOf_getElem,
        Nat.sub_add_cancel hpositive, UInt32.ofNat_toNat]
  · rintro ⟨hmem, rfl⟩
    exact reason?_code operation reason hmem

theorem reason?_eq_none_iff :
    operation.reason? code = none ↔
      ∀ reason ∈ operation.catalogue, operation.code reason ≠ code := by
  constructor
  · intro h reason hmem hcode
    rw [reason?_eq_some_iff.mpr ⟨hmem, hcode⟩] at h
    cases h
  · intro h
    cases hr : operation.reason? code with
    | none => rfl
    | some reason =>
      obtain ⟨hmem, hcode⟩ := reason?_eq_some_iff.mp hr
      exact absurd hcode (h reason hmem)

/-- Code 0 is no failure of any operation. -/
theorem code_ne_zero (hmem : reason ∈ operation.catalogue) : operation.code reason ≠ 0 := by
  have hnone : operation.reason? 0 = none := rfl
  exact reason?_eq_none_iff.mp hnone reason hmem

def classify (operation : Operation) (code : UInt32) : CallError :=
  match operation.reason? code with
  | some reason => .failed ⟨operation, reason⟩
  | none => .bridge (.contract (.unexpectedCode operation.name code))

theorem classify_of_documented (hmem : reason ∈ operation.catalogue) :
    operation.classify (operation.code reason) = .failed ⟨operation, reason⟩ := by
  rw [classify, reason?_code operation reason hmem]

theorem classify_of_undocumented
    (h : ∀ reason ∈ operation.catalogue, operation.code reason ≠ code) :
    operation.classify code = .bridge (.contract (.unexpectedCode operation.name code)) := by
  rw [classify, reason?_eq_none_iff.mpr h]

end Operation

/-- The operation in whose catalogue the failures of a request are looked up. -/
def Request.operation? : Request → Option Operation
  | .bootstrap _ _ _ => some .bootstrap
  | .udpPort => some .getPort
  | .setName _ | .setStatusMessage _ => some .setInfo
  | .friendAdd _ _ | .friendAddNorequest _ => some .friendAdd
  | .friendDelete _ => some .friendDelete
  | .friendByPublicKey _ => some .friendByPublicKey
  | .friendGetPublicKey _ => some .friendGetPublicKey
  | .setTyping _ _ => some .setTyping
  | .friendSendMessage _ _ _ => some .friendSendMessage
  | .friendSendLosslessPacket _ _ => some .friendCustomPacket
  | .fileSend _ _ _ _ => some .fileSend
  | .fileControl _ _ _ => some .fileControl
  | .fileSendChunk _ _ _ _ => some .fileSendChunk
  | .groupSendMessage _ _ _ => some .groupSendMessage
  | .groupSetTopic _ _ => some .groupTopicSet
  | .groupGetTopic _ => some .groupStateQueries
  | .groupLeave _ _ => some .groupLeave
  | .iterate | .invoke _ | .iterationInterval | .save | .getName | .setStatus _ | .getStatus => none

/-! ## Answers with a code -/

namespace HeldSession

variable {ε α β : Type}

/-- Whichever call of the operation is answered with a code, the operation ends with what the
catalogue says of that code. -/
def Heeds (catalogued : Operation) (operation : Held (Transcribed ε) α) : Prop :=
  ∀ held, ∃ exchanges,
    (operation held).state.engine.exchanges = held.engine.exchanges ++ exchanges ∧
      ∀ exchange ∈ exchanges, ∀ code, exchange.code? = some code →
        (operation held).outcome = .error (catalogued.classify code)

variable {catalogued : Operation}

private theorem heeds_of_uncalled {operation : Held (Transcribed ε) α}
    (h : ∀ held, (operation held).state.engine = held.engine) : Heeds catalogued operation :=
  fun held => ⟨[], by rw [h, List.append_nil], fun _ hmem => nomatch hmem⟩

private theorem heeds_pure (value : α) : Heeds (ε := ε) catalogued (pure value) :=
  heeds_of_uncalled fun _ => rfl

private theorem heeds_refuse (operation : Operation) (reason : Reason) :
    Heeds catalogued (refuse operation reason : Held (Transcribed ε) α) :=
  heeds_of_uncalled fun _ => rfl

private theorem heeds_updateTransfers (change : Transfer.Table → Transfer.Table) :
    Heeds catalogued (updateTransfers change : Held (Transcribed ε) Unit) :=
  heeds_of_uncalled fun _ => rfl

/-- A code ends the first part, and so there is no second part with another one. -/
theorem Heeds.bind {first : Held (Transcribed ε) α} {next : α → Held (Transcribed ε) β}
    (hf : Heeds catalogued first) (hn : ∀ value, Heeds catalogued (next value)) :
    Heeds catalogued (first >>= next) := by
  intro held
  obtain ⟨exchanges, hstate, hcode⟩ := hf held
  simp only [Run.bind_apply]
  rcases hran : first held with ⟨outcome, state, entries⟩
  rw [hran] at hstate hcode
  cases outcome with
  | ok value =>
    obtain ⟨more, hmore, hcodes⟩ := hn value state
    refine ⟨exchanges ++ more, ?_, ?_⟩
    · rw [← List.append_assoc, ← hstate]
      exact hmore
    · intro exchange hmem code hc
      rcases List.mem_append.mp hmem with h | h
      · cases hcode exchange h code hc
      · exact hcodes exchange h code hc
  | error cause =>
    refine ⟨exchanges, hstate, ?_⟩
    intro exchange hmem code hc
    cases hcode exchange hmem code hc
    rfl
  | panic =>
    refine ⟨exchanges, hstate, ?_⟩
    intro exchange hmem code hc
    cases hcode exchange hmem code hc

private theorem heeds_checked {P : Prop} [Decidable P] {operation : Operation} {reason : Reason}
    {otherwise : Held (Transcribed ε) α} (h : Heeds catalogued otherwise) :
    Heeds catalogued (if P then refuse operation reason else otherwise) := by
  split
  · exact heeds_refuse _ _
  · exact h

private theorem accept_error (operation : Operation) (code : UInt32) (held : HeldSession ε) :
    (accept operation (.error code : Reported α) held).outcome =
        .error (operation.classify code) ∧
      (accept operation (.error code : Reported α) held).state.engine = held.engine := by
  simp only [accept, Operation.classify]
  cases operation.reason? code with
  | some reason => exact ⟨rfl, rfl⟩
  | none => exact ⟨rfl, rfl⟩

section Requests

variable [Engine ε]

/-- One call, and its answer looked up in the catalogue. -/
theorem heeds_reported {c : Call} {read : c.Answer → Reported α}
    (hread : ∀ answer, c.code? answer = (read answer).code?) :
    Heeds (ε := ε) catalogued (call c >>= fun answer => accept catalogued (read answer)) := by
  intro held
  simp only [Run.bind_apply]
  rcases hran : Engine.perform c held.engine.engine with ⟨answer, after⟩
  have hperform := Transcribed.perform_of_answer hran
  refine ⟨[⟨c, answer⟩], ?_, ?_⟩
  · cases answer with
    | none => simp only [call, hperform, Run.andThen_panic]
    | some answer =>
      simp only [call, hperform, Run.andThen_ok]
      cases read answer with
      | ok value => rfl
      | error code => rw [(accept_error catalogued code _).2]
  · intro exchange hmem code hc
    cases List.mem_singleton.mp hmem
    cases answer with
    | none => cases hc
    | some answer =>
      have hanswer : (read answer).code? = some code := (hread answer).symm.trans hc
      simp only [call, hperform, Run.andThen_ok]
      cases hr : read answer with
      | ok value =>
        rw [hr] at hanswer
        cases hanswer
      | error other =>
        rw [hr] at hanswer
        cases hanswer
        exact (accept_error catalogued code _).1

private theorem heeds_fileSend (friend kind : UInt32) (size : UInt64) (name : Bytes) :
    Heeds (ε := ε) .fileSend (fileSend friend kind size name) := by
  refine .bind (heeds_reported fun _ => rfl) fun number => ?_
  refine .bind (heeds_of_uncalled fun _ => rfl) fun held => ?_
  split
  · exact heeds_pure _
  · split
    · exact heeds_of_uncalled fun _ => rfl
    · exact .bind (heeds_updateTransfers _) fun _ =>
        .bind (heeds_of_uncalled fun _ => rfl) fun _ => heeds_pure _

private theorem heeds_fileControl (friend : UInt32) (file : FileId) (control : FileControl) :
    Heeds (ε := ε) .fileControl (fileControl friend file control) := by
  refine .bind (heeds_of_uncalled fun _ => rfl) fun held => ?_
  split
  · exact heeds_reported fun _ => rfl
  · split
    · exact heeds_refuse _ _
    · exact .bind (heeds_reported fun _ => rfl) fun _ => heeds_updateTransfers _

private theorem heeds_fileSendChunk (friend : UInt32) (file : FileId) (position : UInt64)
    (data : Bytes) : Heeds (ε := ε) .fileSendChunk (fileSendChunk friend file position data) := by
  refine .bind (heeds_of_uncalled fun _ => rfl) fun held => ?_
  split
  · exact heeds_reported fun _ => rfl
  · dsimp only
    split
    · exact heeds_refuse _ _
    · split
      · exact .bind (heeds_pure ()) fun _ => heeds_updateTransfers _
      · exact .bind (heeds_reported fun _ => rfl) fun _ => heeds_updateTransfers _

/-- Every request that can fail heeds the codes of all its calls, by its own catalogue. -/
theorem heeds_perform (now : Timestamp) {request : Request} {operation : Operation}
    (fallible : request.operation? = some operation) :
    Heeds (ε := ε) operation (request.perform now) := by
  cases request with
  | iterate | invoke | iterationInterval | save | getName | setStatus | getStatus => cases fallible
  | bootstrap host port key =>
    cases fallible
    exact .bind (heeds_checked (heeds_checked (heeds_reported fun _ => rfl))) fun _ => heeds_pure _
  | friendAdd address message =>
    cases fallible
    exact .bind (heeds_checked (heeds_reported fun _ => rfl)) fun _ => heeds_pure _
  | friendSendMessage friend type message =>
    cases fallible
    exact .bind (heeds_checked (heeds_reported fun _ => rfl)) fun _ => heeds_pure _
  | friendSendLosslessPacket friend data =>
    cases fallible
    exact .bind (heeds_checked (heeds_reported fun _ => rfl)) fun _ => heeds_pure _
  | groupSendMessage group type message =>
    cases fallible
    exact .bind (heeds_checked (heeds_reported fun _ => rfl)) fun _ => heeds_pure _
  | groupGetTopic group =>
    cases fallible
    exact .bind (.bind (heeds_reported fun _ => rfl) fun _ => heeds_reported fun _ => rfl)
      fun _ => heeds_pure _
  | fileSend friend kind size name =>
    cases fallible
    exact .bind (heeds_fileSend friend kind size name) fun _ => heeds_pure _
  | fileControl friend file control =>
    cases fallible
    exact .bind (heeds_fileControl friend file control) fun _ => heeds_pure _
  | fileSendChunk friend file position data =>
    cases fallible
    exact .bind (heeds_fileSendChunk friend file position data) fun _ => heeds_pure _
  | _ =>
    cases fallible
    exact .bind (heeds_reported fun _ => rfl) fun _ => heeds_pure _

end Requests

end HeldSession

end Switchboard
