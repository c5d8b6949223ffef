import Switchboard.Proofs.Recorded
import Switchboard.Proofs.Session.Built
/-!
# Refusals

What a request is refused for without the engine (`Refused`): nothing is called then, and the
session stays as it is (`perform_of_refused`). Every other request that fails has called the engine
(`uncalled_iff_refused`).
-/

namespace Switchboard

/-- What the bridge refuses on its own account, with the reason it gives. -/
inductive Request.Refused (transfers : Option Transfer.Table) : Request → Operation → Reason → Prop
  | noHost {port : UInt32} {key : PublicKey} :
    Refused transfers (.bootstrap "" port key) .bootstrap .bootstrapHost
  | noPort {host : String} {port : UInt32} {key : PublicKey} :
    host ≠ "" → port = 0 ∨ 65536 ≤ port.toNat →
    Refused transfers (.bootstrap host port key) .bootstrap .bootstrapPort
  | noGreeting {address : Address} :
    Refused transfers (.friendAdd address []) .friendAdd .noMessage
  | noFriendMessage {friend : UInt32} {type : MessageType} :
    Refused transfers (.friendSendMessage friend type []) .friendSendMessage .messageEmpty
  | noPacket {friend : UInt32} :
    Refused transfers (.friendSendLosslessPacket friend []) .friendCustomPacket .packetEmpty
  | noGroupMessage {group : UInt32} {type : MessageType} :
    Refused transfers (.groupSendMessage group type []) .groupSendMessage .messageEmpty
  /-- The identifier is none of the eight-bit protocol, or no transfer is live under it. -/
  | controlUnknown {table : Transfer.Table} {friend : UInt32} {file : FileId}
    {control : FileControl} : transfers = some table →
    file.split = none ∨ table.get? friend file = none →
    Refused transfers (.fileControl friend file control) .fileControl .transferNotFound
  /-- The identifier is none of a file that is sent, or no transfer is live under it. -/
  | chunkUnknown {table : Transfer.Table} {friend : UInt32} {file : FileId} {position : UInt64}
    {data : Bytes} : transfers = some table →
    (∀ index, file.split ≠ some (.send, index)) ∨ table.get? friend file = none →
    Refused transfers (.fileSendChunk friend file position data) .fileSendChunk .transferNotFound
  | chunkNotRunning {table : Transfer.Table} {friend : UInt32} {file : FileId} {index : UInt8}
    {live : Transfer} {position : UInt64} {data : Bytes} : transfers = some table →
    file.split = some (.send, index) → table.get? friend file = some live →
    live.progress ≠ .running →
    Refused transfers (.fileSendChunk friend file position data) .fileSendChunk .transferNotRunning
  | chunkElsewhere {table : Transfer.Table} {friend : UInt32} {file : FileId} {index : UInt8}
    {live : Transfer} {position : UInt64} {data : Bytes} : transfers = some table →
    file.split = some (.send, index) → table.get? friend file = some live →
    live.progress = .running → position ≠ live.position →
    Refused transfers (.fileSendChunk friend file position data) .fileSendChunk .chunkPosition
  | chunkTooLong {table : Transfer.Table} {friend : UInt32} {file : FileId} {index : UInt8}
    {live : Transfer} {position : UInt64} {data : Bytes} : transfers = some table →
    file.split = some (.send, index) → table.get? friend file = some live →
    live.progress = .running → position = live.position →
    Transfer.maxChunk < UInt64.ofNat data.length ∨
      live.size < position + UInt64.ofNat data.length →
    Refused transfers (.fileSendChunk friend file position data) .fileSendChunk .chunkLength

namespace Request

variable {transfers : Option Transfer.Table} {table : Transfer.Table} {friend : UInt32}
  {file : FileId} {reason : Reason}

theorem refused_of_resolveControl (ht : transfers = some table) {control : FileControl}
    (hr : table.resolveControl friend file control = .error reason) :
    Refused transfers (.fileControl friend file control) .fileControl reason := by
  unfold Transfer.Table.resolveControl at hr
  split at hr
  · cases hr
  · rename_i hunknown
    cases hr
    refine .controlUnknown ht ?_
    cases hs : file.split with
    | none => exact .inl rfl
    | some found =>
      cases hl : table.get? friend file with
      | none => exact .inr rfl
      | some live => exact absurd hl (hunknown found.1 found.2 live hs)

theorem refused_of_resolveChunk (ht : transfers = some table) {position : UInt64} {data : Bytes}
    (hr : table.resolveChunk friend file position (UInt64.ofNat data.length) = .error reason) :
    Refused transfers (.fileSendChunk friend file position data) .fileSendChunk reason := by
  unfold Transfer.Table.resolveChunk at hr
  split at hr
  · rename_i index hs
    split at hr
    · rename_i hl
      cases hr
      exact .chunkUnknown ht (.inr hl)
    rename_i live hl
    split at hr
    · rename_i hprogress
      cases hr
      exact .chunkNotRunning ht hs hl hprogress
    rename_i hprogress
    have hrunning : live.progress = .running := Decidable.not_not.mp hprogress
    split at hr
    · rename_i hposition
      cases hr
      exact .chunkElsewhere ht hs hl hrunning hposition
    rename_i hposition
    split at hr
    · rename_i hlength
      cases hr
      exact .chunkTooLong ht hs hl hrunning (Decidable.not_not.mp hposition) hlength
    · cases hr
  · rename_i hunknown
    cases hr
    exact .chunkUnknown ht (.inl hunknown)

end Request

namespace HeldSession

variable {ε α β : Type} [Engine ε]

/-- The engine is not called, and the session stays as it is. -/
theorem perform_of_refused (now : Timestamp) {request : Request} {operation : Operation}
    {reason : Reason} {held : HeldSession ε}
    (refused : request.Refused held.transfers operation reason) :
    request.perform now held = ⟨.error (.failed ⟨operation, reason⟩), held, []⟩ := by
  cases refused with
  | noHost => rfl
  | noPort hhost hport =>
    simp [Request.perform, bootstrap, hhost, hport, refuse]
  | noGreeting => rfl
  | noFriendMessage => rfl
  | noPacket => rfl
  | noGroupMessage => rfl
  | @controlUnknown table friend file control ht hunknown =>
    have hresolve : table.resolveControl friend file control = .error .transferNotFound := by
      unfold Transfer.Table.resolveControl
      rcases hunknown with h | h
      · simp [h]
      · simp [h]
    simp [Request.perform, fileControl, ht, hresolve, refuse]
  | @chunkUnknown table friend file position data ht hunknown =>
    have hresolve : table.resolveChunk friend file position (UInt64.ofNat data.length) =
        .error .transferNotFound := by
      unfold Transfer.Table.resolveChunk
      split
      · rename_i index hs
        rcases hunknown with h | h
        · exact absurd hs (h index)
        · simp [h]
      · rfl
    simp [Request.perform, fileSendChunk, ht, hresolve, refuse]
  | chunkNotRunning ht hs hl hprogress =>
    simp [Request.perform, fileSendChunk, ht, Transfer.Table.resolveChunk, hs, hl, hprogress,
      refuse]
  | chunkElsewhere ht hs hl hprogress hposition =>
    simp [Request.perform, fileSendChunk, ht, Transfer.Table.resolveChunk, hs, hl, hprogress,
      hposition, refuse]
  | chunkTooLong ht hs hl hprogress hposition hlength =>
    rw [hposition] at hlength
    simp [Request.perform, fileSendChunk, ht, Transfer.Table.resolveChunk, hs, hl, hprogress,
      hposition, hlength, refuse]

/-! ## Failures after a call -/

def Calls (operation : Held (Recorded ε) α) : Prop :=
  ∀ held, held.engine.calls.length < (operation held).state.engine.calls.length

private theorem length_calls_call (c : Call) (held : HeldSession (Recorded ε)) :
    (call c held).state.engine.calls.length = held.engine.calls.length + 1 := by
  have hcalls : (Engine.perform c held.engine).2.calls = held.engine.calls ++ [c] := rfl
  simp only [call]
  split
  · rename_i he
    rw [he] at hcalls
    rw [hcalls, List.length_append, List.length_singleton]
  · rename_i he
    rw [he] at hcalls
    rw [hcalls, List.length_append, List.length_singleton]

private theorem Built.calls_le {may : Call → Prop} {warns : Prop} {operation : Held (Recorded ε) α}
    (built : Built may warns operation) (held : HeldSession (Recorded ε)) :
    held.engine.calls.length ≤ (operation held).state.engine.calls.length := by
  induction built generalizing held with
  | @bind _ _ first next _ _ hf hn =>
    have hfirst := hf held
    simp only [Run.bind_apply, Run.andThen]
    split
    · exact Nat.le_trans hfirst (hn _ _)
    · exact hfirst
    · exact hfirst
  | call _ => exact Nat.le_of_lt (by rw [length_calls_call]; exact Nat.lt_succ_self _)
  | receive now notification =>
    simp only [HeldSession.receive]
    split <;> exact Nat.le_refl _
  | requestChunks now =>
    simp only [HeldSession.requestChunks, Run.modify_apply]
    split <;> exact Nat.le_refl _
  | warnOfBacklog _ =>
    simp only [HeldSession.warnOfBacklog]
    split <;> exact Nat.le_refl _
  | _ => exact Nat.le_refl _

theorem Calls.bind {first : Held (Recorded ε) α} {next : α → Held (Recorded ε) β}
    (hf : Calls first) (hn : ∀ value, Built (fun _ => True) True (next value)) :
    Calls (first >>= next) := by
  intro held
  have hfirst := hf held
  simp only [Run.bind_apply, Run.andThen]
  split
  · exact Nat.lt_of_lt_of_le hfirst ((hn _).calls_le _)
  · exact hfirst
  · exact hfirst

/-- Whatever follows the call of the engine. -/
theorem calls_ask (c : Call) {next : c.Answer → Held (Recorded ε) α}
    (hn : ∀ answer, Built (fun _ => True) True (next answer)) : Calls (call c >>= next) := by
  refine Calls.bind (fun held => ?_) hn
  rw [length_calls_call]
  exact Nat.lt_succ_self _

private theorem calls_reported (c : Call) {operation : Operation} {read : c.Answer → Reported α} :
    Calls (ε := ε) (call c >>= fun answer => accept operation (read answer)) :=
  calls_ask c fun _ => (asks_accept operation _).built

/-! ## Failures without a call -/

section FailsAs

omit [Engine ε]

variable {request : Request} {operation : Held (Recorded ε) α}

theorem Calls.elim (calls : Calls operation) {held : HeldSession (Recorded ε)}
    {ran : Ran (HeldSession (Recorded ε)) CallError α}
    (same : ran = operation held) (uncalled : ran.state.engine.calls = held.engine.calls) :
    False := by
  have more := calls held
  rw [← same, uncalled] at more
  exact Nat.lt_irrefl _ more

/-- Without a call, the operation fails only as the request may be refused. -/
def FailsAs (request : Request) (operation : Held (Recorded ε) α) : Prop :=
  ∀ held failure, (operation held).outcome = .error (.failed failure) →
    (operation held).state.engine.calls = held.engine.calls →
    request.Refused held.transfers failure.operation failure.reason

private theorem failsAs_of_calls (calls : Calls operation) : FailsAs request operation :=
  fun _ _ _ uncalled => (calls.elim rfl uncalled).elim

private theorem failsAs_checked {P : Prop} [Decidable P] {catalogued : Operation} {reason : Reason}
    (refused : P → ∀ transfers, request.Refused transfers catalogued reason)
    (otherwise : ¬P → FailsAs request operation) :
    FailsAs request (if P then refuse catalogued reason else operation) := by
  intro held failure failed uncalled
  by_cases h : P
  · rw [if_pos h] at failed
    cases failed
    exact refused h held.transfers
  · rw [if_neg h] at failed uncalled
    exact otherwise h held failure failed uncalled

theorem FailsAs.andReturn (fails : FailsAs request operation) (answer : α → β) :
    FailsAs request (do let value ← operation; return answer value) := by
  intro held failure failed uncalled
  rw [Run.bind_apply] at failed uncalled
  rw [Run.state_andThen_pure] at uncalled
  exact fails held failure (Run.error_of_andThen_pure failed) uncalled

end FailsAs

private theorem failsAs_bootstrap (host : String) (port : UInt32) (key : PublicKey) :
    FailsAs (ε := ε) (.bootstrap host port key) (bootstrap host port key) :=
  failsAs_checked (fun none _ => none ▸ .noHost) fun hhost =>
    failsAs_checked (fun hport _ => .noPort hhost hport) fun _ =>
      failsAs_of_calls (calls_reported _)

private theorem failsAs_fileControl (friend : UInt32) (file : FileId) (control : FileControl) :
    FailsAs (ε := ε) (.fileControl friend file control) (fileControl friend file control) := by
  intro held failure failed uncalled
  cases ht : held.transfers with
  | none =>
    have asked : fileControl friend file control held =
        (call (.fileControl friend file.raw (Enumerated.number control)) >>=
          accept .fileControl) held := by
      simp [fileControl, ht]
    exact ((calls_reported _).elim asked uncalled).elim
  | some table =>
    cases hr : table.resolveControl friend file control with
    | error reason =>
      have refused : fileControl friend file control held =
          refuse .fileControl reason held := by
        simp [fileControl, ht, hr]
      rw [refused] at failed
      cases failed
      exact Request.refused_of_resolveControl rfl hr
    | ok told =>
      have asked : fileControl friend file control held =
          ((call (.legacyFileControl told.friend told.side told.index told.control) >>=
            accept .fileControl) >>= fun _ =>
              updateTransfers (·.commitControl friend file control)) held := by
        simp [fileControl, ht, hr]
      exact ((Calls.bind (calls_reported _) fun _ => .updateTransfers _).elim asked uncalled).elim

private theorem failsAs_fileSendChunk (friend : UInt32) (file : FileId) (position : UInt64)
    (data : Bytes) :
    FailsAs (ε := ε) (.fileSendChunk friend file position data)
      (fileSendChunk friend file position data) := by
  intro held failure failed uncalled
  cases ht : held.transfers with
  | none =>
    have asked : fileSendChunk friend file position data held =
        (call (.fileSendChunk friend file.raw position data) >>=
          accept .fileSendChunk) held := by
      simp [fileSendChunk, ht]
    exact ((calls_reported _).elim asked uncalled).elim
  | some table =>
    cases hr : table.resolveChunk friend file position (UInt64.ofNat data.length) with
    | error reason =>
      have refused : fileSendChunk friend file position data held =
          refuse .fileSendChunk reason held := by
        simp [fileSendChunk, ht, hr]
      rw [refused] at failed
      cases failed
      exact Request.refused_of_resolveChunk rfl hr
    | ok index =>
      by_cases hdata : data = []
      · subst hdata
        simp only [fileSendChunk, Run.bind_apply, Run.get_apply, Run.andThen_ok, ht, hr] at failed
        cases failed
      · have asked : fileSendChunk friend file position data held =
            ((call (.legacyFileData friend index data) >>= accept .fileSendChunk) >>= fun _ =>
              updateTransfers (·.commitChunk friend file (UInt64.ofNat data.length))) held := by
          simp [fileSendChunk, ht, hr, hdata]
        exact ((Calls.bind (calls_reported _) fun _ => .updateTransfers _).elim asked
          uncalled).elim

private theorem calls_getStatus : Calls (ε := ε) getStatus := by
  refine calls_ask _ fun number => ?_
  cases Notification.fromTable (α := UserStatus) "user_status" number with
  | ok status => exact .pure status
  | error violation => exact .poison violation

private theorem calls_fileSend (friend kind : UInt32) (size : UInt64) (name : Bytes) :
    Calls (ε := ε) (fileSend friend kind size name) := by
  refine .bind (calls_reported _) fun number => .bind .get fun held => ?_
  split
  · exact .pure _
  · split
    · exact .poison _
    · exact .bind (.updateTransfers _) fun _ => .bind (.log _ _ (by decide)) fun _ => .pure _

/-- What a request fails with without a call is such a refusal. -/
theorem failsAs_perform (now : Timestamp) {request : Request} (hi : request ≠ .iterate)
    (hd : ∀ fired, request ≠ .invoke fired) :
    FailsAs (ε := ε) request (request.perform now) := by
  have empty {α : Type} {asked : Request} {message : Bytes} {catalogued : Operation}
      {reason : Reason} {operation : Held (Recorded ε) α}
      (refused : message = [] → ∀ transfers, asked.Refused transfers catalogued reason)
      (calls : Calls operation) :
      FailsAs asked (if message = [] then refuse catalogued reason else operation) :=
    failsAs_checked refused fun _ => failsAs_of_calls calls
  cases request with
  | iterate => exact absurd rfl hi
  | invoke fired => exact absurd rfl (hd fired)
  | bootstrap host port key => exact (failsAs_bootstrap host port key).andReturn _
  | friendAdd address message =>
    exact (empty (fun none _ => none ▸ .noGreeting) (calls_reported _)).andReturn _
  | friendSendMessage friend type message =>
    exact (empty (fun none _ => none ▸ .noFriendMessage) (calls_reported _)).andReturn _
  | friendSendLosslessPacket friend data =>
    exact (empty (fun none _ => none ▸ .noPacket) (calls_reported _)).andReturn _
  | groupSendMessage group type message =>
    exact (empty (fun none _ => none ▸ .noGroupMessage) (calls_reported _)).andReturn _
  | fileControl friend file control => exact (failsAs_fileControl friend file control).andReturn _
  | fileSendChunk friend file position data =>
    exact (failsAs_fileSendChunk friend file position data).andReturn _
  | fileSend friend kind size name =>
    exact (failsAs_of_calls (calls_fileSend friend kind size name)).andReturn _
  | getStatus => exact (failsAs_of_calls calls_getStatus).andReturn _
  | iterationInterval => exact failsAs_of_calls (calls_ask _ fun _ => .pure _)
  | setStatus status => exact failsAs_of_calls (calls_ask _ fun _ => .pure _)
  | save | getName =>
    exact failsAs_of_calls (.bind (calls_ask _ fun _ => .call trivial) fun _ => .pure _)
  | groupGetTopic group =>
    exact failsAs_of_calls (.bind (.bind (calls_reported _) fun _ => (asks_reported trivial).built)
      fun _ => .pure _)
  | _ => exact failsAs_of_calls (.bind (calls_reported _) fun _ => .pure _)

/-- A request that is no pass fails without calling the engine exactly if the bridge refuses it. -/
theorem uncalled_iff_refused (now : Timestamp) {request : Request} (hi : request ≠ .iterate)
    (hd : ∀ fired, request ≠ .invoke fired) (held : HeldSession (Recorded ε)) (failure : Failure) :
    ((request.perform now held).outcome = .error (.failed failure) ∧
        (request.perform now held).state.engine.calls = held.engine.calls) ↔
      request.Refused held.transfers failure.operation failure.reason := by
  constructor
  · rintro ⟨hf, hcalls⟩
    exact failsAs_perform now hi hd held failure hf hcalls
  · intro refused
    rw [perform_of_refused now refused]
    exact ⟨rfl, rfl⟩

end HeldSession

end Switchboard
