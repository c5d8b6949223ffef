import Switchboard.Proofs.Session.Asked
/-!
# How requests are put together

Every request is put together from a few steps: the engine is called, the transfers are changed, a
notification is taken in, something is logged, or the request fails (`Built`, `built_perform`). What
every step preserves and what passes from one step to the next is so shown for all requests at once.
-/

namespace Switchboard

/-- The call brings the engine bytes of a file. -/
def Call.isData : Call → Bool
  | .legacyFileData _ _ _ => true
  | _ => false

/-- Only a request to send a chunk brings the engine bytes of a file. -/
theorem Request.MayCall.isData {request : Request} {c : Call} (h : request.MayCall c)
    (other : request.isChunk = false) : c.isData = false := by
  cases h with
  | legacyFileData => cases other
  | _ => rfl

namespace HeldSession

variable {ε α β : Type}

/-- The operation is put together from the steps of requests, and makes no calls but these; it may
warn of a backlog only if so said. Only disabling the session is logged as an error. -/
inductive Built [Engine ε] (may : Call → Prop) (warns : Prop) : {α : Type} → Held ε α → Prop
  | pure {α : Type} (value : α) : Built may warns (pure value)
  | bind {α β : Type} {first : Held ε α} {next : α → Held ε β} :
    Built may warns first → (∀ value, Built may warns (next value)) →
    Built may warns (first >>= next)
  | get : Built may warns Run.get
  | call {c : Call} : may c → Built may warns (call c)
  | log {level : Log.Level} (message : String) (fields : List (String × Log.Value)) :
    Log.IsAside level message → Built may warns (log level message fields)
  | refuse {α : Type} (operation : Operation) (reason : Reason) :
    Built may warns (refuse operation reason : Held ε α)
  | poison {α : Type} (violation : Violation) : Built may warns (poison violation : Held ε α)
  | panic {α : Type} : Built may warns (Run.panic : Held ε α)
  | updateTransfers (change : Transfer.Table → Transfer.Table) :
    Built may warns (updateTransfers change)
  | receive (now : Timestamp) (notification : Notification) :
    Built may warns (receive now notification)
  | takeOutbound : Built may warns takeOutbound
  | requestChunks (now : Timestamp) : Built may warns (requestChunks now)
  | warnOfBacklog : warns → Built may warns warnOfBacklog

/-! ## Requests -/

section Requests

variable [Engine ε] {may : Call → Prop} {warns : Prop}

theorem Asks.built {operation : Held ε α} (asks : Asks may operation) :
    Built may warns operation := by
  induction asks with
  | pure value => exact .pure value
  | bind _ _ hf hn => exact .bind hf hn
  | call hc => exact .call hc
  | log message fields hl => exact .log message fields hl
  | refuse operation reason => exact .refuse operation reason
  | poison violation => exact .poison violation

private theorem built_reported {c : Call} (hc : may c) {operation : Operation}
    {next : c.Answer → Reported α} :
    Built (ε := ε) may warns
      (HeldSession.call c >>= fun answer => accept operation (next answer)) :=
  (asks_reported hc).built

theorem built_receiveAll (now : Timestamp) (notifications : List Notification) :
    Built (ε := ε) may warns (receiveAll now notifications) := by
  induction notifications with
  | nil => exact .pure none
  | cons notification rest ih =>
    refine .bind (.receive now notification) fun violation => ?_
    cases violation with
    | none => exact ih
    | some violation => exact .pure _

section Passes

variable (owed : ∀ friend side index control, may (.legacyFileControl friend side index control))
include owed

theorem built_tell (controls : List Transfer.Outbound) :
    Built (ε := ε) may warns (tell controls) := by
  induction controls with
  | nil => exact .pure ()
  | cons control rest ih =>
    refine .bind (.log _ _ (by decide)) fun _ => .bind (.call (owed ..)) fun answer => ?_
    cases answer with
    | ok _ => exact ih
    | error code =>
      dsimp only
      cases Operation.fileControl.reason? code with
      | some reason => exact .bind (.log _ _ (by decide)) fun _ => ih
      | none => exact .poison _

private theorem built_dispatch (pass : warns) (now : Timestamp) (fired : Fired) :
    Built (ε := ε) may warns (dispatch now fired) := by
  refine .bind (built_receiveAll now fired.notifications) fun violation => ?_
  split
  · exact .panic
  · cases violation with
    | some violation => exact .poison violation
    | none =>
      exact .bind .takeOutbound fun controls => .bind (built_tell owed controls) fun _ =>
        .bind (.requestChunks now) fun _ => .warnOfBacklog pass

end Passes

private theorem built_fileSend {friend kind : UInt32} {size : UInt64} {name : Bytes}
    (free : ∀ c, (Request.fileSend friend kind size name).MayCall c → may c) :
    Built (ε := ε) may warns (fileSend friend kind size name) := by
  refine .bind (built_reported (free _ (.fileSend ..))) fun number => .bind .get fun held => ?_
  split
  · exact .pure _
  · split
    · exact .poison _
    · exact .bind (.updateTransfers _) fun _ => .bind (.log _ _ (by decide)) fun _ => .pure _

private theorem built_fileControl {friend : UInt32} {file : FileId} {control : FileControl}
    (free : ∀ c, (Request.fileControl friend file control).MayCall c → may c) :
    Built (ε := ε) may warns (fileControl friend file control) := by
  refine .bind .get fun held => ?_
  split
  · exact built_reported (free _ (.fileControl ..))
  · split
    · exact .refuse _ _
    · exact .bind (built_reported (free _ (.told ..))) fun _ => .updateTransfers _

private theorem built_fileSendChunk {friend : UInt32} {file : FileId} {position : UInt64}
    {data : Bytes}
    (free : ∀ c, (Request.fileSendChunk friend file position data).MayCall c → may c) :
    Built (ε := ε) may warns (fileSendChunk friend file position data) := by
  refine .bind .get fun held => ?_
  split
  · exact built_reported (free _ (.fileSendChunk ..))
  · dsimp only
    split
    · exact .refuse _ _
    · split
      · exact .bind (.pure ()) fun _ => .updateTransfers _
      · exact .bind (built_reported (free _ (.legacyFileData ..))) fun _ => .updateTransfers _

/-- Every request is put together from such steps, and only a pass warns of a backlog. -/
theorem built_perform (now : Timestamp) {request : Request}
    (free : ∀ c, request.MayCall c → may c) (pass : request.isPass = true → warns) :
    Built (ε := ε) may warns (request.perform now) := by
  cases request with
  | iterate =>
    exact .bind (.bind (.call (free _ .iterate)) fun fired =>
      built_dispatch (fun _ _ _ _ => free _ (.owed rfl ..)) (pass rfl) now fired) fun _ => .pure _
  | invoke fired =>
    exact .bind (built_dispatch (fun _ _ _ _ => free _ (.owed rfl ..)) (pass rfl) now fired)
      fun _ => .pure _
  | fileSend friend kind size name => exact .bind (built_fileSend free) fun _ => .pure _
  | fileControl friend file control => exact .bind (built_fileControl free) fun _ => .pure _
  | fileSendChunk friend file position data =>
    exact .bind (built_fileSendChunk free) fun _ => .pure _
  | _ => exact (asks_perform free now rfl).built

end Requests

/-! ## What every request keeps to -/

/-- The operation leaves the session its handle. -/
def KeepsHandle (operation : Held ε α) : Prop :=
  ∀ held, (operation held).state.handle = held.handle

/-- The operation reports a violation only if the session is disabled for it. -/
def Honest (operation : Held ε α) : Prop :=
  ∀ held violation, (operation held).outcome = .error (.bridge (.contract violation)) →
    (operation held).state.violation = some violation

/-- What a session is disabled for after an operation that ended like this. -/
def verdict (before : Option Violation) : Outcome CallError α → Option Violation
  | .error cause => cause.violation?.or before
  | _ => before

section Built

variable [Engine ε] {may : Call → Prop} {warns : Prop} {operation : Held ε α}

private theorem Built.keepsHandle (built : Built may warns operation) : KeepsHandle operation := by
  induction built with
  | bind _ _ hf hn =>
    intro held
    have hfirst := hf held
    simp only [Run.bind_apply, Run.andThen]
    split
    · exact (hn _ _).trans hfirst
    · exact hfirst
    · exact hfirst
  | call _ =>
    intro held
    simp only [HeldSession.call]
    split <;> rfl
  | receive now notification =>
    intro held
    simp only [HeldSession.receive]
    split <;> rfl
  | requestChunks now =>
    intro held
    simp only [HeldSession.requestChunks, Run.modify_apply]
    split <;> rfl
  | warnOfBacklog _ =>
    intro held
    simp only [HeldSession.warnOfBacklog]
    split <;> rfl
  | _ => exact fun _ => rfl

/-- What no call that may be made changes of the engine, the operation leaves as it was. -/
theorem Built.engine_same (built : Built may warns operation) (seen : ε → β)
    (h : ∀ c, may c → ∀ engine, seen (Engine.perform c engine).2 = seen engine)
    (held : HeldSession ε) : seen (operation held).state.engine = seen held.engine := by
  induction built generalizing held with
  | bind _ _ hf hn =>
    have hfirst := hf held
    simp only [Run.bind_apply, Run.andThen]
    split
    · exact (hn _ _).trans hfirst
    · exact hfirst
    · exact hfirst
  | @call c hc =>
    have hsame := h c hc held.engine
    simp only [HeldSession.call]
    split
    · rename_i he
      rwa [he] at hsame
    · rename_i he
      rwa [he] at hsame
  | receive now notification =>
    simp only [HeldSession.receive]
    split <;> rfl
  | requestChunks now =>
    simp only [HeldSession.requestChunks, Run.modify_apply]
    split <;> rfl
  | warnOfBacklog _ =>
    simp only [HeldSession.warnOfBacklog]
    split <;> rfl
  | _ => rfl

/-- An operation disables the session for the violation it returns, and for no other reason. -/
theorem Built.violation_eq (built : Built may warns operation) (held : HeldSession ε) :
    (operation held).state.violation = verdict held.violation (operation held).outcome := by
  induction built generalizing held with
  | @bind _ _ first next _ _ hf hn =>
    have hfirst := hf held
    simp only [Run.bind_apply]
    rcases hran : first held with ⟨outcome, state, entries⟩
    rw [hran] at hfirst
    cases outcome with
    | ok value => exact (hn value state).trans (by rw [hfirst]; rfl)
    | error cause => exact hfirst
    | panic => exact hfirst
  | call _ =>
    simp only [HeldSession.call]
    split <;> rfl
  | receive now notification =>
    simp only [HeldSession.receive]
    split <;> rfl
  | requestChunks now =>
    simp only [HeldSession.requestChunks, Run.modify_apply]
    split <;> rfl
  | warnOfBacklog _ =>
    simp only [HeldSession.warnOfBacklog]
    split <;> rfl
  | _ => rfl

theorem Built.honest (built : Built may warns operation) : Honest operation := by
  intro held violation h
  rw [built.violation_eq, h]
  rfl

end Built

/-- Every request is put together from the steps, with whatever calls. -/
theorem built_request [Engine ε] (now : Timestamp) (request : Request) :
    Built (ε := ε) (fun _ => True) True (request.perform now) :=
  built_perform now (fun _ _ => trivial) fun _ => trivial

theorem keepsHandle_perform [Engine ε] (now : Timestamp) (request : Request) :
    KeepsHandle (ε := ε) (request.perform now) := (built_request now request).keepsHandle

theorem honest_perform [Engine ε] (now : Timestamp) (request : Request) :
    Honest (ε := ε) (request.perform now) := (built_request now request).honest

end HeldSession

end Switchboard
