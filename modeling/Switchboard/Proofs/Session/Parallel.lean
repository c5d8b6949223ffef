import Switchboard.Proofs.Run
import Switchboard.Session.Request
/-!
# Sessions side by side

What a request does to two sessions at once, possibly of different kinds of engines. A relation
between held sessions that the small steps preserve, made on both sides (`Parallel`), is preserved
by every request that is not about files (`Parallel.perform`); if the two sides also have the same
transfer table, by all of them (`ParallelTables.perform`). A request ends alike on both sides then.
-/

namespace Switchboard

def Request.isFile : Request → Bool
  | .fileSend _ _ _ _ => true
  | .fileControl _ _ _ => true
  | .fileSendChunk _ _ _ _ => true
  | _ => false

/-- The notifications a request gives by hand. -/
def Request.given : Request → List Notification
  | .invoke fired => fired.notifications
  | _ => []

namespace HeldSession

variable {ε δ α : Type}

/-! ## What every relation allows -/

section Any

variable {R : HeldSession ε → HeldSession δ → Prop}

theorem agree_log (level : Log.Level) (message : String) (fields : List (String × Log.Value)) :
    Run.Agree R (log (ε := ε) level message fields) (log (ε := δ) level message fields) :=
  fun _ _ h => ⟨rfl, h⟩

private theorem agree_panic :
    Run.Agree R (Run.panic : Held ε α) (Run.panic : Held δ α) := fun _ _ h => ⟨rfl, h⟩

private theorem agree_refuse (operation : Operation) (reason : Reason) :
    Run.Agree R (refuse operation reason : Held ε α) (refuse operation reason : Held δ α) :=
  .fail _

/-- Some things are refused without the engine. -/
theorem agree_checked {P : Prop} [Decidable P] {operation : Operation} {reason : Reason}
    {first : Held ε α} {second : Held δ α} (h : Run.Agree R first second) :
    Run.Agree R (if P then refuse operation reason else first)
      (if P then refuse operation reason else second) := by
  split
  · exact agree_refuse _ _
  · exact h

end Any

variable [Engine ε] [Engine δ]

/-- The small steps preserve the relation, whether they are made at one time or at another. Only
notifications of a kind are taken in, and only such are fired. -/
structure Parallel (takes : Notification → Prop) (R : HeldSession ε → HeldSession δ → Prop)
    (now now' : Timestamp) : Prop where
  /-- Sessions do not ask how the engine numbers files; that is settled before. -/
  call (c : Call) (asked : c ≠ .addressing := by nofun) :
    Run.Agree R (call (ε := ε) c) (call (ε := δ) c)
  fires {first : HeldSession ε} {second : HeldSession δ} {fired : Fired} : R first second →
    (HeldSession.call .iterate first).outcome = .ok fired → ∀ n ∈ fired.notifications, takes n
  poison {α : Type} (violation : Violation) :
    Run.Agree R (poison violation : Held ε α) (poison violation : Held δ α)
  receive {notification : Notification} : takes notification →
    Run.Agree R (receive (ε := ε) now notification) (receive (ε := δ) now' notification)
  takeOutbound : Run.Agree R (takeOutbound (ε := ε)) (takeOutbound (ε := δ))
  requestChunks : Run.Agree R (requestChunks (ε := ε) now) (requestChunks (ε := δ) now')
  warnOfBacklog : Run.Agree R (warnOfBacklog (ε := ε)) (warnOfBacklog (ε := δ))

section Parallel

variable {takes : Notification → Prop} {R : HeldSession ε → HeldSession δ → Prop}
  {now now' : Timestamp} (parallel : Parallel takes R now now')

include parallel

/-! ## Answers of the engine -/

theorem Parallel.accept (operation : Operation) (reported : Reported α) :
    Run.Agree R (accept (ε := ε) operation reported) (accept (ε := δ) operation reported) := by
  cases reported with
  | ok value => exact .pure value
  | error code =>
    simp only [HeldSession.accept]
    cases operation.reason? code with
    | some reason => exact .bind (agree_log _ _ _) fun _ => agree_refuse _ _
    | none => exact parallel.poison _

theorem Parallel.ask (c : Call) {next : c.Answer → Held ε α} {next' : c.Answer → Held δ α}
    (h : ∀ answer, Run.Agree R (next answer) (next' answer))
    (asked : c ≠ .addressing := by nofun) :
    Run.Agree R (HeldSession.call c >>= next) (HeldSession.call c >>= next') :=
  .bind (parallel.call c asked) h

/-- The engine is called, and what it reports is accepted. -/
theorem Parallel.reported (c : Call) (asked : c ≠ .addressing := by nofun) {operation : Operation}
    {next : c.Answer → Reported α} :
    Run.Agree R
      (HeldSession.call c >>= fun answer => HeldSession.accept (ε := ε) operation (next answer))
      (HeldSession.call c >>= fun answer => HeldSession.accept (ε := δ) operation (next answer)) :=
  parallel.ask c (fun _ => parallel.accept _ _) asked

/-! ## Passes -/

theorem Parallel.receiveAll {notifications : List Notification}
    (taken : ∀ n ∈ notifications, takes n) :
    Run.Agree R (receiveAll (ε := ε) now notifications)
      (receiveAll (ε := δ) now' notifications) := by
  induction notifications with
  | nil => exact .pure none
  | cons notification rest ih =>
    refine .bind (parallel.receive (taken _ List.mem_cons_self)) fun violation => ?_
    cases violation with
    | none => exact ih fun n h => taken n (List.mem_cons_of_mem _ h)
    | some violation => exact .pure (some violation)

theorem Parallel.tell (controls : List Transfer.Outbound) :
    Run.Agree R (tell (ε := ε) controls) (tell (ε := δ) controls) := by
  induction controls with
  | nil => exact .pure ()
  | cons control rest ih =>
    refine .bind (agree_log _ _ _) fun _ => parallel.ask _ fun answer => ?_
    cases answer with
    | ok _ => exact ih
    | error code =>
      dsimp only
      cases Operation.fileControl.reason? code with
      | some reason => exact .bind (agree_log _ _ _) fun _ => ih
      | none => exact parallel.poison _

theorem Parallel.settle : Run.Agree R (settle (ε := ε) now) (settle (ε := δ) now') :=
  .bind parallel.takeOutbound fun controls => .bind (parallel.tell controls) fun _ =>
    .bind parallel.requestChunks fun _ => parallel.warnOfBacklog

theorem Parallel.dispatch {fired : Fired} (taken : ∀ n ∈ fired.notifications, takes n) :
    Run.Agree R (dispatch (ε := ε) now fired) (dispatch (ε := δ) now' fired) := by
  refine .bind (parallel.receiveAll taken) fun violation => ?_
  split
  · exact agree_panic
  · cases violation with
    | some violation => exact parallel.poison violation
    | none => exact parallel.settle

theorem Parallel.iterate : Run.Agree R (iterate (ε := ε) now) (iterate (ε := δ) now') := by
  intro first second h
  obtain ⟨same, next⟩ := parallel.call .iterate (by nofun) first second h
  simp only [HeldSession.iterate, Run.bind_apply, Run.andThen, ← same]
  cases hfired : (HeldSession.call .iterate first).outcome with
  | ok fired => exact parallel.dispatch (parallel.fires h hfired) _ _ next
  | error cause => exact ⟨rfl, next⟩
  | panic => exact ⟨rfl, next⟩

/-! ## Requests -/

theorem Parallel.bootstrap (host : String) (port : UInt32) (key : PublicKey) :
    Run.Agree R (bootstrap (ε := ε) host port key) (bootstrap (ε := δ) host port key) :=
  agree_checked (agree_checked (parallel.reported _))

theorem Parallel.getStatus : Run.Agree R (getStatus (ε := ε)) (getStatus (ε := δ)) := by
  refine parallel.ask _ fun number => ?_
  cases Notification.fromTable (α := UserStatus) "user_status" number with
  | ok status => exact .pure status
  | error violation => exact parallel.poison violation

/-- A request that is not about files goes alike on both sides. -/
theorem Parallel.perform {request : Request} (plain : request.isFile = false)
    (taken : ∀ n ∈ request.given, takes n) :
    Run.Agree R (request.perform (ε := ε) now) (request.perform (ε := δ) now') := by
  cases request with
  | iterate => exact .bind parallel.iterate fun _ => .pure _
  | invoke fired => exact .bind (parallel.dispatch taken) fun _ => .pure _
  | iterationInterval => exact .bind (parallel.call _) fun _ => .pure _
  | save =>
    exact .bind (parallel.ask _ fun _ => parallel.call _) fun _ => .pure _
  | bootstrap host port key => exact .bind (parallel.bootstrap host port key) fun _ => .pure _
  | udpPort => exact .bind (parallel.reported _) fun _ => .pure _
  | setName name => exact .bind (parallel.reported _) fun _ => .pure _
  | getName =>
    exact .bind (parallel.ask _ fun _ => parallel.call _) fun _ => .pure _
  | setStatusMessage message => exact .bind (parallel.reported _) fun _ => .pure _
  | setStatus status => exact .bind (parallel.call _) fun _ => .pure _
  | getStatus => exact .bind parallel.getStatus fun _ => .pure _
  | friendAdd address message =>
    exact .bind (agree_checked (parallel.reported _)) fun _ => .pure _
  | friendAddNorequest key => exact .bind (parallel.reported _) fun _ => .pure _
  | friendDelete friend => exact .bind (parallel.reported _) fun _ => .pure _
  | friendByPublicKey key => exact .bind (parallel.reported _) fun _ => .pure _
  | friendGetPublicKey friend => exact .bind (parallel.reported _) fun _ => .pure _
  | setTyping friend isTyping => exact .bind (parallel.reported _) fun _ => .pure _
  | friendSendMessage friend type message =>
    exact .bind (agree_checked (parallel.reported _)) fun _ => .pure _
  | friendSendLosslessPacket friend data =>
    exact .bind (agree_checked (parallel.reported _)) fun _ => .pure _
  | fileSend friend kind size name => cases plain
  | fileControl friend file control => cases plain
  | fileSendChunk friend file position data => cases plain
  | groupSendMessage group type message =>
    exact .bind (agree_checked (parallel.reported _)) fun _ => .pure _
  | groupSetTopic group topic => exact .bind (parallel.reported _) fun _ => .pure _
  | groupGetTopic group =>
    exact .bind (.bind (parallel.reported _) fun _ => parallel.reported _)
      fun _ => .pure _
  | groupLeave group message => exact .bind (parallel.reported _) fun _ => .pure _

end Parallel

/-! ## Requests about files -/

/-- The two sides also have the same transfer table, and may change it in the same way. -/
structure ParallelTables (takes : Notification → Prop)
    (R : HeldSession ε → HeldSession δ → Prop) (now now' : Timestamp) : Prop
    extends Parallel takes R now now' where
  transfers {first : HeldSession ε} {second : HeldSession δ} : R first second →
    first.transfers = second.transfers
  updateTransfers (change : Transfer.Table → Transfer.Table) :
    Run.Agree R (updateTransfers (ε := ε) change) (updateTransfers (ε := δ) change)

section ParallelTables

variable {takes : Notification → Prop} {R : HeldSession ε → HeldSession δ → Prop}
  {now now' : Timestamp} (parallel : ParallelTables takes R now now')

include parallel

/-- An operation that looks at the transfer table alone goes on alike. -/
theorem ParallelTables.get {next : HeldSession ε → Held ε α} {next' : HeldSession δ → Held δ α}
    (h : ∀ first second, first.transfers = second.transfers →
      Run.Agree R (next first) (next' second)) :
    Run.Agree R (do next (← Run.get)) (do next' (← Run.get)) := by
  intro first second related
  simp only [Run.bind_apply, Run.get_apply, Run.andThen_ok]
  exact h first second (parallel.transfers related) first second related

theorem ParallelTables.fileSend (friend kind : UInt32) (size : UInt64) (name : Bytes) :
    Run.Agree R (fileSend (ε := ε) friend kind size name)
      (fileSend (ε := δ) friend kind size name) := by
  refine .bind (parallel.reported _) fun number => ?_
  refine parallel.get fun first second ht => ?_
  rw [ht]
  cases second.transfers with
  | none => exact .pure _
  | some table =>
    dsimp only
    cases table.localSend friend number size with
    | error violation => exact parallel.poison violation
    | ok sent =>
      obtain ⟨file, table⟩ := sent
      exact .bind (parallel.updateTransfers _) fun _ => .bind (agree_log _ _ _) fun _ => .pure file

theorem ParallelTables.fileControl (friend : UInt32) (file : FileId) (control : FileControl) :
    Run.Agree R (fileControl (ε := ε) friend file control)
      (fileControl (ε := δ) friend file control) := by
  refine parallel.get fun first second ht => ?_
  rw [ht]
  cases second.transfers with
  | none => exact parallel.reported _
  | some table =>
    dsimp only
    cases table.resolveControl friend file control with
    | error reason => exact agree_refuse _ _
    | ok told => exact .bind (parallel.reported _) fun _ => parallel.updateTransfers _

theorem ParallelTables.fileSendChunk (friend : UInt32) (file : FileId) (position : UInt64)
    (data : Bytes) :
    Run.Agree R (fileSendChunk (ε := ε) friend file position data)
      (fileSendChunk (ε := δ) friend file position data) := by
  refine parallel.get fun first second ht => ?_
  rw [ht]
  cases second.transfers with
  | none => exact parallel.reported _
  | some table =>
    dsimp only
    cases table.resolveChunk friend file position (UInt64.ofNat data.length) with
    | error reason => exact agree_refuse _ _
    | ok index =>
      dsimp only
      split
      · exact .bind (.pure ()) fun _ => parallel.updateTransfers _
      · exact .bind (parallel.reported _) fun _ => parallel.updateTransfers _

/-- Every request goes alike on both sides. -/
theorem ParallelTables.perform (request : Request) (taken : ∀ n ∈ request.given, takes n) :
    Run.Agree R (request.perform (ε := ε) now) (request.perform (ε := δ) now') := by
  cases hfile : request.isFile with
  | false => exact parallel.toParallel.perform hfile taken
  | true =>
    cases request with
    | fileSend friend kind size name =>
      exact .bind (parallel.fileSend _ _ _ _) fun _ => .pure _
    | fileControl friend file control =>
      exact .bind (parallel.fileControl _ _ _) fun _ => .pure _
    | fileSendChunk friend file position data =>
      exact .bind (parallel.fileSendChunk _ _ _ _) fun _ => .pure _
    | _ => cases hfile

end ParallelTables

end HeldSession

namespace Session

variable {ε δ α : Type}

/-- A relation between sessions that comes down to one between held sessions wherever an operation
can hold them. -/
structure Lifts (S : Session ε → Session δ → Prop) (R : HeldSession ε → HeldSession δ → Prop) :
    Prop where
  lockPoisoned {first : Session ε} {second : Session δ} : S first second →
    first.lockPoisoned = second.lockPoisoned
  violation {first : Session ε} {second : Session δ} : S first second →
    first.violation = second.violation
  handle {first : Session ε} {second : Session δ} : S first second →
    first.handle = second.handle
  /-- The engines are both there or both gone. -/
  held {first : Session ε} {second : Session δ} : S first second →
    (first.engine = none ∧ second.engine = none) ∨
      ∃ engine engine', first.engine = some engine ∧ second.engine = some engine' ∧
        R ⟨first.toCore, engine⟩ ⟨second.toCore, engine'⟩
  back {first : HeldSession ε} {second : HeldSession δ} (broken : Bool) : R first second →
    S ⟨first.toCore, some first.engine, broken⟩ ⟨second.toCore, some second.engine, broken⟩

theorem Lifts.hold {S : Session ε → Session δ → Prop} {R : HeldSession ε → HeldSession δ → Prop}
    (lifts : Lifts S R) {first : Held ε α} {second : Held δ α} (h : Run.Agree R first second) :
    Run.Agree S (hold first) (hold second) := by
  intro s t related
  simp only [Session.hold, lifts.lockPoisoned related, lifts.violation related,
    lifts.handle related]
  cases t.lockPoisoned with
  | true => exact ⟨rfl, related⟩
  | false =>
    cases t.violation with
    | some violation => exact ⟨rfl, related⟩
    | none =>
      rcases lifts.held related with ⟨hs, ht⟩ | ⟨engine, engine', hs, ht, held⟩
      · rw [hs, ht]
        exact ⟨rfl, related⟩
      · rw [hs, ht]
        obtain ⟨same, next⟩ := h _ _ held
        refine ⟨same, ?_⟩
        dsimp only
        rw [← same]
        exact lifts.back _ next

end Session

end Switchboard
