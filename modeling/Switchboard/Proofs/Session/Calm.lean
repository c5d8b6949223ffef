import Switchboard.Proofs.Recorded
import Switchboard.Proofs.Run
import Switchboard.Proofs.Session.Translation
import Switchboard.Proofs.Simulation.Steady
import Switchboard.Proofs.Transfer.Entries
import Switchboard.Session.Request
/-!
# Ordinary use of a session

A session of a simulated engine that is left alone (`Calm`): its engine was not made to fail and has
nothing to fire, and nothing is told by hand. Every request ends with an answer or for a documented
reason, and leaves the session calm, but for one (`calmly_perform`): an engine that numbers files
per direction goes on counting past the last index, and the offer it numbers 256 disables the
session (`Exhausted`).
-/

namespace Switchboard

open Transfer (Table)

/-- Nothing is told by hand. -/
def Request.isOrdinary : Request → Bool
  | .invoke fired => fired.notifications.isEmpty && !fired.panics
  | _ => true

/-- The engine is owed no control, the number of the next file is how many were offered, and no
transfer is kept under an index that is still to come. -/
structure Numbered (table : Table) (engine : Transcribed SimulatedEngine) : Prop where
  outbound : table.outbound = []
  next : engine.engine.nextFile.toNat = engine.offers
  room : engine.offers ≤ 256
  unused : ∀ friend (index : UInt8), engine.offers ≤ index.toNat →
    table.get? friend (.unify .send index) = none

section Numbered

variable {table left : Table} {engine after : Transcribed SimulatedEngine}

/-- Transfers may change and go, as long as none comes. -/
theorem Numbered.of_absent (numbered : Numbered table engine) (outbound : left.outbound = [])
    (absent : ∀ friend file, table.get? friend file = none → left.get? friend file = none) :
    Numbered left engine where
  outbound := outbound
  next := numbered.next
  room := numbered.room
  unused friend index coming := absent _ _ (numbered.unused friend index coming)

theorem Numbered.of_offers (numbered : Numbered table engine)
    (next : after.engine.nextFile = engine.engine.nextFile)
    (offers : after.offers = engine.offers) :
    Numbered table after where
  outbound := numbered.outbound
  next := by rw [next, offers, numbered.next]
  room := offers ▸ numbered.room
  unused friend index coming := numbered.unused friend index (offers ▸ coming)

theorem Numbered.requestChunks (numbered : Numbered table engine) :
    Numbered table.requestChunks.2 engine := by
  refine numbered.of_absent numbered.outbound fun friend file absent => ?_
  rw [Table.get?_requestChunks, absent, Option.map_none]

theorem Numbered.commitControl (numbered : Numbered table engine) (friend : UInt32) (file : FileId)
    (control : FileControl) : Numbered (table.commitControl friend file control) engine := by
  simp only [Table.commitControl]
  cases live : table.get? friend file with
  | none => exact numbered
  | some transfer =>
    have outbound : (table.applyControl friend file control transfer).outbound = [] := by
      cases control <;> exact numbered.outbound
    refine numbered.of_absent outbound fun other id absent => ?_
    have apart : ¬ (friend = other ∧ file = id) := by
      rintro ⟨rfl, rfl⟩
      rw [live] at absent
      cases absent
    rw [Table.get?_applyControl, if_neg apart, absent]

theorem Numbered.commitChunk (numbered : Numbered table engine) (friend : UInt32) (file : FileId)
    (length : UInt64) : Numbered (table.commitChunk friend file length) engine := by
  simp only [Table.commitChunk]
  cases live : table.get? friend file with
  | none => exact numbered
  | some transfer =>
    refine numbered.of_absent numbered.outbound fun other id absent => ?_
    have apart : ¬ (friend = other ∧ file = id) := by
      rintro ⟨rfl, rfl⟩
      rw [live] at absent
      cases absent
    rw [Table.get?_put, if_neg apart, absent]

private theorem toNat_index (numbered : Numbered table engine) (room : engine.offers < 256) :
    engine.engine.nextFile.toUInt8.toNat = engine.offers := by
  rw [UInt32.toNat_toUInt8, numbered.next, Nat.mod_eq_of_lt room]

/-- The engine takes an offer, and the transfer is kept under its index. -/
theorem Numbered.offered (numbered : Numbered table engine) (room : engine.offers < 256)
    (next : after.engine.nextFile = engine.engine.nextFile + 1)
    (offers : after.offers = engine.offers + 1) (friend : UInt32) (transfer : Transfer) :
    Numbered (table.put friend (.unify .send engine.engine.nextFile.toUInt8) transfer) after where
  outbound := numbered.outbound
  next := by
    have wide : engine.offers + 1 < 2 ^ 32 := by omega
    rw [next, offers, UInt32.toNat_add, numbered.next]
    exact Nat.mod_eq_of_lt wide
  room := by omega
  unused other index coming := by
    have apart : ¬ (friend = other ∧
        FileId.unify .send engine.engine.nextFile.toUInt8 = .unify .send index) := by
      rintro ⟨-, same⟩
      have reached := toNat_index numbered room
      rw [(FileId.unify_inj.mp same).2] at reached
      omega
    rw [Table.get?_put, if_neg apart]
    exact numbered.unused other index (by omega)

/-- As long as there is an index left, the transfer is opened. -/
theorem Numbered.localSend (numbered : Numbered table engine) (room : engine.offers < 256)
    (friend : UInt32) (size : UInt64) :
    table.localSend friend engine.engine.nextFile size =
      .ok (.unify .send engine.engine.nextFile.toUInt8,
        table.put friend (.unify .send engine.engine.nextFile.toUInt8) (.offered .send size)) := by
  have small : engine.engine.nextFile.toNat < 256 := numbered.next ▸ room
  have free := numbered.unused friend engine.engine.nextFile.toUInt8
    (Nat.le_of_eq (toNat_index numbered room).symm)
  simp only [Table.localSend, if_pos small, Table.create, free]

end Numbered

/-- An engine that is left alone answers every call but the offer of a file without taking a file
number. -/
theorem Transcribed.perform_steady {c : Call} {engine : Transcribed SimulatedEngine}
    (steady : engine.engine.Steady)
    (sending : ∀ friend kind size name, c ≠ .fileSend friend kind size name)
    (status : ∀ status, c = .setStatus status → status.toNat < 3) :
    ∃ value after, Engine.perform c engine = (some value, after) ∧ c.Sound value ∧
      after.engine.Steady ∧ after.engine.nextFile = engine.engine.nextFile ∧
      after.offers = engine.offers := by
  obtain ⟨value, after, answered, sound, steady, next⟩ :=
    SimulatedEngine.steady_answer steady sending status
  refine ⟨value, _, Transcribed.perform_of_answer answered, sound, steady, next, ?_⟩
  simp only [Transcribed.offers, List.countP_append, List.countP_singleton,
    Exchange.isOffer_eq_false sending, Bool.false_eq_true, if_false, Nat.add_zero]

namespace HeldSession

/-! ## Calm sessions -/

variable {α β : Type} {addressing : Addressing}

/-- The session is not disabled, and its engine is left alone. -/
structure Calm (addressing : Addressing) (held : HeldSession (Transcribed SimulatedEngine)) :
    Prop where
  violation : held.violation = none
  steady : held.engine.engine.Steady
  unified : addressing = .unified → held.transfers = none
  legacy : addressing = .legacy →
    ∃ table, held.transfers = some table ∧ Numbered table held.engine

/-- The engine took one offer more than there are indices. -/
structure Exhausted (held : HeldSession (Transcribed SimulatedEngine)) : Prop where
  violation : held.violation = some (.indexOutOfRange 256)
  offers : held.engine.offers = 257

/-- How an operation ends in ordinary use: with a value, for a documented reason, or because the
indices are used up. -/
inductive Ended (addressing : Addressing) (V : α → Prop) :
    Outcome CallError α → HeldSession (Transcribed SimulatedEngine) → Prop
  | ok {value held} : V value → Calm addressing held → Ended addressing V (.ok value) held
  | refused {cause held} : (∀ violation, cause ≠ .bridge (.contract violation)) →
    Calm addressing held → Ended addressing V (.error cause) held
  | exhausted {held} : addressing = .legacy → Exhausted held →
    Ended addressing V (.error (.bridge (.contract (.indexOutOfRange 256)))) held

/-- From every calm session the operation ends in such a way. -/
def Calmly (addressing : Addressing) (operation : Held (Transcribed SimulatedEngine) α)
    (V : α → Prop) : Prop :=
  ∀ held, Calm addressing held →
    Ended addressing V (operation held).outcome (operation held).state

/-- An answer that takes no file number. -/
theorem Calm.of_offers {held : HeldSession (Transcribed SimulatedEngine)}
    (calm : Calm addressing held) {after : Transcribed SimulatedEngine}
    (steady : after.engine.Steady) (next : after.engine.nextFile = held.engine.engine.nextFile)
    (offers : after.offers = held.engine.offers) :
    Calm addressing { held with engine := after } := by
  refine ⟨calm.violation, steady, calm.unified, fun legacy => ?_⟩
  obtain ⟨table, kept, numbered⟩ := calm.legacy legacy
  exact ⟨table, kept, numbered.of_offers next offers⟩

section Rules

variable {V : α → Prop} {W : β → Prop}

theorem Calmly.pure {value : α} (h : V value) : Calmly addressing (pure value) V :=
  fun _ calm => .ok h calm

theorem Calmly.bind {first : Held (Transcribed SimulatedEngine) α}
    {next : α → Held (Transcribed SimulatedEngine) β} (hf : Calmly addressing first V)
    (hn : ∀ value, V value → Calmly addressing (next value) W) :
    Calmly addressing (first >>= next) W := by
  intro held calm
  have ended := hf held calm
  simp only [Run.bind_apply, Run.andThen]
  generalize (first held).outcome = outcome, (first held).state = left at ended
  cases ended with
  | ok value calm => exact hn _ value _ calm
  | refused tame calm => exact .refused tame calm
  | exhausted legacy exhausted => exact .exhausted legacy exhausted

/-- An operation may look at the session it holds. -/
theorem Calmly.get {next : HeldSession (Transcribed SimulatedEngine) →
      Held (Transcribed SimulatedEngine) α}
    (h : ∀ held, Calmly addressing (next held) V) :
    Calmly addressing (do next (← Run.get)) V := fun held calm => h held held calm

private theorem calmly_log (level : Log.Level) (message : String)
    (fields : List (String × Log.Value)) :
    Calmly addressing (log level message fields) (fun _ => True) := fun _ calm => .ok trivial calm

private theorem calmly_refuse (operation : Operation) (reason : Reason) :
    Calmly addressing (refuse operation reason) V := fun _ calm => .refused nofun calm

private theorem calmly_checked {P : Prop} [Decidable P] {operation : Operation} {reason : Reason}
    {otherwise : Held (Transcribed SimulatedEngine) α} (h : Calmly addressing otherwise V) :
    Calmly addressing (if P then refuse operation reason else otherwise) V := by
  split
  · exact calmly_refuse _ _
  · exact h

private theorem calmly_accept {operation : Operation} {reported : Reported α}
    (documented : Documented operation reported) :
    Calmly addressing (accept operation reported) (fun _ => True) := by
  cases reported with
  | ok value => exact .pure trivial
  | error code =>
    obtain ⟨reason, known⟩ := documented code rfl
    simp only [accept, known]
    exact .bind (calmly_log _ _ _) fun _ _ => calmly_refuse _ _

private theorem calmly_updateTransfers {change : Table → Table}
    (h : ∀ {table engine}, Numbered table engine → Numbered (change table) engine) :
    Calmly addressing (updateTransfers change) (fun _ => True) := by
  intro held calm
  refine .ok trivial ⟨calm.violation, calm.steady, fun unified => ?_, fun legacy => ?_⟩
  · exact congrArg (Option.map change) (calm.unified unified)
  · obtain ⟨table, kept, numbered⟩ := calm.legacy legacy
    exact ⟨change table, congrArg (Option.map change) kept, h numbered⟩

end Rules

/-! ## Calls -/

private theorem calmly_call {c : Call}
    (sending : ∀ friend kind size name, c ≠ .fileSend friend kind size name := by nofun)
    (status : ∀ status, c = .setStatus status → status.toNat < 3 := by nofun) :
    Calmly addressing (call c) c.Sound := by
  intro held calm
  obtain ⟨value, after, performed, sound, steady, next, offers⟩ :=
    Transcribed.perform_steady calm.steady sending status
  simp only [call, performed]
  exact .ok sound (calm.of_offers steady next offers)

/-- The engine is called, and what it reports is accepted. -/
theorem calmly_reported {c : Call} {operation : Operation} {next : c.Answer → Reported α}
    (sending : ∀ friend kind size name, c ≠ .fileSend friend kind size name := by nofun)
    (status : ∀ status, c = .setStatus status → status.toNat < 3 := by nofun)
    (sound : ∀ answer, c.Sound answer → Documented operation (next answer) := by
      exact fun _ sound => sound) :
    Calmly addressing
      (call c >>= fun answer => accept operation (next answer)) (fun _ => True) :=
  .bind (calmly_call sending status) fun answer h => calmly_accept (sound answer h)

/-! ## Passes -/

private theorem calmly_takeOutbound : Calmly addressing takeOutbound (· = []) := by
  intro held calm
  cases addressing with
  | unified =>
    have none := calm.unified rfl
    simp only [takeOutbound, none]
    exact .ok rfl ⟨calm.violation, calm.steady, fun _ => rfl, nofun⟩
  | legacy =>
    obtain ⟨table, kept, numbered⟩ := calm.legacy rfl
    simp only [takeOutbound, kept]
    refine .ok numbered.outbound ⟨calm.violation, calm.steady, nofun, fun _ => ?_⟩
    exact ⟨_, rfl, numbered.of_absent rfl fun _ _ absent => absent⟩

private theorem calmly_requestChunks (now : Timestamp) :
    Calmly addressing (requestChunks now) (fun _ => True) := by
  intro held calm
  cases addressing with
  | unified =>
    have none := calm.unified rfl
    simp only [requestChunks, Run.modify_apply, none]
    exact .ok trivial calm
  | legacy =>
    obtain ⟨table, kept, numbered⟩ := calm.legacy rfl
    simp only [requestChunks, Run.modify_apply, kept]
    exact .ok trivial
      ⟨calm.violation, calm.steady, nofun, fun _ => ⟨_, rfl, numbered.requestChunks⟩⟩

private theorem calmly_warnOfBacklog : Calmly addressing warnOfBacklog (fun _ => True) := by
  intro held calm
  unfold warnOfBacklog
  split
  · exact .ok trivial ⟨calm.violation, calm.steady, calm.unified, calm.legacy⟩
  · exact .ok trivial calm

/-- A pass in which nothing is fired. -/
theorem calmly_dispatch (now : Timestamp) :
    Calmly addressing (dispatch now ⟨[], false⟩) (fun _ => True) := by
  refine .bind (V := (· = none)) (.pure rfl) fun violation quiet => ?_
  rw [quiet]
  refine .bind calmly_takeOutbound fun controls none => ?_
  rw [none]
  exact .bind (V := fun _ => True) (.pure trivial) fun _ _ =>
    .bind (calmly_requestChunks now) fun _ _ => calmly_warnOfBacklog

private theorem calmly_iterate (now : Timestamp) :
    Calmly addressing (iterate now) (fun _ => True) := by
  refine .bind calmly_call fun fired nothing => ?_
  rw [show fired = ⟨[], false⟩ from nothing]
  exact calmly_dispatch now

/-! ## Requests -/

private theorem calmly_getStatus : Calmly addressing getStatus (fun _ => True) := by
  refine .bind calmly_call fun number known => ?_
  cases read : Notification.fromTable (α := UserStatus) "user_status" number with
  | ok status => exact .pure trivial
  | error violation =>
    have beyond := (Notification.fromTable_error_iff.mp read).1
    exact absurd (show number.toNat < 3 from known) (Nat.not_lt.mpr beyond)

/-- What becomes of an offer that the engine took, if the engine numbers files per direction: a
transfer is opened under the next index, unless there is none. -/
theorem ended_of_taken {held : HeldSession (Transcribed SimulatedEngine)} {table : Table}
    {after : Transcribed SimulatedEngine} {friend kind : UInt32} {size : UInt64} {name : Bytes}
    (calm : Calm .legacy held) (kept : held.transfers = some table)
    (numbered : Numbered table held.engine)
    (performed : Engine.perform (.fileSend friend kind size name) held.engine =
      (some (.ok held.engine.engine.nextFile), after))
    (steady : after.engine.Steady)
    (next : after.engine.nextFile = held.engine.engine.nextFile + 1)
    (offers : after.offers = held.engine.offers + 1) :
    Ended .legacy (fun _ => True) (fileSend friend kind size name held).outcome
      (fileSend friend kind size name held).state := by
  by_cases room : held.engine.offers < 256
  · simp only [fileSend, Run.bind_apply, call, performed, Run.andThen_ok, accept, Run.pure_apply,
      Run.get_apply, kept, numbered.localSend room, updateTransfers, Run.modify_apply, log,
      Option.map_some]
    refine .ok trivial ⟨calm.violation, steady, nofun, fun _ => ⟨_, rfl, ?_⟩⟩
    exact numbered.offered room next offers friend _
  · have full : held.engine.offers = 256 := by
      have := numbered.room
      omega
    have last : held.engine.engine.nextFile = 256 := by
      apply UInt32.toNat.inj
      rw [numbered.next, full]
      rfl
    have refused : table.localSend friend 256 size = .error (.indexOutOfRange 256) := rfl
    simp only [fileSend, Run.bind_apply, call, performed, Run.andThen_ok, accept, Run.pure_apply,
      Run.get_apply, kept, last, refused, poison]
    exact .exhausted rfl ⟨rfl, by rw [offers, full]⟩

/-- The offer of a file is the one request that may use up the indices. -/
theorem calmly_fileSend (friend kind : UInt32) (size : UInt64) (name : Bytes) :
    Calmly addressing (fileSend friend kind size name) (fun _ => True) := by
  intro held calm
  rcases SimulatedEngine.answer_fileSend calm.steady friend kind size name with
    ⟨reason, listed, answered⟩ | answered
  · have performed : Engine.perform (.fileSend friend kind size name) held.engine =
        (some (SimulatedEngine.refusal .fileSend reason), ⟨held.engine.engine,
          held.engine.exchanges ++ [⟨.fileSend friend kind size name,
            some (SimulatedEngine.refusal .fileSend reason)⟩]⟩) :=
      Transcribed.perform_of_answer answered
    have known := Operation.reason?_code .fileSend reason listed
    simp only [fileSend, Run.bind_apply, call, performed, Run.andThen_ok, accept,
      SimulatedEngine.refusal, known]
    refine .refused nofun (calm.of_offers calm.steady rfl ?_)
    simp only [Transcribed.offers, List.countP_append, List.countP_singleton]
    rfl
  · have performed : Engine.perform (.fileSend friend kind size name) held.engine =
        (some (.ok held.engine.engine.nextFile),
          ⟨{ held.engine.engine with nextFile := held.engine.engine.nextFile + 1 },
            held.engine.exchanges ++ [⟨.fileSend friend kind size name,
              some (.ok held.engine.engine.nextFile)⟩]⟩) :=
      Transcribed.perform_of_answer answered
    have steady : SimulatedEngine.Steady
        { held.engine.engine with nextFile := held.engine.engine.nextFile + 1 } :=
      ⟨calm.steady.failures, calm.steady.script, calm.steady.status⟩
    cases addressing with
    | unified =>
      have none := calm.unified rfl
      simp only [fileSend, Run.bind_apply, call, performed, Run.andThen_ok, accept,
        Run.pure_apply, Run.get_apply, none]
      exact .ok trivial ⟨calm.violation, steady, fun _ => none, nofun⟩
    | legacy =>
      obtain ⟨table, kept, numbered⟩ := calm.legacy rfl
      refine ended_of_taken calm kept numbered performed steady rfl ?_
      simp only [Transcribed.offers, List.countP_append, List.countP_singleton,
        Exchange.isOffer, if_true]

private theorem calmly_fileControl (friend : UInt32) (file : FileId) (control : FileControl) :
    Calmly addressing (fileControl friend file control) (fun _ => True) := by
  refine .get fun held => ?_
  split
  · exact calmly_reported
  · split
    · exact calmly_refuse _ _
    · exact .bind calmly_reported fun _ _ =>
        calmly_updateTransfers fun numbered => numbered.commitControl _ _ _

private theorem calmly_fileSendChunk (friend : UInt32) (file : FileId) (position : UInt64)
    (data : Bytes) :
    Calmly addressing (fileSendChunk friend file position data) (fun _ => True) := by
  refine .get fun held => ?_
  split
  · exact calmly_reported
  · dsimp only
    split
    · exact calmly_refuse _ _
    · split
      · exact calmly_updateTransfers fun numbered => numbered.commitChunk _ _ _
      · exact .bind calmly_reported fun _ _ =>
          calmly_updateTransfers fun numbered => numbered.commitChunk _ _ _

/-- In ordinary use a request ends with an answer or for a documented reason, or else it is the
offer of a file for which there is no index left. -/
theorem calmly_perform (now : Timestamp) {request : Request}
    (ordinary : request.isOrdinary = true) :
    Calmly addressing (request.perform now) (fun _ => True) := by
  cases request with
  | iterate => exact .bind (calmly_iterate now) fun _ _ => .pure trivial
  | invoke fired =>
    obtain ⟨notifications, panics⟩ := fired
    obtain ⟨nothing, sound⟩ := Bool.and_eq_true_iff.mp ordinary
    obtain rfl : notifications = [] := List.isEmpty_iff.mp nothing
    obtain rfl : panics = false := by simpa using sound
    exact .bind (calmly_dispatch now) fun _ _ => .pure trivial
  | iterationInterval => exact .bind calmly_call fun _ _ => .pure trivial
  | save =>
    exact .bind (.bind (W := fun _ => True) calmly_call fun _ _ => calmly_call) fun _ _ =>
      .pure trivial
  | bootstrap host port key =>
    exact .bind (calmly_checked (calmly_checked calmly_reported)) fun _ _ => .pure trivial
  | getName =>
    exact .bind (.bind (W := fun _ => True) calmly_call fun _ _ => calmly_call) fun _ _ =>
      .pure trivial
  | setStatus status =>
    have known : ∀ number, Call.setStatus (Enumerated.number status) = .setStatus number →
        number.toNat < 3 := by
      intro number same
      cases same
      cases status <;> decide
    exact .bind (calmly_call nofun known) fun _ _ => .pure trivial
  | getStatus => exact .bind calmly_getStatus fun _ _ => .pure trivial
  | friendAdd address message =>
    exact .bind (calmly_checked calmly_reported) fun _ _ => .pure trivial
  | friendSendMessage friend type message =>
    exact .bind (calmly_checked calmly_reported) fun _ _ => .pure trivial
  | friendSendLosslessPacket friend data =>
    exact .bind (calmly_checked calmly_reported) fun _ _ => .pure trivial
  | fileSend friend kind size name =>
    exact .bind (calmly_fileSend friend kind size name) fun _ _ => .pure trivial
  | fileControl friend file control =>
    exact .bind (calmly_fileControl friend file control) fun _ _ => .pure trivial
  | fileSendChunk friend file position data =>
    exact .bind (calmly_fileSendChunk friend file position data) fun _ _ => .pure trivial
  | groupSendMessage group type message =>
    exact .bind (calmly_checked calmly_reported) fun _ _ => .pure trivial
  | groupGetTopic group =>
    exact .bind (.bind calmly_reported fun _ _ => calmly_reported) fun _ _ => .pure trivial
  | _ => exact .bind calmly_reported fun _ _ => .pure trivial

end HeldSession

end Switchboard
