import Switchboard.Proofs.Session.Codes
import Switchboard.Proofs.Session.Pass
import Switchboard.Proofs.Transfer.Told
/-!
# Closing controls of a pass

A pass tells the engine of each download that is completed in it, in the order in which they are,
whatever the engine answers as long as its answers are in the catalogue (`dispatch_tells`). Between
requests a session owes its engine nothing (`clear_hold`).
-/

namespace Switchboard

open Transfer

/-! ## Completed downloads -/

/-- Friend and index of the download that a notification completes. -/
def Notification.completed? (table : Table) : Notification → Option (UInt32 × UInt8)
  | .legacyFileData friend index data =>
    if completes (.legacyFileData friend index data) (some table) then some (friend, index)
    else none
  | _ => none

/-- The downloads that notifications complete, in this order. A download that is offered again and
completed again is there again. -/
def completions : List Notification → Table → List (UInt32 × UInt8)
  | [], _ => []
  | notification :: rest, table =>
    match notification.interpretLegacy table with
    | .ok (_, after) => (notification.completed? table).toList ++ completions rest after
    | .error _ => []

def closingCall (download : UInt32 × UInt8) : Call :=
  .legacyFileControl download.1 (outboundSide .receive) download.2 finishedControl

theorem calls_closes (table : Table) (notification : Notification) :
    (closes table notification).map Outbound.call =
      (notification.completed? table).toList.map closingCall := by
  cases notification with
  | legacyFileData friend index data =>
    cases hl : table.get? friend (.unify .receive index) with
    | none => simp [closes, Notification.completed?, Notification.completes, hl]
    | some live =>
      by_cases hd : live.position + UInt64.ofNat data.length = live.size
      · simp [closes, Notification.completed?, Notification.completes, hl, hd, closing, closingCall,
          Outbound.call]
      · simp [closes, Notification.completed?, Notification.completes, hl, hd]
  | _ => rfl

/-- What the engine is owed after notifications is what it was owed before, and to be told of every
download that they completed. -/
theorem calls_of_translated {transfers after : Option Table} {notifications : List Notification}
    {events : List Event} (h : Notification.Translated transfers notifications events after)
    {table : Table} (ht : transfers = some table) :
    (HeldSession.owed after).map Outbound.call =
      table.outbound.map Outbound.call ++ (completions notifications table).map closingCall := by
  induction h generalizing table with
  | nil =>
    subst ht
    exact (List.append_nil _).symm
  | @cons _ between _ notification rest block more hi _ ih =>
    subst ht
    obtain ⟨⟨found, next⟩, hl, he⟩ := Notification.map_ok_iff.mp hi
    cases he
    rw [ih rfl, outbound_of_notice hl, List.map_append, calls_closes, completions, hl,
      List.map_append, List.append_assoc]

namespace HeldSession

variable {ε α β : Type}

/-! ## Nothing is owed between requests -/

/-- The operation leaves what the engine is owed as it was. -/
def KeepsOwed (operation : Held ε α) : Prop :=
  ∀ held, owed (operation held).state.transfers = owed held.transfers

private theorem Still.keepsOwed {operation : Held ε α} (still : Still operation) :
    KeepsOwed operation := by
  intro held
  rw [still held]

theorem KeepsOwed.bind {first : Held ε α} {next : α → Held ε β} (hf : KeepsOwed first)
    (hn : ∀ value, KeepsOwed (next value)) : KeepsOwed (first >>= next) := by
  intro held
  have hfirst := hf held
  simp only [Run.bind_apply, Run.andThen]
  split
  · exact (hn _ _).trans hfirst
  · exact hfirst
  · exact hfirst

private theorem keepsOwed_get {next : HeldSession ε → Held ε α}
    (h : ∀ held, KeepsOwed (next held)) : KeepsOwed (Run.get >>= next) :=
  fun held => h held held

private theorem keepsOwed_updateTransfers {change : Table → Table}
    (h : ∀ table, (change table).outbound = table.outbound) :
    KeepsOwed (updateTransfers (ε := ε) change) := by
  intro held
  simp only [updateTransfers, Run.modify_apply, owed]
  cases held.transfers with
  | none => rfl
  | some table => exact h table

private theorem outbound_commitControl (friend : UInt32) (file : FileId) (control : FileControl)
    (table : Table) : (table.commitControl friend file control).outbound = table.outbound := by
  unfold Table.commitControl
  split
  · exact outbound_applyControl _ _ _ _ _
  · rfl

private theorem outbound_commitChunk (friend : UInt32) (file : FileId) (length : UInt64)
    (table : Table) : (table.commitChunk friend file length).outbound = table.outbound := by
  unfold Table.commitChunk
  split <;> rfl

private theorem outbound_localSend {friend number : UInt32} {size : UInt64} {file : FileId}
    {table after : Table} (h : table.localSend friend number size = .ok (file, after)) :
    after.outbound = table.outbound := by
  simp only [Table.localSend, Table.create] at h
  split at h
  · split at h
    · cases h
    · cases h
      rfl
  · cases h

section Requests

variable [Engine ε]

private theorem keepsOwed_reported {c : Call} {operation : Operation}
    {read : c.Answer → Reported α} :
    KeepsOwed (ε := ε) (call c >>= fun answer => accept operation (read answer)) :=
  (asks_reported trivial : Asks (fun _ => True) _).still.keepsOwed

private theorem keepsOwed_fileSend (friend kind : UInt32) (size : UInt64) (name : Bytes) :
    KeepsOwed (ε := ε) (fileSend friend kind size name) := by
  refine .bind keepsOwed_reported fun number held => ?_
  simp only [Run.bind_apply, Run.get_apply, Run.andThen_ok]
  cases ht : held.transfers with
  | none => exact congrArg owed ht
  | some table =>
    cases hs : table.localSend friend number size with
    | error violation =>
      simp only [hs]
      exact congrArg owed ht
    | ok sent =>
      simp only [hs, updateTransfers, Run.modify_apply, log, Run.bind_apply, Run.andThen_ok,
        Run.pure_apply, ht]
      exact outbound_localSend hs

private theorem keepsOwed_fileControl (friend : UInt32) (file : FileId) (control : FileControl) :
    KeepsOwed (ε := ε) (fileControl friend file control) := by
  refine keepsOwed_get fun held => ?_
  split
  · exact keepsOwed_reported
  · split
    · exact fun _ => rfl
    · exact keepsOwed_reported.bind fun _ =>
        keepsOwed_updateTransfers (outbound_commitControl friend file control)

private theorem keepsOwed_fileSendChunk (friend : UInt32) (file : FileId) (position : UInt64)
    (data : Bytes) : KeepsOwed (ε := ε) (fileSendChunk friend file position data) := by
  have hcommit : KeepsOwed (ε := ε)
      (updateTransfers (·.commitChunk friend file (UInt64.ofNat data.length))) :=
    keepsOwed_updateTransfers (outbound_commitChunk friend file _)
  refine keepsOwed_get fun held => ?_
  split
  · exact keepsOwed_reported
  · dsimp only
    split
    · exact fun _ => rfl
    · split
      · exact hcommit
      · exact keepsOwed_reported.bind fun _ => hcommit

/-- Only a pass changes what the engine is owed. -/
theorem keepsOwed_perform (now : Timestamp) {request : Request} (hi : request ≠ .iterate)
    (hd : ∀ fired, request ≠ .invoke fired) : KeepsOwed (ε := ε) (request.perform now) := by
  have hanswer : ∀ {γ : Type} {operation : Held ε γ} (answer : γ → Reply),
      KeepsOwed operation → KeepsOwed (do return answer (← operation)) :=
    fun answer h => h.bind fun _ _ => rfl
  cases request with
  | iterate => exact absurd rfl hi
  | invoke fired => exact absurd rfl (hd fired)
  | fileSend friend kind size name => exact hanswer _ (keepsOwed_fileSend friend kind size name)
  | fileControl friend file control => exact hanswer _ (keepsOwed_fileControl friend file control)
  | fileSendChunk friend file position data =>
    exact hanswer _ (keepsOwed_fileSendChunk friend file position data)
  | _ => exact (asks_perform (fun _ _ => trivial) now rfl : Asks (fun _ => True) _).still.keepsOwed

end Requests

/-! ## Passes -/

section Passes

variable [Engine ε]

/-- A session keeps its transfer table, or that it has none. -/
theorem Built.isSome_transfers {may : Call → Prop} {warns : Prop} {operation : Held ε α}
    (built : Built may warns operation) (held : HeldSession ε) :
    (operation held).state.transfers.isSome = held.transfers.isSome := by
  induction built generalizing held with
  | bind _ _ hf hn =>
    have hfirst := hf held
    simp only [Run.bind_apply, Run.andThen]
    split
    · exact (hn _ _).trans hfirst
    · exact hfirst
    · exact hfirst
  | call _ =>
    simp only [HeldSession.call]
    split <;> rfl
  | updateTransfers change =>
    simp only [HeldSession.updateTransfers, Run.modify_apply]
    cases held.transfers <;> rfl
  | receive now notification =>
    simp only [HeldSession.receive]
    split
    · rename_i events transfers hi
      cases ht : held.transfers with
      | none =>
        rw [ht] at hi
        obtain ⟨event, -, he⟩ := Notification.map_ok_iff.mp hi
        cases he
        rfl
      | some table =>
        rw [ht] at hi
        obtain ⟨interpreted, -, he⟩ := Notification.map_ok_iff.mp hi
        cases he
        rfl
    · rfl
  | takeOutbound =>
    simp only [HeldSession.takeOutbound]
    cases held.transfers <;> rfl
  | requestChunks now =>
    simp only [HeldSession.requestChunks, Run.modify_apply]
    cases ht : held.transfers with
    | none => rw [ht]
    | some table => rfl
  | warnOfBacklog _ =>
    simp only [HeldSession.warnOfBacklog]
    split <;> rfl
  | _ => rfl

omit [Engine ε] in
/-- Taking notifications in neither fails nor calls the engine. -/
theorem receiveAll_apply (now : Timestamp) (notifications : List Notification)
    (held : HeldSession ε) :
    ∃ violation, (receiveAll now notifications held).outcome = .ok violation ∧
      (receiveAll now notifications held).state.engine = held.engine := by
  induction notifications generalizing held with
  | nil => exact ⟨none, rfl, rfl⟩
  | cons notification rest ih =>
    simp only [receiveAll, Run.bind_apply, receive]
    split
    · exact ih _
    · exact ⟨_, rfl, rfl⟩

/-- What a panic of the engine leaves behind is not looked at. -/
theorem dispatch_of_panics (now : Timestamp) (held : HeldSession ε)
    (notifications : List Notification) :
    (dispatch now ⟨notifications, true⟩ held).outcome = .panic ∧
      (dispatch now ⟨notifications, true⟩ held).state.engine = held.engine := by
  obtain ⟨violation, hok, hengine⟩ := receiveAll_apply now notifications held
  simp only [dispatch, Run.bind_apply, Run.andThen, hok, if_true]
  exact ⟨rfl, hengine⟩

/-- The pass makes the engine fire this, and leaves the engine `asked`. -/
inductive Hears (engine : ε) : Request → Fired → ε → Prop
  | iterate {fired : Fired} {asked : ε} : Engine.perform .iterate engine = (some fired, asked) →
    Hears engine .iterate fired asked
  | invoke (fired : Fired) : Hears engine (.invoke fired) fired engine

theorem Hears.fires {engine asked : ε} {request : Request} {notifications : List Notification}
    (hears : Hears engine request ⟨notifications, false⟩ asked) :
    Session.Fires engine request notifications asked := by
  cases hears with
  | iterate hi => exact .iterate hi
  | invoke => exact .invoke notifications

/-- A pass ends with a panic of the engine's iteration, or as what is made of what was fired. -/
theorem perform_of_pass (now : Timestamp) {request : Request}
    (pass : request = .iterate ∨ ∃ fired, request = .invoke fired) (held : HeldSession ε) :
    (∃ left, request = .iterate ∧ Engine.perform .iterate held.engine = (none, left) ∧
      (request.perform now held).outcome = .panic ∧
      (request.perform now held).state = { held with engine := left }) ∨
    ∃ fired asked, Hears held.engine request fired asked ∧
      let ran := Run.andThen (dispatch now fired { held with engine := asked })
        fun _ => pure Reply.done
      (request.perform now held).outcome = ran.outcome ∧
        (request.perform now held).state = ran.state := by
  rcases pass with rfl | ⟨fired, rfl⟩
  · rcases hi : Engine.perform .iterate held.engine with ⟨answer, left⟩
    cases answer with
    | none =>
      refine .inl ⟨left, rfl, rfl, ?_⟩
      simp only [Request.perform, iterate, Run.bind_apply, call, hi, Run.andThen_panic]
      exact ⟨trivial, trivial⟩
    | some fired =>
      refine .inr ⟨fired, left, .iterate hi, ?_⟩
      simp only [Request.perform, iterate, Run.bind_apply, call, hi, Run.andThen_ok]
      rcases dispatch now fired { held with engine := left } with ⟨outcome, state, entries⟩
      cases outcome <;> exact ⟨rfl, rfl⟩
  · exact .inr ⟨fired, held.engine, .invoke fired, rfl, rfl⟩

/-- A pass that succeeds took in what the engine fired, without a panic. -/
theorem fires_of_ok {now : Timestamp} {request : Request} {held : HeldSession ε} {reply : Reply}
    (pass : request = .iterate ∨ ∃ fired, request = .invoke fired)
    (succeeded : (request.perform now held).outcome = .ok reply) :
    ∃ notifications fired, Session.Fires held.engine request notifications fired := by
  rcases perform_of_pass now pass held with
    ⟨left, -, -, hpanic, -⟩ | ⟨⟨notifications, panics⟩, asked, hears, hout, -⟩
  · cases succeeded.symm.trans hpanic
  · cases panics with
    | false => exact ⟨notifications, asked, hears.fires⟩
    | true =>
      obtain ⟨value, hok⟩ := Run.ok_of_andThen_pure (hout.symm.trans succeeded)
      cases hok.symm.trans (dispatch_of_panics now _ notifications).1

/-- After a pass the engine is owed nothing, unless the session is disabled or breaks its lock. -/
theorem owed_dispatch (now : Timestamp) (fired : Fired) (held : HeldSession ε)
    (calm : (dispatch now fired held).outcome ≠ .panic)
    (able : (dispatch now fired held).state.violation = none) :
    owed (dispatch now fired held).state.transfers = [] := by
  obtain ⟨notifications, panics⟩ := fired
  cases panics with
  | true => exact absurd (dispatch_of_panics now held _).1 calm
  | false =>
    obtain ⟨clean, rest, events, after, rfl, htr, hrest⟩ :=
      Notification.exists_translated notifications held.transfers
    rcases hrest with rfl | ⟨notification, later, violation, rfl, hviolates⟩
    · rw [List.append_nil] at calm able ⊢
      have hsettled := dispatch_of_translated now held htr
      rcases hran : dispatch now ⟨clean, false⟩ held with ⟨outcome, state, entries⟩
      rw [hran] at hsettled calm able
      dsimp only at hsettled calm able ⊢
      obtain ⟨core, engine⟩ := state
      cases hsettled with
      | flushed warned hf =>
        dsimp only
        cases after <;> rfl
      | undocumented hu => cases able
      | panicked => exact absurd rfl calm
    · rw [(dispatch_of_violates now held htr hviolates later).2] at able
      cases able

private theorem owed_perform_of_pass (now : Timestamp) {request : Request}
    (pass : request = .iterate ∨ ∃ fired, request = .invoke fired) (held : HeldSession ε)
    (calm : (request.perform now held).outcome ≠ .panic)
    (able : (request.perform now held).state.violation = none) :
    owed (request.perform now held).state.transfers = [] := by
  rcases perform_of_pass now pass held with
    ⟨left, -, -, hpanic, -⟩ | ⟨fired, asked, -, hout, hstate⟩
  · exact absurd hpanic calm
  · rw [hstate, Run.state_andThen_pure] at able ⊢
    refine owed_dispatch now fired _ (fun hpanic => calm ?_) able
    exact hout.trans (Run.panic_andThen_pure hpanic _)

end Passes

/-! ## What a pass tells -/

/-- What the engine answers to the controls of a pass comes to this: it is told no others, and not
in another order, and all of them if the pass succeeds; and a code that is not in the catalogue is
what the pass fails with. -/
structure Telling (controls : List Call) (told : List Exchange) (outcome : Outcome CallError α) :
    Prop where
  begins : told.map (·.call) <+: controls
  all : ∀ value, outcome = .ok value → told.map (·.call) = controls
  undocumented : ∀ exchange ∈ told, ∀ code, exchange.code? = some code →
    Operation.fileControl.reason? code = none →
    outcome = .error (.bridge (.contract (.unexpectedCode Operation.fileControl.name code)))

private theorem telling_nil (outcome : Outcome CallError α) : Telling [] [] outcome :=
  ⟨List.prefix_rfl, fun _ _ => rfl, fun _ hmem => absurd hmem List.not_mem_nil⟩

/-- The controls behind one that ends the pass are not told. -/
theorem telling_singleton (exchange : Exchange) {outcome : Outcome CallError α}
    (failed : ∀ value, outcome ≠ .ok value)
    (undocumented : ∀ code, exchange.code? = some code →
      outcome = .error (.bridge (.contract (.unexpectedCode Operation.fileControl.name code))))
    (rest : List Call) : Telling (exchange.call :: rest) [exchange] outcome := by
  constructor
  · exact List.prefix_append [exchange.call] rest
  · intro value hok
    exact absurd hok (failed value)
  · intro other hmem code hcode _
    obtain rfl := List.mem_singleton.mp hmem
    exact undocumented code hcode

theorem Telling.cons {controls : List Call} {told : List Exchange}
    {outcome : Outcome CallError α} (h : Telling controls told outcome) {exchange : Exchange}
    (documented : ∀ code, exchange.code? = some code → Operation.fileControl.reason? code ≠ none) :
    Telling (exchange.call :: controls) (exchange :: told) outcome := by
  constructor
  · exact List.cons_prefix_cons.mpr ⟨rfl, h.begins⟩
  · intro value hok
    rw [List.map_cons, h.all value hok]
  · intro other hmem code hcode hnone
    rcases List.mem_cons.mp hmem with rfl | hmem
    · exact absurd hnone (documented code hcode)
    · exact h.undocumented other hmem code hcode hnone

theorem Telling.andThen {controls : List Call} {told : List Exchange}
    {ran : Ran (HeldSession ε) CallError α} (h : Telling controls told ran.outcome) (answer : β) :
    Telling controls told (Run.andThen ran fun _ => pure answer).outcome := by
  obtain ⟨outcome, state, entries⟩ := ran
  cases outcome with
  | ok value =>
    refine ⟨h.begins, fun _ _ => h.all value rfl, fun exchange hmem code hcode hnone => ?_⟩
    cases h.undocumented exchange hmem code hcode hnone
  | error cause =>
    constructor
    · exact h.begins
    · intro value hok
      cases hok
    · intro exchange hmem code hcode hnone
      cases h.undocumented exchange hmem code hcode hnone
      rfl
  | panic =>
    constructor
    · exact h.begins
    · intro value hok
      cases hok
    · intro exchange hmem code hcode hnone
      cases h.undocumented exchange hmem code hcode hnone

section Telling

variable [Engine ε]

private theorem tell_tells (controls : List Outbound) (held : HeldSession (Transcribed ε)) :
    ∃ told, (tell controls held).state.engine.exchanges = held.engine.exchanges ++ told ∧
      Telling (controls.map Outbound.call) told (tell controls held).outcome := by
  induction controls generalizing held with
  | nil => exact ⟨[], (List.append_nil _).symm, telling_nil _⟩
  | cons control rest ih =>
    rcases hp : Engine.perform control.call held.engine.engine with ⟨answer, after⟩
    have hperform := Transcribed.perform_of_answer hp
    simp only [Outbound.call] at hperform
    simp only [tell, Run.bind_apply, log, Run.andThen_ok, call, hperform]
    have hrest : ∀ exchange : Exchange, exchange.call = control.call →
        (∀ code, exchange.code? = some code → Operation.fileControl.reason? code ≠ none) →
        let asked : HeldSession (Transcribed ε) :=
          { held with engine := ⟨after, held.engine.exchanges ++ [exchange]⟩ }
        ∃ told, (tell rest asked).state.engine.exchanges = held.engine.exchanges ++ told ∧
          Telling (control.call :: rest.map Outbound.call) told (tell rest asked).outcome := by
      intro exchange hcall documented asked
      obtain ⟨told, hexchanges, htelling⟩ := ih asked
      refine ⟨exchange :: told, ?_, hcall ▸ htelling.cons documented⟩
      rw [hexchanges, List.append_assoc]
      rfl
    cases answer with
    | none =>
      refine ⟨[⟨control.call, none⟩], rfl, telling_singleton ⟨control.call, none⟩ ?_ ?_ _⟩
      · intro value hok
        cases hok
      · intro code hcode
        cases hcode
    | some reported =>
      cases reported with
      | ok value =>
        refine hrest ⟨control.call, some (.ok value)⟩ rfl ?_
        intro code hcode
        cases hcode
      | error code =>
        simp only [Run.andThen_ok]
        cases hr : Operation.fileControl.reason? code with
        | some reason =>
          refine hrest ⟨control.call, some (.error code)⟩ rfl ?_
          intro other hcode hnone
          cases hcode
          cases hr.symm.trans hnone
        | none =>
          refine ⟨[⟨control.call, some (.error code)⟩], rfl,
            telling_singleton ⟨control.call, some (.error code)⟩ ?_ ?_ _⟩
          · intro value hok
            cases hok
          · intro other hcode
            cases hcode
            rfl

private theorem settle_tells (now : Timestamp) (held : HeldSession (Transcribed ε)) :
    ∃ told, (settle now held).state.engine.exchanges = held.engine.exchanges ++ told ∧
      Telling ((owed held.transfers).map Outbound.call) told (settle now held).outcome := by
  obtain ⟨told, hexchanges, htelling⟩ := tell_tells (owed held.transfers)
    { held with transfers := held.transfers.map (·.takeOutbound.2) }
  simp only [owed] at hexchanges htelling
  simp only [settle, takeOutbound, Run.bind_apply, Run.andThen_ok]
  rcases hran : tell ((held.transfers.map (·.outbound)).getD [])
    { held with transfers := held.transfers.map (·.takeOutbound.2) } with ⟨outcome, state, entries⟩
  rw [hran] at hexchanges htelling
  refine ⟨told, ?_⟩
  rw [hran]
  cases outcome with
  | ok value =>
    obtain ⟨warned, entries, hfinish⟩ := finish_apply now state
    simp only [Run.andThen_ok, hfinish]
    exact ⟨hexchanges, htelling⟩
  | error cause => exact ⟨hexchanges, htelling⟩
  | panic => exact ⟨hexchanges, htelling⟩

def Intake (transfers : Option Table) (notifications : List Notification) (controls : List Call) :
    Prop :=
  ∃ events after, Notification.Translated transfers notifications events after ∧
    controls = (owed after).map Outbound.call

theorem dispatch_tells (now : Timestamp) (fired : Fired) (held : HeldSession (Transcribed ε)) :
    ∃ controls told,
      (dispatch now fired held).state.engine.exchanges = held.engine.exchanges ++ told ∧
        Telling controls told (dispatch now fired held).outcome ∧
        ((dispatch now fired held).outcome = .ok () →
          fired.panics = false ∧ Intake held.transfers fired.notifications controls) := by
  obtain ⟨notifications, panics⟩ := fired
  cases panics with
  | true =>
    obtain ⟨hpanic, hengine⟩ := dispatch_of_panics now held notifications
    rw [hpanic, hengine]
    refine ⟨[], [], (List.append_nil _).symm, telling_nil _, ?_⟩
    intro hok
    cases hok
  | false =>
    obtain ⟨clean, rest, events, after, rfl, htr, hrest⟩ :=
      Notification.exists_translated notifications held.transfers
    rcases hrest with rfl | ⟨notification, later, violation, rfl, hviolates⟩
    · obtain ⟨ho, hs⟩ := receiveAll_of_translated now htr []
      obtain ⟨told, hexchanges, htelling⟩ := settle_tells now
        { held with events := held.events.pushAll now events, transfers := after }
      rw [List.append_nil] at ho hs
      simp only [List.append_nil, dispatch, Run.bind_apply, Run.andThen, ho, hs]
      exact ⟨_, told, hexchanges, htelling, fun _ => ⟨trivial, events, after, htr, rfl⟩⟩
    · obtain ⟨ho, hs⟩ := dispatch_of_violates now held htr hviolates later
      rw [ho, hs]
      refine ⟨[], [], (List.append_nil _).symm, telling_nil _, ?_⟩
      intro hok
      cases hok

/-- What the engine is asked for in a pass has no code for an answer. -/
theorem Hears.exchanges {engine asked : Transcribed ε} {request : Request} {fired : Fired}
    (hears : Hears engine request fired asked) :
    ∃ heard, asked.exchanges = engine.exchanges ++ heard ∧
      ∀ exchange ∈ heard, exchange.code? = none := by
  cases hears with
  | iterate hi =>
    refine ⟨[⟨.iterate, some fired⟩], Transcribed.exchanges_of_perform hi, ?_⟩
    intro exchange hmem
    obtain rfl := List.mem_singleton.mp hmem
    rfl
  | invoke =>
    refine ⟨[], (List.append_nil _).symm, ?_⟩
    intro exchange hmem
    exact absurd hmem List.not_mem_nil

/-- What a pass asks the engine before it tells it anything has no code for an answer, and what it
tells it then are the controls that are owed after the notifications. -/
theorem perform_tells (now : Timestamp) {request : Request}
    (pass : request = .iterate ∨ ∃ fired, request = .invoke fired)
    (held : HeldSession (Transcribed ε)) :
    ∃ controls asked told,
      (request.perform now held).state.engine.exchanges =
          held.engine.exchanges ++ (asked ++ told) ∧
        (∀ exchange ∈ asked, exchange.code? = none) ∧
        Telling controls told (request.perform now held).outcome ∧
        ∀ reply, (request.perform now held).outcome = .ok reply → ∃ notifications fired,
          Session.Fires held.engine request notifications fired ∧
            fired.exchanges = held.engine.exchanges ++ asked ∧
            Intake held.transfers notifications controls := by
  rcases perform_of_pass now pass held with
    ⟨left, -, hi, hpanic, hstate⟩ | ⟨⟨notifications, panics⟩, after, hears, hout, hstate⟩
  · rw [hpanic, hstate]
    refine ⟨[], [⟨.iterate, none⟩], [], Transcribed.exchanges_of_perform hi, ?_, telling_nil _, ?_⟩
    · intro exchange hmem
      obtain rfl := List.mem_singleton.mp hmem
      rfl
    · intro reply hok
      cases hok
  · obtain ⟨asked, hasked, hcodes⟩ := hears.exchanges
    obtain ⟨controls, told, hexchanges, htelling, hok⟩ :=
      dispatch_tells now ⟨notifications, panics⟩ { held with engine := after }
    rw [hout, hstate, Run.state_andThen_pure]
    refine ⟨controls, asked, told, ?_, hcodes, htelling.andThen Reply.done, ?_⟩
    · rw [hexchanges, hasked, List.append_assoc]
    · intro reply hreply
      obtain ⟨value, hran⟩ := Run.ok_of_andThen_pure hreply
      obtain ⟨rfl, intake⟩ := hok hran
      exact ⟨notifications, after, hears.fires, hasked, intake⟩

end Telling

end HeldSession

/-! ## Sessions that owe nothing -/

/-- The session has a transfer table, and as long as it can be used its engine is owed nothing. -/
def Session.Clear {ε : Type} (session : Session ε) : Prop :=
  ∃ table, session.transfers = some table ∧
    (session.lockPoisoned = false → session.violation = none → table.outbound = [])

/-- A request leaves nothing owed. -/
theorem clear_hold {ε : Type} [Engine ε] {session : Session ε} (clear : session.Clear)
    (now : Timestamp) (request : Request) :
    (Session.hold (request.perform now) session).state.Clear := by
  obtain ⟨table, ht, houtbound⟩ := clear
  have hclear : session.Clear := ⟨table, ht, houtbound⟩
  cases hl : session.lockPoisoned with
  | true => simpa [Session.hold, hl] using hclear
  | false =>
    cases hv : session.violation with
    | some violation => simpa [Session.hold, hl, hv] using hclear
    | none =>
      cases he : session.engine with
      | none => simpa [Session.hold, hl, hv, he] using hclear
      | some engine =>
        simp only [Session.hold, hl, hv, he, Bool.false_eq_true, if_false, Option.isSome_none]
        have hsome := (HeldSession.built_request now request).isSome_transfers
          ⟨session.toCore, engine⟩
        rw [show (⟨session.toCore, engine⟩ : HeldSession ε).transfers = some table from ht,
          Option.isSome_some] at hsome
        obtain ⟨after, hafter⟩ := Option.isSome_iff_exists.mp hsome
        refine ⟨after, hafter, fun hsound hable => ?_⟩
        have howed :
            HeldSession.owed (request.perform now ⟨session.toCore, engine⟩).state.transfers =
              after.outbound := by
          rw [hafter]
          rfl
        rw [← howed]
        by_cases pass : request = .iterate ∨ ∃ fired, request = .invoke fired
        · refine HeldSession.owed_perform_of_pass now pass _ (fun hpanic => ?_) hable
          rw [hpanic] at hsound
          cases hsound
        · have hkeeps := HeldSession.keepsOwed_perform (ε := ε) now (fun e => pass (.inl e))
            (fun fired e => pass (.inr ⟨fired, e⟩)) ⟨session.toCore, engine⟩
          rw [hkeeps,
            show (⟨session.toCore, engine⟩ : HeldSession ε).transfers = some table from ht]
          exact houtbound hl hv

theorem clear_drain {ε : Type} {session : Session ε} (clear : session.Clear) :
    (Session.drain session).state.Clear := by
  unfold Session.drain
  split
  · exact clear
  · exact clear

end Switchboard
