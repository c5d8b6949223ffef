import Switchboard.Proofs.Bridge.Passes
/-!
# Closing controls of a run

In a run of a session that has a transfer table, each pass that succeeds tells the engine of just
the downloads that are completed in it, and leaves nothing owed (`closing_per_completion`).
-/

namespace Switchboard

namespace Bridge

variable {φ ε : Type} [Engine ε] {handle : Handle}

/-! ## What a run preserves -/

/-- What requests and drains preserve of a session holds at the end of a run. -/
theorem serve_preserves {P : Session ε → Prop}
    (requested : ∀ session now (request : Request), P session →
      P (Session.hold (request.perform now) session).state)
    (drained : ∀ session, P session → P (Session.drain session).state)
    {session : Session ε} {bridge : Bridge φ ε} (actions : List Action)
    (serving : Serving handle session bridge) (start : P session) :
    ∃ last, Serving handle last (serve handle actions bridge).bridge ∧ P last := by
  induction actions generalizing session bridge with
  | nil => exact ⟨session, serving, start⟩
  | cons action rest ih =>
    cases action with
    | request now request =>
      exact ih (serving.request now request).2 (requested session now request start)
    | drain => exact ih serving.drain.2 (drained session start)
    | drainEncoded =>
      rw [serve_drainEncoded]
      exact ih serving.drain.2 (drained session start)

/-- Whatever was done to it, a session owes its engine nothing between requests. -/
theorem clear_serve [Factory φ ε] {options : EngineOptions} {start : Bridge φ ε}
    (created : (create options start).outcome = .ok handle)
    (legacy : table? handle (create options start).state = some .empty) (actions : List Action) :
    ∃ session, Serving handle session (serve handle actions (create options start).state).bridge ∧
      session.Clear := by
  obtain ⟨session, serving, -⟩ := serving_create created
  have htransfers : session.transfers = some .empty := serving.table?.symm.trans legacy
  refine serve_preserves ?_ ?_ actions serving ⟨.empty, htransfers, fun _ _ => rfl⟩
  · exact fun _ now request clear => clear_hold clear now request
  · exact fun _ clear => clear_drain clear

/-! ## Passes -/

/-- What a pass that took in these notifications has told the engine since then is of the downloads
that they completed. A control was refused for a reason of the catalogue, if at all, and no control
waits any more. -/
structure Closes (handle : Handle) (table : Transfer.Table) (notifications : List Notification)
    (fired : Transcribed ε) (told : List Exchange) (after : Bridge φ (Transcribed ε)) : Prop where
  sent : (engine? handle after).map (·.exchanges) = some (fired.exchanges ++ told)
  calls : told.map (·.call) = (completions notifications table).map closingCall
  refused : ∀ exchange ∈ told, ∀ code, exchange.code? = some code →
    ∃ reason ∈ Operation.fileControl.catalogue, Operation.fileControl.code reason = code
  emptied : (table? handle after).map (·.outbound) = some []

section Pass

variable {bridge : Bridge φ (Transcribed ε)} {now : Timestamp} {request : Request}

private theorem closes_of_pass {session : Session (Transcribed ε)}
    (serving : Serving handle session bridge) (clear : session.Clear)
    (pass : request = .iterate ∨ ∃ fired, request = .invoke fired) {reply : Reply}
    (succeeded : (Bridge.request now handle request bridge).outcome = .ok reply) :
    ∃ engine table notifications fired told, engine? handle bridge = some engine ∧
      table? handle bridge = some table ∧ Session.Fires engine request notifications fired ∧
      Closes handle table notifications fired told
        (Bridge.request now handle request bridge).state := by
  obtain ⟨held, usable, hran, usable'⟩ := usable_of_ok succeeded
  obtain ⟨table, ht, houtbound⟩ := clear
  obtain rfl := serving.eq_of_usable usable
  have hempty : table.outbound = [] := houtbound rfl usable.able
  obtain ⟨controls, asked, told, hexchanges, -, htelling, hok⟩ :=
    HeldSession.perform_tells now pass held
  obtain ⟨notifications, fired, fires, hfired, events, after, htranslated, hcontrols⟩ :=
    hok reply hran
  refine ⟨held.engine, table, notifications, fired, told, serving.engine?,
    serving.table?.trans ht, fires, ?_, ?_, ?_, ?_⟩
  · rw [engine?, usable'.occupant, hfired, List.append_assoc]
    exact congrArg some hexchanges
  · rw [htelling.all reply hran, hcontrols, calls_of_translated htranslated ht, hempty]
    rfl
  · intro exchange hmem code hcode
    cases hr : Operation.fileControl.reason? code with
    | some reason => exact ⟨reason, Operation.reason?_eq_some_iff.mp hr⟩
    | none =>
      have hfailed := htelling.undocumented exchange hmem code hcode hr
      rw [hran] at hfailed
      cases hfailed
  · have hclear := clear_hold ⟨table, ht, houtbound⟩ now request
    rw [(serving.request now request).2.eq_of_usable usable'] at hclear
    obtain ⟨left, hleft, hsettled⟩ := hclear
    rw [table?, usable'.occupant, Option.bind_some, hleft, Option.map_some,
      hsettled rfl usable'.able]

/-- A code that the engine answers to a control is in the catalogue, or the pass fails with it and
the session is disabled. -/
theorem undocumented_of_pass (bridge : Bridge φ (Transcribed ε))
    (pass : request = .iterate ∨ ∃ fired, request = .invoke fired) :
    ∃ exchanges,
      (engine? handle (Bridge.request now handle request bridge).state).map (·.exchanges) =
          (engine? handle bridge).map (·.exchanges ++ exchanges) ∧
        ∀ exchange ∈ exchanges, ∀ code, exchange.code? = some code →
          (∀ reason ∈ Operation.fileControl.catalogue, Operation.fileControl.code reason ≠ code) →
          (Bridge.request now handle request bridge).outcome =
              .error (.bridge (.contract (.unexpectedCode "file_control" code))) ∧
            ∃ session, Disabled handle (.unexpectedCode "file_control" code) session
              (Bridge.request now handle request bridge).state := by
  by_cases h : ∃ held, bridge.registry.Usable handle held
  · obtain ⟨held, usable⟩ := h
    obtain ⟨controls, asked, told, hexchanges, hasked, htelling, -⟩ :=
      HeldSession.perform_tells now pass held
    refine ⟨asked ++ told, exchanges_request usable hexchanges, ?_⟩
    intro exchange hmem code hcode hnone
    rcases List.mem_append.mp hmem with hmem | hmem
    · rw [hasked exchange hmem] at hcode
      cases hcode
    · have hunknown := Operation.reason?_eq_none_iff.mpr hnone
      have hfailed := (request_of_usable usable now request).1.trans
        (htelling.undocumented exchange hmem code hcode hunknown)
      exact ⟨hfailed, disabled_of_returned hfailed⟩
  · have hsame := (request_of_unusable (fun held usable => h ⟨held, usable⟩) now request).2
    refine ⟨[], ?_, fun _ hmem => nomatch hmem⟩
    simp only [hsame, List.append_nil]

end Pass

/-- In every run of a session that has a transfer table, a pass that succeeds tells the engine once
of each download that was completed in it, in this order, and then owes it nothing. It makes no
difference whether a download was offered again and completed again in the pass, nor which controls
the engine refuses for a reason of the catalogue. A code that is not in the catalogue is what the
pass fails with, and disables the session. -/
theorem closing_per_completion [Factory φ ε] {options : EngineOptions}
    {start : Bridge φ (Transcribed ε)} (created : (create options start).outcome = .ok handle)
    (legacy : table? handle (create options start).state = some .empty) (actions : List Action)
    (now : Timestamp) {request : Request}
    (pass : request = .iterate ∨ ∃ fired, request = .invoke fired) :
    let before := (serve handle actions (create options start).state).bridge
    (∀ reply, (Bridge.request now handle request before).outcome = .ok reply →
      ∃ engine table notifications fired told, engine? handle before = some engine ∧
        table? handle before = some table ∧ Session.Fires engine request notifications fired ∧
        Closes handle table notifications fired told
          (Bridge.request now handle request before).state) ∧
      ∃ exchanges,
        (engine? handle (Bridge.request now handle request before).state).map (·.exchanges) =
            (engine? handle before).map (·.exchanges ++ exchanges) ∧
          ∀ exchange ∈ exchanges, ∀ code, exchange.code? = some code →
            (∀ reason ∈ Operation.fileControl.catalogue, Operation.fileControl.code reason ≠ code) →
            (Bridge.request now handle request before).outcome =
                .error (.bridge (.contract (.unexpectedCode "file_control" code))) ∧
              ∃ session, Disabled handle (.unexpectedCode "file_control" code) session
                (Bridge.request now handle request before).state := by
  obtain ⟨session, serving, clear⟩ := clear_serve created legacy actions
  refine ⟨?_, undocumented_of_pass _ pass⟩
  intro reply succeeded
  exact closes_of_pass serving clear pass succeeded

structure Copying (ε : Type) where
  engine : ε

instance {ε : Type} : Factory (Copying ε) ε where
  create _ factory := (.ok factory.engine, factory)

/-- The engines answer the first control they are told with this code. -/
def reluctant (code : UInt32) : Bridge (Copying SimulatedEngine) (Transcribed SimulatedEngine) :=
  ⟨.empty {}, ⟨Registry.sampleEngine.failNext .fileControl code⟩⟩

def twice : List Notification :=
  [.legacyFileSendRequest 4 7 1 [], .legacyFileData 4 7 [9], .legacyFileSendRequest 4 7 2 [],
    .legacyFileData 4 7 [1, 2]]

/-- The first control is refused, for the reason that the queue is full, and the second is told
nevertheless. -/
theorem closing_of_same_slot :
    (Bridge.request .epoch ⟨0, 1⟩ (.invoke ⟨twice, false⟩)
        (create {} (reluctant 7)).state).outcome = .ok .done ∧
      ∃ fired told,
        Closes ⟨0, 1⟩ .empty twice fired told (Bridge.request .epoch ⟨0, 1⟩
          (.invoke ⟨twice, false⟩) (create {} (reluctant 7)).state).state ∧
        told.map (·.call) = [.legacyFileControl 4 1 7 3, .legacyFileControl 4 1 7 3] := by
  have created : (create {} (reluctant 7)).outcome = .ok ⟨0, 1⟩ := by decide +kernel
  have legacy : table? ⟨0, 1⟩ (create {} (reluctant 7)).state = some .empty := by decide +kernel
  have succeeded : (Bridge.request .epoch ⟨0, 1⟩ (.invoke ⟨twice, false⟩)
      (create {} (reluctant 7)).state).outcome = .ok .done := by
    decide +kernel
  obtain ⟨engine, table, notifications, fired, told, -, htable, fires, closes⟩ :=
    (closing_per_completion created legacy [] .epoch (.inr ⟨⟨twice, false⟩, rfl⟩)).1 .done succeeded
  obtain rfl : .empty = table := Option.some.inj (legacy.symm.trans htable)
  cases fires
  have hcalls : (completions twice .empty).map closingCall =
      [.legacyFileControl 4 1 7 3, .legacyFileControl 4 1 7 3] := by
    decide +kernel
  exact ⟨succeeded, _, told, closes, closes.calls.trans hcalls⟩

end Bridge

end Switchboard
