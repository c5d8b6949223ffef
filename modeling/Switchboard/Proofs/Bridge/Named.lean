import Switchboard.Proofs.Bridge.Accomplished
import Switchboard.Proofs.Bridge.Passes
import Switchboard.Proofs.Transfer.Named
/-!
# The transfer that is named, in a run

In every run, a control or a chunk of the caller reaches the engine for the transfer it names and
for no other, and whatever the peer or the caller does to one transfer leaves the others as they
were (`only_named_touched`).
-/

namespace Switchboard

open Transfer

namespace Bridge

variable {φ ε : Type} [Engine ε] {handle : Handle}

/-- What a request about one transfer does to a session with this table. -/
structure Aimed (handle : Handle) (table : Table) (friend : UInt32) (file : FileId)
    (request : Request) (before : Bridge φ (Recorded ε))
    (ran : Ran (Bridge φ (Recorded ε)) CallError Reply) : Prop where
  /-- The engine is called for the transfer that is live under the identifier, in the direction and
  at the index that the identifier folds together, or not at all; if the session can be used, for
  all that the table lets through. -/
  calls : ∃ calls,
    (engine? handle ran.state).map (·.calls) = (engine? handle before).map (·.calls ++ calls) ∧
    (calls = [] ∨ ∃ live index, table.get? friend file = some live ∧
      file = .unify live.direction index ∧ request.Applies live.direction ∧
      calls = request.callFor live.direction index) ∧
    ((∃ held, before.registry.Usable handle held) → calls = request.calls table)
  /-- Where nothing is live that the request can be made of, it is told so. -/
  missing : (∀ live, table.get? friend file = some live → ¬ request.Applies live.direction) →
    (∃ held, before.registry.Usable handle held) →
    ∃ operation, request.operation? = some operation ∧
      ran.outcome = .error (.failed ⟨operation, .transferNotFound⟩)
  others : ∃ after, table? handle ran.state = some after ∧
    Table.SameElsewhere friend file table after

private theorem aimed_request {bridge : Bridge φ (Recorded ε)} {table : Table}
    (ht : table? handle bridge = some table) (sound : table.Sound) (now : Timestamp)
    {request : Request} {friend : UInt32} {file : FileId} (named : request.Names friend file) :
    Aimed handle table friend file request bridge (Bridge.request now handle request bridge) := by
  by_cases h : ∃ held, bridge.registry.Usable handle held
  · obtain ⟨held, usable⟩ := h
    obtain ⟨hout, -, broken, -, hoccupant⟩ := request_of_usable usable now request
    have hheld := transfers_of_usable usable ht
    refine ⟨⟨request.calls table, ?_, Request.calls_of_named sound named, fun _ => rfl⟩, ?_, ?_⟩
    · rw [engine?, engine?, hoccupant, usable.occupant]
      exact congrArg some (HeldSession.calls_perform_of_named now hheld named)
    · intro missing _
      obtain ⟨operation, hoperation, refused⟩ := Request.refused_of_named sound named missing
      refine ⟨operation, hoperation, hout.trans ?_⟩
      rw [HeldSession.perform_of_refused now (hheld ▸ refused)]
    · rw [table?, hoccupant]
      exact HeldSession.sameElsewhere_of_perform now hheld usable.able sound.sorted named
  · have hsame := (request_of_unusable (fun held usable => h ⟨held, usable⟩) now request).2
    refine ⟨⟨[], ?_, .inl rfl, fun usable => absurd usable h⟩, fun _ usable => absurd usable h,
      table, ?_, .refl _ _ _⟩
    · simp only [hsame, List.append_nil]
    · rw [hsame, ht]

/-- In every run and at each of its moments, a control that comes back for a live transfer meets the
same transfer, and a notification changes no transfer but the one it names. A control or a chunk of
the caller reaches the engine for the transfer it names and for no other, finds none where none is
live, and changes no transfer but this one. -/
theorem only_named_touched [Factory φ ε] {options : EngineOptions}
    {start : Bridge φ (Recorded ε)} (created : (create options start).outcome = .ok handle)
    (legacy : table? handle (create options start).state = some .empty) (actions : List Action) :
    let reached := (serve handle actions (create options start).state).bridge
    (∀ happened rest effect, moments handle actions (create options start).state =
        happened ++ rest → follow happened .empty = some effect →
      effect.table.Echoed ∧
        ∀ now notification friend file (held : HeldSession (Recorded ε)),
          held.transfers = some effect.table → Notification.Names friend file notification →
          ∃ after, (held.receive now notification).state.transfers = some after ∧
            Table.SameElsewhere friend file effect.table after) ∧
    ∀ table, table? handle reached = some table → table.Echoed ∧
      ∀ now request friend file, Request.Names friend file request →
        Aimed handle table friend file request reached
          (Bridge.request now handle request reached) := by
  constructor
  · intro happened rest effect _ hfollow
    have hsound := sound_of_follow hfollow Table.sound_empty
    refine ⟨hsound.echoed, fun now notification friend file held hheld named => ?_⟩
    exact HeldSession.sameElsewhere_of_receive now hheld hsound.sorted named
  · intro table ht
    obtain ⟨happened, rest, effect, -, hfollow, -, hentries⟩ :=
      follow_of_run created legacy actions ht
    have hsound := (sound_of_follow hfollow Table.sound_empty).of_entries hentries
    exact ⟨hsound.echoed, fun now request friend file named => aimed_request ht hsound now named⟩

def bothWays : List Action :=
  [.request .epoch (.friendAddNorequest friendKey), .request .epoch (.fileSend 0 0 5 [97]),
    passing [.legacyFileSendRequest 0 0 7 [98]]]

def bothWaysTable : Table :=
  ⟨[(⟨0, .unify .send 0⟩, .offered .send 5), (⟨0, .unify .receive 0⟩, .offered .receive 7)], []⟩

/-- The caller cancels the file that comes, and the one that is sent stays. It has nothing to cancel
where an identifier only ends in the same byte. -/
theorem only_incoming_cancelled :
    let before := (serve ⟨0, 1⟩ bothWays (create {} legacyBridge).state).bridge
    let ran := Bridge.request .epoch ⟨0, 1⟩ (.fileControl 0 (.unify .receive 0) .cancel) before
    ran.outcome = .ok .done ∧ bothWaysTable.Echoed ∧
      Aimed ⟨0, 1⟩ bothWaysTable 0 (.unify .receive 0)
        (.fileControl 0 (.unify .receive 0) .cancel) before ran ∧
      table? ⟨0, 1⟩ ran.state = some ⟨[(⟨0, .unify .send 0⟩, .offered .send 5)], []⟩ ∧
      (Bridge.request .epoch ⟨0, 1⟩ (.fileControl 0 ⟨512⟩ .cancel) before).outcome =
        .error (.failed ⟨.fileControl, .transferNotFound⟩) := by
  intro before ran
  have live : table? ⟨0, 1⟩ before = some bothWaysTable := by decide +kernel
  have gone : bothWaysTable.get? 0 ⟨512⟩ = none := by decide +kernel
  have succeeded : ran.outcome = .ok .done := by decide +kernel
  obtain ⟨held, usable, -⟩ := usable_of_ok succeeded
  obtain ⟨-, hreached⟩ := only_named_touched create_legacyBridge table?_legacyBridge bothWays
  obtain ⟨hechoed, haimed⟩ := hreached bothWaysTable live
  have hmissing := (haimed .epoch _ 0 ⟨512⟩ (.control 0 ⟨512⟩ .cancel)).missing
    (fun live hl => nomatch gone.symm.trans hl) ⟨held, usable⟩
  obtain ⟨operation, hoperation, hout⟩ := hmissing
  cases hoperation
  exact ⟨succeeded, hechoed, haimed .epoch _ 0 _ (.control 0 _ .cancel), by decide +kernel, hout⟩

end Bridge

end Switchboard
