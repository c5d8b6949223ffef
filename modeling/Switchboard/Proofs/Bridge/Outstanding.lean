import Switchboard.Proofs.Bridge.Closing
import Switchboard.Proofs.Bridge.Accomplished
import Switchboard.Proofs.Transfer.Named
import Switchboard.Proofs.Transfer.Outstanding
/-!
# Outstanding requests of a run

In every run, whatever chunk is outstanding was the last that the caller was asked for, and can be
sent as it was asked for. A pass that succeeds leaves no running upload with bytes to go without a
request (`requests_answerable`).
-/

namespace Switchboard

open Transfer

variable {φ ε : Type} [Engine ε]

/-- The engine is given the data of every chunk that is let through and not empty. -/
theorem HeldSession.calls_fileSendChunk (now : Timestamp) {held : HeldSession (Recorded ε)}
    {table : Table} (ht : held.transfers = some table) {friend : UInt32} {file : FileId}
    {position : UInt64} {data : Bytes} {index : UInt8}
    (through : table.resolveChunk friend file position (UInt64.ofNat data.length) = .ok index)
    (content : data ≠ []) :
    (Request.perform now (.fileSendChunk friend file position data) held).state.engine.calls =
      held.engine.calls ++ [.legacyFileData friend index data] := by
  rw [calls_perform_of_named now ht (.chunk friend file position data), Request.calls, through]
  exact congrArg _ (if_neg content)

namespace Bridge

variable {handle : Handle}

/-- The chunks that the table lets through are let through by the session. -/
theorem calls_of_resolved {bridge : Bridge φ (Recorded ε)} {held : HeldSession (Recorded ε)}
    (usable : bridge.registry.Usable handle held) {table : Table}
    (ht : table? handle bridge = some table) (now : Timestamp) {friend : UInt32} {file : FileId}
    {position : UInt64} {data : Bytes} {index : UInt8}
    (through : table.resolveChunk friend file position (UInt64.ofNat data.length) = .ok index)
    (content : data ≠ []) :
    (engine? handle
        (Bridge.request now handle (.fileSendChunk friend file position data) bridge).state).map
      (·.calls) = some (held.engine.calls ++ [.legacyFileData friend index data]) := by
  have hheld := transfers_of_usable usable ht
  obtain ⟨-, -, broken, -, hoccupant⟩ :=
    request_of_usable usable now (.fileSendChunk friend file position data)
  rw [engine?, hoccupant]
  exact congrArg some (HeldSession.calls_fileSendChunk now hheld through content)

/-! ## Passes -/

/-- What a pass that took in these notifications has asked for: chunks of the transfers that should
be asked for one after the notifications, in order of friend and file, and behind what the
notifications brought. No running upload with bytes to go is without a request. -/
structure Requesting (handle : Handle) (table : Table) (notifications : List Notification)
    (before after : Bridge φ (Recorded ε)) : Prop where
  asked : ∃ (heard : Effect) (asked : List (TransferKey × Transfer)),
    follow (notifications.map .noticed) table = some heard ∧
    (waiting handle after).map (·.event) = (waiting handle before).map (·.event) ++
      (heard.events ++ asked.map fun ask => Table.chunkRequest ask.1 ask.2) ∧
    asked.Pairwise (fun first second =>
      first.1.friend < second.1.friend ∨
        first.1.friend = second.1.friend ∧ first.1.file.raw < second.1.file.raw) ∧
    ∀ friend file live, (⟨friend, file⟩, live) ∈ asked ↔
      heard.table.get? friend file = some live ∧ Table.needsRequest live = true
  going : ∀ left friend file live, table? handle after = some left →
    left.get? friend file = some live → live.direction = .send → live.progress = .running →
    live.position < live.size → live.requestPending = true

private theorem requesting_of_pass {bridge : Bridge φ (Recorded ε)} {session : Session (Recorded ε)}
    (serving : Serving handle session bridge) {table : Table}
    (ht : session.transfers = some table) (sorted : Keyed.Sorted table.entries) {now : Timestamp}
    {request : Request} (pass : request = .iterate ∨ ∃ fired, request = .invoke fired)
    {reply : Reply} (succeeded : (Bridge.request now handle request bridge).outcome = .ok reply) :
    ∃ engine notifications fired, engine? handle bridge = some engine ∧
      Session.Fires engine request notifications fired ∧
      Requesting handle table notifications bridge
        (Bridge.request now handle request bridge).state := by
  obtain ⟨engine, notifications, fired, effect, last, left, works, fires, hfollow, hserving, hworks,
    hevents, -⟩ := effect_of_pass serving ht pass succeeded
  obtain ⟨heard, asked, hheard, hasked, hsorted, hwho⟩ := requests_of_pass hfollow sorted
  refine ⟨engine, notifications, fired, serving.engine?.trans works.engine, fires,
    ⟨heard, asked, hheard, ?_, ?_, hwho⟩, ?_⟩
  · rw [hserving.waiting, serving.waiting, hevents, EventQueue.events_pushAll, hasked]
  · exact hsorted.imp TransferKey.rank_lt_iff.mp
  · intro table friend file live hleft hl
    obtain rfl : effect.table = table :=
      Option.some.inj ((hserving.table?.trans hworks.transfers).symm.trans hleft)
    exact pending_of_pass hfollow hl

/-- In every run and at each of its moments, the last chunk that the caller was asked for of a
transfer with a request outstanding begins where the transfer has come, and while the transfer runs
the engine is given every chunk that is no longer. A pass that succeeds asks for a chunk of each
running upload with bytes to go that has no request outstanding, behind what its notifications
brought and in order of friend and file. -/
theorem requests_answerable [Factory φ ε] {options : EngineOptions}
    {start : Bridge φ (Recorded ε)} (created : (create options start).outcome = .ok handle)
    (legacy : table? handle (create options start).state = some .empty) (actions : List Action) :
    let reached := (serve handle actions (create options start).state).bridge
    let heard := (delivered handle actions (create options start).state).map (·.event)
    (∀ happened rest effect, moments handle actions (create options start).state =
        happened ++ rest → follow happened .empty = some effect →
      effect.events <+: heard ∧ Answerable effect.events effect.table) ∧
    (∀ table, table? handle reached = some table → Answerable heard table ∧
      ∀ held now friend file position data index, reached.registry.Usable handle held →
        table.resolveChunk friend file position (UInt64.ofNat data.length) = .ok index →
        data ≠ [] →
        (engine? handle (Bridge.request now handle
            (.fileSendChunk friend file position data) reached).state).map (·.calls) =
          some (held.engine.calls ++ [.legacyFileData friend index data])) ∧
    ∀ now request reply, (request = .iterate ∨ ∃ fired, request = .invoke fired) →
      (Bridge.request now handle request reached).outcome = .ok reply →
      ∃ engine table notifications fired, engine? handle reached = some engine ∧
        table? handle reached = some table ∧
        Session.Fires engine request notifications fired ∧
        Requesting handle table notifications reached
          (Bridge.request now handle request reached).state := by
  refine ⟨?_, ?_, ?_⟩
  · intro happened rest effect hsplit hfollow
    refine ⟨?_, answerable_of_follow hfollow rfl⟩
    rw [(left_of_run created legacy actions).delivered, hsplit,
      accomplished_append_of_follow hfollow]
    exact List.prefix_append _ _
  · intro table ht
    obtain ⟨happened, rest, effect, -, hfollow, hdelivered, hentries⟩ :=
      follow_of_run created legacy actions ht
    constructor
    · rw [hdelivered]
      exact answerable_of_follow hfollow hentries
    · intro held now friend file position data index usable through content
      exact calls_of_resolved usable ht now through content
  · intro now request reply pass succeeded
    obtain ⟨session, serving, table, ht, -⟩ := clear_serve created legacy actions
    obtain ⟨happened, rest, effect, -, hfollow, -, hentries⟩ :=
      follow_of_run created legacy actions (serving.table?.trans ht)
    have hsorted := hentries ▸ sorted_of_follow hfollow Keyed.sorted_nil
    obtain ⟨engine, notifications, fired, hengine, fires, requesting⟩ :=
      requesting_of_pass serving ht hsorted pass succeeded
    exact ⟨engine, table, notifications, fired, hengine, serving.table?.trans ht, fires, requesting⟩

def twoOffers : List Action :=
  [.request .epoch (.friendAddNorequest friendKey), .request .epoch (.fileSend 0 0 1372 [97]),
    .request .epoch (.fileSend 0 0 5 [98])]

def bothAccepted : List Notification :=
  [.legacyFileControl 0 notifiedSending 1 acceptControl,
    .legacyFileControl 0 notifiedSending 0 acceptControl]

/-- Both files are asked for, and the whole of the second can be sent in one chunk. -/
theorem requests_of_both :
    let before := (serve ⟨0, 1⟩ twoOffers (create {} legacyBridge).state).bridge
    let passed := Bridge.request .epoch ⟨0, 1⟩ (.invoke ⟨bothAccepted, false⟩) before
    let heard := (delivered ⟨0, 1⟩ (twoOffers ++ [passing bothAccepted])
      (create {} legacyBridge).state).map (·.event)
    passed.outcome = .ok .done ∧
      Requesting ⟨0, 1⟩
        ⟨[(⟨0, .unify .send 0⟩, .offered .send 1372), (⟨0, .unify .send 1⟩, .offered .send 5)], []⟩
        bothAccepted before passed.state ∧
      ∃ length, Outstanding heard
        ⟨[(⟨0, .unify .send 0⟩, ⟨.send, .running, 0, 1372, true⟩),
          (⟨0, .unify .send 1⟩, ⟨.send, .running, 0, 5, true⟩)], []⟩
        0 (.unify .send 1) ⟨.send, .running, 0, 5, true⟩ length := by
  intro before passed heard
  have succeeded : passed.outcome = .ok .done := by decide +kernel
  have offered : table? ⟨0, 1⟩ before = some ⟨[(⟨0, .unify .send 0⟩, .offered .send 1372),
      (⟨0, .unify .send 1⟩, .offered .send 5)], []⟩ := by decide +kernel
  have asked : table? ⟨0, 1⟩ (serve ⟨0, 1⟩ (twoOffers ++ [passing bothAccepted])
      (create {} legacyBridge).state).bridge =
        some ⟨[(⟨0, .unify .send 0⟩, ⟨.send, .running, 0, 1372, true⟩),
          (⟨0, .unify .send 1⟩, ⟨.send, .running, 0, 5, true⟩)], []⟩ := by decide +kernel
  obtain ⟨-, -, hpass⟩ :=
    requests_answerable create_legacyBridge table?_legacyBridge twoOffers
  obtain ⟨-, hleft, -⟩ := requests_answerable create_legacyBridge table?_legacyBridge
    (twoOffers ++ [passing bothAccepted])
  obtain ⟨engine, table, notifications, fired, -, htable, fires, requesting⟩ :=
    hpass .epoch (.invoke ⟨bothAccepted, false⟩) .done (.inr ⟨_, rfl⟩) succeeded
  obtain rfl := Option.some.inj (offered.symm.trans htable)
  cases fires
  exact ⟨succeeded, requesting, (hleft _ asked).1 _ _ _ (by decide +kernel) rfl⟩

end Bridge

end Switchboard
