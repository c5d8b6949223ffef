import Switchboard.Proofs.Bridge.Closing
import Switchboard.Proofs.Transfer.Lingering
/-!
# Downloads that stay in a run

In every run, all bytes of a live download have come only if it was offered empty, and each pass
that succeeds closes the downloads that are completed in it (`lingering_downloads_empty`). A
download that was offered empty stays when it is accepted (`not_every_download_closed`).
-/

namespace Switchboard

namespace Bridge

open Transfer

variable {φ ε : Type} [Engine ε] {handle : Handle}

/-! ## Passes that succeed -/

/-- A pass that took in these notifications has told the engine of the downloads that they
completed, and the caller of the end of each. -/
structure Finishes (handle : Handle) (engine : Recorded ε) (table : Table)
    (notifications : List Notification) (before after : Bridge φ (Recorded ε)) : Prop where
  told : (engine? handle after).map Recorded.transferCalls =
    some (engine.transferCalls ++ (completions notifications table).map closingCall)
  ended : ∃ events,
    (waiting handle after).map (·.event) = (waiting handle before).map (·.event) ++ events ∧
      ∀ download ∈ completions notifications table, ∃ size,
        .fileRecvChunk download.1 (.unify .receive download.2) size [] ∈ events

private theorem finishes_of_pass {bridge : Bridge φ (Recorded ε)} {session : Session (Recorded ε)}
    (serving : Serving handle session bridge) (clear : session.Clear) {now : Timestamp}
    {request : Request} (pass : request = .iterate ∨ ∃ fired, request = .invoke fired)
    {reply : Reply} (succeeded : (Bridge.request now handle request bridge).outcome = .ok reply) :
    ∃ engine table notifications fired, engine? handle bridge = some engine ∧
      table? handle bridge = some table ∧ Session.Fires engine request notifications fired ∧
      Finishes handle engine table notifications bridge
        (Bridge.request now handle request bridge).state := by
  obtain ⟨table, ht, houtbound⟩ := clear
  obtain ⟨engine, notifications, fired, effect, last, left, works, fires, hfollow, hserving, hworks,
    hevents, hcalls⟩ := effect_of_pass serving ht pass succeeded
  obtain ⟨hclosed, hends⟩ := closed_of_pass hfollow
  refine ⟨engine, table, notifications, fired, serving.engine?.trans works.engine,
    serving.table?.trans ht, fires, ?_, effect.events, ?_, hends⟩
  · rw [hserving.engine?, hworks.engine, Option.map_some, hcalls, hclosed,
      houtbound works.healthy works.able]
    rfl
  · rw [hserving.waiting, serving.waiting, hevents, EventQueue.events_pushAll]

/-! ## Live downloads -/

/-- In every run, a live download was offered by the peer with its size, and has bytes to come
exactly if that is not 0. A pass that succeeds closes the downloads that are completed in it, in
this order: the caller is given the end of each, and the engine is told. -/
theorem lingering_downloads_empty [Factory φ ε] {options : EngineOptions}
    {start : Bridge φ (Recorded ε)} (created : (create options start).outcome = .ok handle)
    (legacy : table? handle (create options start).state = some .empty) (actions : List Action) :
    let reached := (serve handle actions (create options start).state).bridge
    (∀ table friend file live, table? handle reached = some table →
      table.get? friend file = some live → live.direction = .receive →
      (live.position < live.size ↔ live.size ≠ 0) ∧
        ∃ index before name during after, file = .unify .receive index ∧
          moments handle actions (create options start).state =
            before ++ .noticed (.legacyFileSendRequest friend index live.size name) ::
              (during ++ after) ∧
          ∀ moment ∈ during, (moment.turn friend file).opens = false) ∧
      ∀ now request reply, (request = .iterate ∨ ∃ fired, request = .invoke fired) →
        (Bridge.request now handle request reached).outcome = .ok reply →
        ∃ engine table notifications fired, engine? handle reached = some engine ∧
          table? handle reached = some table ∧
          Session.Fires engine request notifications fired ∧
          Finishes handle engine table notifications reached
            (Bridge.request now handle request reached).state := by
  constructor
  · intro table friend file live ht hl incoming
    obtain ⟨happened, rest, effect, hsplit, hfollow, -, hentries⟩ :=
      follow_of_run created legacy actions ht
    have hfound : effect.table.get? friend file = some live := by
      rw [Table.get?, ← hentries]
      exact hl
    have hsound := (sound_of_follow hfollow Table.sound_empty).get? friend file live hfound
    refine ⟨hsound.lingers_iff incoming, ?_⟩
    obtain ⟨index, before, name, during, hfile, hhappened, hclosed⟩ :=
      exists_peer_offer hfollow hfound incoming
    refine ⟨index, before, name, during, rest, hfile, ?_, hclosed⟩
    rw [hsplit, hhappened, List.append_assoc]
    rfl
  · intro now request reply pass succeeded
    obtain ⟨session, serving, clear⟩ := clear_serve created legacy actions
    exact finishes_of_pass serving clear pass succeeded

def arriving : List Action :=
  [passing [.legacyFileSendRequest 4 7 5 [97], .legacyFileSendRequest 4 8 1 [98],
    .legacyFileData 4 7 [1, 2]]]

def arrivingTable : Table :=
  ⟨[(⟨4, .unify .receive 7⟩, ⟨.receive, .running, 2, 5, false⟩),
    (⟨4, .unify .receive 8⟩, ⟨.receive, .paused, 0, 1, false⟩)], []⟩

/-- The second file is closed when its one byte comes, and the first goes on. -/
theorem arriving_goes_on :
    let before := (serve ⟨0, 1⟩ arriving (create {} legacyBridge).state).bridge
    let passed := Bridge.request .epoch ⟨0, 1⟩ (.invoke ⟨[.legacyFileData 4 8 [9]], false⟩) before
    ((2 : UInt64) < 5 ↔ (5 : UInt64) ≠ 0) ∧ passed.outcome = .ok .done ∧
      ∃ engine, Finishes ⟨0, 1⟩ engine arrivingTable [.legacyFileData 4 8 [9]] before
          passed.state ∧
        completions [.legacyFileData 4 8 [9]] arrivingTable = [(4, 8)] := by
  intro before passed
  have remains : table? ⟨0, 1⟩ before = some arrivingTable := by decide +kernel
  have live :
      arrivingTable.get? 4 (.unify .receive 7) = some ⟨.receive, .running, 2, 5, false⟩ := by
    decide +kernel
  have succeeded : passed.outcome = .ok .done := by decide +kernel
  obtain ⟨hlive, hpass⟩ :=
    lingering_downloads_empty create_legacyBridge table?_legacyBridge arriving
  obtain ⟨engine, table, notifications, fired, -, htable, fires, finishes⟩ :=
    hpass .epoch (.invoke ⟨[.legacyFileData 4 8 [9]], false⟩) .done (.inr ⟨_, rfl⟩) succeeded
  obtain rfl : arrivingTable = table := Option.some.inj (remains.symm.trans htable)
  cases fires
  exact ⟨(hlive arrivingTable 4 _ _ remains live rfl).1, succeeded, _, finishes, by decide +kernel⟩

/-- The peer offers a file of no bytes, and the caller accepts it. -/
def emptyAccepted : List Action :=
  [passing [.legacyFileSendRequest 4 7 0 [97]],
    .request .epoch (.fileControl 4 (.unify .receive 7) .resume)]

/-- All bytes of the accepted file have come, and it stays after a pass that succeeds. -/
theorem not_every_download_closed :
    ¬ ∀ actions now request reply, (request = .iterate ∨ ∃ fired, request = .invoke fired) →
      let before := (serve ⟨0, 1⟩ actions (create {} legacyBridge).state).bridge
      (Bridge.request now ⟨0, 1⟩ request before).outcome = .ok reply →
      ∀ table friend file live,
        table? ⟨0, 1⟩ (Bridge.request now ⟨0, 1⟩ request before).state = some table →
        table.get? friend file = some live → live.direction = .receive →
        live.progress = .running → live.position < live.size := by
  intro closed
  have remains : table? ⟨0, 1⟩ (Bridge.request .epoch ⟨0, 1⟩ .iterate
      (serve ⟨0, 1⟩ emptyAccepted (create {} legacyBridge).state).bridge).state =
        some ⟨[(⟨4, .unify .receive 7⟩, ⟨.receive, .running, 0, 0, false⟩)], []⟩ := by
    decide +kernel
  have more := closed emptyAccepted .epoch .iterate .done (.inl rfl) (by decide +kernel) _ 4
    (.unify .receive 7) ⟨.receive, .running, 0, 0, false⟩ remains (by decide +kernel) rfl rfl
  exact absurd more (by decide)

end Bridge

end Switchboard
