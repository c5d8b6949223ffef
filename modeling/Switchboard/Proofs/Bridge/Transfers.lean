import Switchboard.Proofs.Bridge.Accomplished
import Switchboard.Proofs.Transfer.Sound
/-!
# The transfers of a session

In every run, whatever the peer and the caller do and however it ends, the live transfers of a
session are sound, and each goes on until it is removed (`live_transfers_sound`).
-/

namespace Switchboard

namespace Bridge

open Transfer

variable {φ ε : Type}

section Removal

variable {handle : Handle} {bridge : Bridge φ ε} {session : Session ε}

/-- A kill takes the transfers away, unless the lock of the session is broken. -/
theorem table?_kill (serving : Serving handle session bridge) :
    Bridge.table? handle (kill handle bridge).state =
      if session.lockPoisoned then session.transfers else none := by
  obtain ⟨slot, hs, hg, -⟩ := Registry.occupant?_eq_some.mp serving.occupant
  cases hp : session.lockPoisoned with
  | false =>
    have hkilled := (Registry.kill_of_live serving.healthy serving.occupant (.inr rfl) hp).2
    simp only [kill, onRegistry, Run.onPart, Bridge.table?, hkilled]
    exact congrArg (Option.bind · _) (Registry.occupant?_setOccupant hs hg _)
  | true =>
    have hkilled := (Registry.kill_of_live_broken serving.healthy serving.occupant (.inr rfl) hp).2
    simp only [kill, onRegistry, Run.onPart, Bridge.table?, hkilled,
      Registry.occupant?_setOccupant hs hg]
    rfl

/-- A session that is not killed yet is killed by a finalize, and its slot emptied if that went
well. -/
theorem table?_finalize (serving : Serving handle session bridge) :
    Bridge.table? handle (finalize handle bridge).state =
      if session.lockPoisoned then session.transfers else none := by
  have hkilled := table?_kill serving
  have hfinal := (Registry.finalize_of_not_killed serving.healthy serving.occupant
    (show Lifecycle.active ≠ .killed by decide)).2
  cases hp : session.lockPoisoned with
  | false =>
    obtain ⟨ho, hstate⟩ := Registry.kill_of_live serving.healthy serving.occupant (.inr rfl) hp
    rw [ho] at hfinal
    obtain ⟨slot, hs, hg, -⟩ := Registry.occupant?_eq_some.mp serving.occupant
    have hfound : (Registry.kill handle bridge.registry).state.occupant? handle =
        some ⟨.killed, { session with engine := none, transfers := none }⟩ := by
      rw [hstate]
      exact Registry.occupant?_setOccupant hs hg _
    simp only [finalize, onRegistry, Run.onPart, Bridge.table?, hfinal,
      Registry.occupant?_vacate hfound]
    rfl
  | true =>
    have ho := (Registry.kill_of_live_broken serving.healthy serving.occupant (.inr rfl) hp).1
    rw [ho] at hfinal
    rw [hp] at hkilled
    rw [← hkilled]
    simp only [finalize, kill, onRegistry, Run.onPart, Bridge.table?, hfinal]

end Removal

/-- What holds of the transfers of a session in a run. -/
structure Upholds [Engine ε] (handle : Handle) (actions : List Action)
    (bridge : Bridge φ (Recorded ε)) : Prop where
  /-- The transfers that the run leaves are those that its moments lead to, before the first of them
  that has no effect. -/
  left : ∃ happened rest reached left, moments handle actions bridge = happened ++ rest ∧
    follow happened .empty = some reached ∧
    (∀ moment ∈ rest.head?, moment.effect reached.table = none) ∧
    table? handle (serve handle actions bridge).bridge = some left ∧
    left.entries = reached.table.entries ∧ left.Sound
  /-- A removal of the session leaves no others. -/
  removed : ∀ left, table? handle (kill handle (serve handle actions bridge).bridge).state =
        some left ∨
      table? handle (finalize handle (serve handle actions bridge).bridge).state = some left →
    left.Sound
  /-- They are sound at each moment, -/
  sound : ∀ first last early, moments handle actions bridge = first ++ last →
    follow first .empty = some early → early.table.Sound
  /-- and from each moment to a later one a transfer goes on, until it is offered anew. -/
  lasting : ∀ first middle last early late friend file before after,
    moments handle actions bridge = first ++ (middle ++ last) →
    (∀ moment ∈ first ++ middle, moment.Moderate) →
    follow first .empty = some early → follow middle early.table = some late →
    (∀ moment ∈ middle, (moment.turn friend file).opens = false) →
    early.table.get? friend file = some before → late.table.get? friend file = some after →
    Continues before after

/-- The live transfers of a session are sound in every run, and as long as sizes are moderate, a
transfer keeps its direction and size and does not go back until it is removed. -/
theorem live_transfers_sound [Engine ε] [Factory φ ε] {options : EngineOptions}
    {start : Bridge φ (Recorded ε)} {handle : Handle} {actions : List Action}
    (created : (create options start).outcome = .ok handle)
    (legacy : table? handle (create options start).state = some .empty) :
    Upholds handle actions (create options start).state := by
  obtain ⟨last, left, serving, htransfers, hentries⟩ :=
    (left_of_run created legacy actions).transfers
  obtain ⟨happened, rest, hsplit, hfollow, hstop⟩ :=
    exists_follow_accomplished (moments handle actions (create options start).state) .empty
  have hleft : left.Sound := (sound_of_follow hfollow Table.sound_empty).of_entries hentries
  constructor
  · refine ⟨happened, rest, _, left, hsplit, hfollow, hstop, ?_, hentries, hleft⟩
    rw [serving.table?, htransfers]
  · intro other h
    rw [table?_kill serving, table?_finalize serving, or_self, htransfers] at h
    split at h
    · cases h
      exact hleft
    · cases h
  · intro first last early _ hfirst
    exact sound_of_follow hfirst Table.sound_empty
  · intro first middle last early late friend file before after _ moderate hfirst hmiddle closed
    have hsound := sound_of_follow hfirst Table.sound_empty
    have hsmall := small_of_follow hfirst Table.sound_empty Table.small_empty fun moment hm =>
      moderate moment (List.mem_append_left _ hm)
    exact continues_of_follow hmiddle hsound hsmall
      (fun moment hm => moderate moment (List.mem_append_right _ hm)) closed

/-- The caller sends all of a file but its last byte, and two of five bytes have come of another. -/
def halfway : List Action :=
  [.request .epoch (.friendAddNorequest friendKey),
    .request .epoch (.fileSend 0 0 1372 [97]),
    passing [.legacyFileControl 0 notifiedSending 0 acceptControl,
      .legacyFileSendRequest 4 7 5 [98], .legacyFileData 4 7 [1, 2]],
    .request .epoch (.fileSendChunk 0 (.unify .send 0) 0 (List.replicate 1371 7)),
    .drain, .request .epoch .iterate]

def halfwayMoments : List Moment :=
  [.noticed (.legacyFileControl 0 notifiedSending 0 acceptControl),
    .noticed (.legacyFileSendRequest 4 7 5 [98]), .noticed (.legacyFileData 4 7 [1, 2]),
    .passed (.ok .done),
    .answered (.fileSendChunk 0 (.unify .send 0) 0 (List.replicate 1371 7)) (.ok .done),
    .passed (.ok .done)]

def halfwayTable : Table :=
  ⟨[(⟨0, .unify .send 0⟩, ⟨.send, .running, 1371, 1372, true⟩),
    (⟨4, .unify .receive 7⟩, ⟨.receive, .running, 2, 5, false⟩)], []⟩

theorem live_transfers_halfway :
    table? ⟨0, 1⟩ (serve ⟨0, 1⟩ halfway (create {} legacyBridge).state).bridge =
        some halfwayTable ∧
      halfwayTable.Sound ∧
      Continues (.offered .send 1372) ⟨.send, .running, 1371, 1372, true⟩ := by
  have htable : table? ⟨0, 1⟩ (serve ⟨0, 1⟩ halfway (create {} legacyBridge).state).bridge =
      some halfwayTable := by decide +kernel
  have hupholds : Upholds ⟨0, 1⟩ halfway (create {} legacyBridge).state :=
    live_transfers_sound create_legacyBridge table?_legacyBridge
  obtain ⟨-, -, -, left, -, -, -, hleft, -, hsound⟩ := hupholds.left
  rw [htable, Option.some.injEq] at hleft
  subst hleft
  refine ⟨htable, hsound, ?_⟩
  have run : moments ⟨0, 1⟩ halfway (create {} legacyBridge).state =
      [.answered (.friendAddNorequest friendKey) (.ok (.number 0)),
          .answered (.fileSend 0 0 1372 [97]) (.ok (.file (.unify .send 0)))] ++
        (halfwayMoments ++ []) := by decide +kernel
  have hbegun : follow
      [.answered (.friendAddNorequest friendKey) (.ok (.number 0)),
        .answered (.fileSend 0 0 1372 [97]) (.ok (.file (.unify .send 0)))] .empty =
      some ⟨[], [], ⟨[(⟨0, .unify .send 0⟩, .offered .send 1372)], []⟩⟩ := by decide +kernel
  have hgone : follow halfwayMoments ⟨[(⟨0, .unify .send 0⟩, .offered .send 1372)], []⟩ =
      some ⟨[.fileRecvControl 0 (.unify .send 0) .resume,
          .fileRecv 4 (.unify .receive 7) 0 5 [98], .fileRecvChunk 4 (.unify .receive 7) 0 [1, 2],
          .fileChunkRequest 0 (.unify .send 0) 0 1371, .fileChunkRequest 0 (.unify .send 0) 1371 1],
        [.legacyFileData 0 0 (List.replicate 1371 7)], halfwayTable⟩ := by decide +kernel
  exact hupholds.lasting _ _ _ _ _ 0 (.unify .send 0) _ _ run (by decide +kernel) hbegun hgone
    (by decide +kernel) (by decide +kernel) (by decide +kernel)

end Bridge

end Switchboard
