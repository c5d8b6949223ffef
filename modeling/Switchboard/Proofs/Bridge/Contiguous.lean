import Switchboard.Proofs.Bridge.Offsets
import Switchboard.Proofs.Session.PassedOn
/-!
# What the engine is given of an upload

In a run, the engine takes the data of a file that its requests pass on (`accepted_serve`). As long
as the upload is live, these chunks follow each other without a gap from the first byte of the file
to the position of the upload (`upload_contiguous`).
-/

namespace Switchboard

open Transfer

/-! ## From the offer on -/

namespace Transfer

section Course

variable {friend : UInt32} {file : FileId} {table : Table} {effect : Effect} {moments : List Moment}

/-- The chunks that are not passed on have no bytes. -/
theorem total_passedOn (moments : List Moment) :
    total ((passedOn friend file moments).map (·.2)) =
      total (moments.filterMap (·.sent? friend file)) := by
  induction moments with
  | nil => rfl
  | cons moment rest ih =>
    rw [passedOn, List.filterMap_cons, List.filterMap_cons, Moment.passedOn?, Moment.sent?]
    cases moment.turn friend file with
    | sent position data =>
      by_cases hd : data = []
      · subst hd
        have hsame : total ([] :: rest.filterMap (·.sent? friend file)) =
            total (rest.filterMap (·.sent? friend file)) := by
          rw [total_cons, List.length_nil, Nat.zero_add]
        exact ih.trans hsame.symm
      · have hpassed : (Turn.sent position data).passedOn? = some (position, data) := if_neg hd
        simp only [hpassed, Turn.sent?, List.map_cons, total_cons, ← ih]
        rfl
    | _ => exact ih

/-- A transfer that is live was offered last, and not offered anew since. -/
theorem exists_opening (h : follow moments table = some effect)
    (sorted : Keyed.Sorted table.entries) (absent : table.get? friend file = none)
    {live : Transfer} (hl : effect.table.get? friend file = some live) :
    ∃ before opening during, moments = before ++ opening :: during ∧
      (opening.turn friend file).opens = true ∧
      ∀ moment ∈ during, (moment.turn friend file).opens = false := by
  cases hfound : moments.reverse.find? fun moment => (moment.turn friend file).opens with
  | none =>
    have hclosed : ∀ moment ∈ moments, (moment.turn friend file).opens = false := by
      simpa using List.find?_eq_none.mp hfound
    rw [(absent_of_follow h sorted absent hclosed).1] at hl
    cases hl
  | some opening =>
    obtain ⟨hopens, after, earlier, hsplit, hafter⟩ := List.find?_eq_some_iff_append.mp hfound
    refine ⟨earlier.reverse, opening, after.reverse, ?_, hopens, fun moment hm => ?_⟩
    · rw [← List.reverse_reverse moments, hsplit]
      simp
    · simpa using hafter moment (List.mem_reverse.mp hm)

/-- It is the caller who opens an upload. -/
theorem offer_of_opens {moment : Moment} {index : UInt8}
    (h : (moment.turn friend (.unify .send index)).opens = true) :
    ∃ kind size name,
      moment = .answered (.fileSend friend kind size name) (.ok (.file (.unify .send index))) ∧
      moment.turn friend (.unify .send index) = .offered .send size := by
  have htouches := touches_turn moment friend (.unify .send index)
  generalize moment.turn friend (.unify .send index) = turn at h htouches ⊢
  generalize hfile : FileId.unify .send index = file at htouches ⊢
  cases htouches with
  | callerOffers kind size name => exact ⟨kind, size, name, rfl, rfl⟩
  | peerOffers size name hreceive =>
    rw [hreceive] at hfile
    cases (FileId.unify_inj.mp hfile).1
  | _ => cases h

/-- An upload that is live was offered by the caller, with this size, and has gone on since. -/
theorem exists_offer {live : Transfer} (h : follow moments .empty = some effect)
    (hl : effect.table.get? friend file = some live) (send : live.direction = .send) :
    ∃ index before kind name during offered more, file = .unify .send index ∧
      moments = before ++ .answered (.fileSend friend kind live.size name) (.ok (.file file)) ::
        during ∧
      (∀ moment ∈ during, (moment.turn friend file).opens = false) ∧
      offered.Sound ∧ offered.get? friend file = some (.offered .send live.size) ∧
      follow during offered = some more ∧ more.table.get? friend file = some live := by
  have hlive := (sound_of_follow h Table.sound_empty).get? friend file live hl
  obtain ⟨index, hfile⟩ := hlive.split
  obtain rfl : file = .unify .send index := send ▸ FileId.eq_unify_of_split hfile
  obtain ⟨before, opening, during, rfl, hopens, hclosed⟩ :=
    exists_opening h Keyed.sorted_nil rfl hl
  obtain ⟨kind, size, name, rfl, hturn⟩ := offer_of_opens hopens
  rw [List.append_cons, follow_append, Option.bind_eq_some_iff] at h
  obtain ⟨reached, hreached, hmore⟩ := h
  obtain ⟨more, hduring, rfl⟩ := Option.map_eq_some_iff.mp hmore
  have hoffer := live_of_offered hreached Keyed.sorted_nil hturn
  have hsound := sound_of_follow hreached Table.sound_empty
  obtain rfl : live.size = size := (same_of_follow hduring hsound.sorted hclosed hoffer hl).2
  exact ⟨index, before, kind, name, during, reached.table, more, rfl, rfl, hclosed, hsound, hoffer,
    hduring, hl⟩

/-- Each chunk of an upload that is passed on starts behind those before it. -/
theorem passedOn_starts {size : UInt64} (h : follow moments table = some effect)
    (sound : table.Sound) (hl : table.get? friend file = some (.offered .send size))
    (room : size.toNat + 1371 < 2 ^ 64)
    (brief : ∀ data ∈ moments.filterMap (·.sent? friend file), data.length < 2 ^ 64)
    (closed : ∀ moment ∈ moments, (moment.turn friend file).opens = false)
    {earlier later : List (UInt64 × Bytes)} {chunk : UInt64 × Bytes}
    (hp : passedOn friend file moments = earlier ++ chunk :: later) :
    chunk.1.toNat = total (earlier.map (·.2)) ∧ 1 ≤ chunk.2.length ∧ chunk.2.length ≤ 1371 := by
  obtain ⟨position, data⟩ := chunk
  obtain ⟨first, rest, rfl, rfl, hrest⟩ := List.filterMap_eq_append_iff.mp hp
  obtain ⟨quiet, moment, after, rfl, hquiet, hchunk, -⟩ := List.filterMap_eq_cons_iff.mp hrest
  rw [← List.append_assoc] at h brief closed
  rw [follow_append, Option.bind_eq_some_iff] at h
  obtain ⟨reached, hreached, hmore⟩ := h
  obtain ⟨more, hmore, -⟩ := Option.map_eq_some_iff.mp hmore
  obtain ⟨here, _, hhere, -⟩ := split_of_follow hmore
  obtain ⟨hturn, hdata⟩ := Moment.passedOn?_eq_some.mp hchunk
  have hpossible := (course_of_effect hhere (sound_of_follow hreached sound).sorted friend
    file).possible
  rw [hturn] at hpossible
  obtain ⟨-, live, hlive, hfits⟩ := hpossible
  have hadvances := advances_of_follow hreached sound
    (show (offered .send size).direction = .send from rfl) room
    (fun data hd => brief data (by
      rw [List.filterMap_append]
      exact List.mem_append_left _ hd))
    (fun moment hm => closed moment (List.mem_append_left _ hm)) hl hlive
  have hposition := hadvances.position
  have hnone : passedOn friend file quiet = [] := List.filterMap_eq_nil_iff.mpr hquiet
  have hbefore : live.position.toNat = total ((passedOn friend file first).map (·.2)) := by
    rw [← total_passedOn, passedOn_append, hnone, List.append_nil] at hposition
    exact hposition.trans (Nat.zero_add _)
  have hshort : data.length < 2 ^ 64 := brief data <| List.mem_filterMap.mpr
    ⟨moment, List.mem_append_right _ List.mem_cons_self, by rw [Moment.sent?, hturn]; rfl⟩
  have hlength := UInt64.le_iff_toNat_le.mp (UInt64.not_lt.mp hfits.length_le)
  rw [UInt64.toNat_ofNat_of_lt' hshort] at hlength
  refine ⟨?_, List.length_pos_iff.mpr hdata, hlength⟩
  rw [hfits.position_eq]
  exact hbefore

end Course

end Transfer

/-! ## What the engine took -/

namespace Bridge

variable {φ ε : Type} [Engine ε] {friend : UInt32} {index : UInt8}

def Reaches (handle : Handle) (engine : ε) (bridge : Bridge φ ε) : Prop :=
  ∃ session table, Serving handle session bridge ∧ session.engine = some engine ∧
    session.transfers = some table

private theorem accepted_hold (friend : UInt32) (index : UInt8)
    {session : Session (Recorded (Transcribed ε))} {engine : Recorded (Transcribed ε)}
    {table : Table} (he : session.engine = some engine) (ht : session.transfers = some table)
    (now : Timestamp) (request : Request) :
    let ran := Session.hold (request.perform now) session
    ∃ left after, ran.state.engine = some left ∧ ran.state.transfers = some after ∧
      left.engine.accepted friend index = engine.engine.accepted friend index ++
        (passedOn friend (.unify .send index) (request.moments engine ran.outcome)).map (·.2) := by
  rcases works_or_down he ht with works | down
  · obtain ⟨-, after, hafter, -⟩ := hold_keeps works now request
    have haccepted := HeldSession.accepted_perform friend index now request
      (show (⟨session.toCore, engine⟩ : HeldSession (Recorded (Transcribed ε))).transfers =
        some table from ht)
    simp only [Session.hold, works.healthy, works.able, he, Bool.false_eq_true, if_false,
      Option.isSome_none] at hafter ⊢
    exact ⟨_, after, rfl, hafter, haccepted⟩
  · dsimp only
    rw [passedOn_of_not_granted (Request.not_granted_of_not_ok (not_ok_of_down down now request)),
      hold_of_down down]
    exact ⟨engine, table, he, ht, (List.append_nil _).symm⟩

omit [Engine ε] in
theorem Reaches.drain {handle : Handle} {engine : ε} {bridge : Bridge φ ε}
    (reaches : Reaches handle engine bridge) :
    Reaches handle engine (Bridge.drain handle bridge).state := by
  obtain ⟨session, table, serving, he, ht⟩ := reaches
  refine ⟨_, table, serving.drain.2, ?_⟩
  unfold Session.drain
  split
  · exact ⟨he, ht⟩
  · exact ⟨he, ht⟩

/-- What the engine takes of a file in a run is what the run passes on. -/
theorem accepted_serve (friend : UInt32) (index : UInt8) {handle : Handle}
    {bridge : Bridge φ (Recorded (Transcribed ε))} {engine : Recorded (Transcribed ε)}
    (actions : List Action) (reaches : Reaches handle engine bridge) :
    ∃ left, Reaches handle left (serve handle actions bridge).bridge ∧
      left.engine.accepted friend index = engine.engine.accepted friend index ++
        (passedOn friend (.unify .send index) (moments handle actions bridge)).map (·.2) := by
  induction actions generalizing bridge engine with
  | nil => exact ⟨engine, reaches, (List.append_nil _).symm⟩
  | cons action rest ih =>
    cases action with
    | request now request =>
      obtain ⟨session, table, serving, he, ht⟩ := reaches
      obtain ⟨ho, hserving⟩ := serving.request now request
      obtain ⟨asked, after, hasked, hafter, hfirst⟩ := accepted_hold friend index he ht now request
      obtain ⟨left, hleft, hrest⟩ := ih ⟨_, after, hserving, hasked, hafter⟩
      refine ⟨left, hleft, ?_⟩
      simp only [moments, serving.engine?, he, Option.map_some, Option.getD_some, ho]
      rw [passedOn_append, List.map_append, ← List.append_assoc, ← hfirst, hrest]
    | drain => exact ih reaches.drain
    | drainEncoded =>
      rw [serve_drainEncoded, moments_drainEncoded]
      exact ih reaches.drain

/-- The data of an upload that the engine of this session took. -/
def accepted (handle : Handle) (friend : UInt32) (index : UInt8)
    (bridge : Bridge φ (Recorded (Transcribed ε))) : List Bytes :=
  ((engine? handle bridge).map (·.engine.accepted friend index)).getD []

omit [Engine ε] in
theorem Reaches.accepted {handle : Handle} {engine : Recorded (Transcribed ε)}
    {bridge : Bridge φ (Recorded (Transcribed ε))} (reaches : Reaches handle engine bridge)
    (friend : UInt32) (index : UInt8) :
    accepted handle friend index bridge = engine.engine.accepted friend index := by
  obtain ⟨session, table, serving, he, -⟩ := reaches
  rw [Bridge.accepted, serving.engine?, he]
  rfl

/-- How an upload went that was offered before these actions and is live after them. -/
structure Uploaded (handle : Handle) (friend : UInt32) (index : UInt8) (live : Transfer)
    (actions : List Action) (bridge : Bridge φ (Recorded (Transcribed ε)))
    (chunks : List (UInt64 × Bytes)) : Prop where
  /-- It is the same upload: none was offered in its place. -/
  closed : ∀ moment ∈ moments handle actions bridge,
    (moment.turn friend (.unify .send index)).opens = false
  /-- These are the chunks the caller sent that were passed on, with their positions, -/
  passed : passedOn friend (.unify .send index) (moments handle actions bridge) = chunks
  /-- and the engine took their data and no other. -/
  accepted : accepted handle friend index (serve handle actions bridge).bridge =
    accepted handle friend index bridge ++ chunks.map (·.2)
  starts : ∀ earlier chunk later, chunks = earlier ++ chunk :: later →
    chunk.1.toNat = total (earlier.map (·.2))
  length : ∀ chunk ∈ chunks, 1 ≤ chunk.2.length ∧ chunk.2.length ≤ 1371
  position : total (chunks.map (·.2)) = live.position.toNat
  inside : total (chunks.map (·.2)) ≤ live.size.toNat

/-- What the moments of a run make of an upload from its offer on. -/
theorem uploaded_of_follow {handle : Handle} {actions : List Action} {live : Transfer}
    {bridge : Bridge φ (Recorded (Transcribed ε))} {engine : Recorded (Transcribed ε)}
    {during rest : List Moment} {table : Table} {effect : Effect} {size : UInt64}
    (reaches : Reaches handle engine bridge) (run : moments handle actions bridge = during ++ rest)
    (happened : follow during table = some effect)
    (refused : ∀ moment ∈ rest, moment.granted = false) (sound : table.Sound)
    (offered : table.get? friend (.unify .send index) = some (.offered .send size))
    (room : size.toNat + 1371 < 2 ^ 64)
    (brief : ∀ data ∈ during.filterMap (·.sent? friend (.unify .send index)),
      data.length < 2 ^ 64)
    (closed : ∀ moment ∈ during, (moment.turn friend (.unify .send index)).opens = false)
    (hl : effect.table.get? friend (.unify .send index) = some live) :
    Uploaded handle friend index live actions bridge
      (passedOn friend (.unify .send index) during) := by
  have hpassed : passedOn friend (.unify .send index) (moments handle actions bridge) =
      passedOn friend (.unify .send index) during := by
    rw [run, passedOn_append, passedOn_of_not_granted refused, List.append_nil]
  have hadvances := advances_of_follow happened sound
    (show (Transfer.offered .send size).direction = .send from rfl) room brief closed offered hl
  have hposition : total ((passedOn friend (.unify .send index) during).map (·.2)) =
      live.position.toNat := by
    rw [total_passedOn, hadvances.position]
    exact (Nat.zero_add _).symm
  have hlive := (sound_of_follow happened sound).get? friend (.unify .send index) live hl
  obtain ⟨left, hleft, haccepted⟩ := accepted_serve friend index actions reaches
  refine ⟨?_, hpassed, ?_, ?_, ?_, hposition, ?_⟩
  · intro moment hm
    rw [run] at hm
    rcases List.mem_append.mp hm with hm | hm
    · exact closed moment hm
    · rw [← Bool.not_eq_true]
      intro hopens
      obtain ⟨kind, size, name, rfl, -⟩ := offer_of_opens hopens
      cases refused _ hm
  · rw [hleft.accepted, reaches.accepted, haccepted, hpassed]
  · intro earlier chunk later hsplit
    exact (passedOn_starts happened sound offered room brief closed hsplit).1
  · intro chunk hm
    obtain ⟨earlier, later, hsplit⟩ := List.mem_iff_append.mp hm
    exact (passedOn_starts happened sound offered room brief closed hsplit).2
  · rw [hposition]
    exact UInt64.le_iff_toNat_le.mp hlive.position_le

/-- What is sent in a run was sent by one of its requests. -/
theorem exists_request_of_sent {handle : Handle} {actions : List Action} {bridge : Bridge φ ε}
    {file : FileId} {data : Bytes}
    (h : data ∈ (moments handle actions bridge).filterMap (·.sent? friend file)) :
    ∃ now position, .request now (.fileSendChunk friend file position data) ∈ actions := by
  obtain ⟨moment, hm, hsent⟩ := List.mem_filterMap.mp h
  have hmeans := means_turn moment friend file
  rw [Moment.sent?] at hsent
  generalize moment.turn friend file = turn at hsent hmeans
  cases turn with
  | sent position other =>
    cases hsent
    obtain ⟨reply, rfl⟩ := hmeans
    obtain ⟨before, after, hsplit⟩ := List.mem_iff_append.mp hm
    obtain ⟨earlier, now, later, rfl, -⟩ := exists_request_of_answered hsplit
    exact ⟨now, position, List.mem_append_right _ List.mem_cons_self⟩
  | _ => cases hsent

/-- The engine is given an upload as a contiguous prefix of a file. Every upload that is live was
offered at some time; the chunks it took since are those that the caller sent, each for the position
behind those before it, and together they reach to the position of the upload. A chunk that is
refused, by the bridge or by the engine, changes nothing about any transfer. -/
theorem upload_contiguous [Factory φ ε] {options : EngineOptions}
    {start : Bridge φ (Recorded (Transcribed ε))} {handle : Handle} {actions : List Action}
    {left : Table} {file : FileId} {live : Transfer}
    (created : (create options start).outcome = .ok handle)
    (legacy : table? handle (create options start).state = some .empty)
    (brief : ∀ now other id position data,
      .request now (.fileSendChunk other id position data) ∈ actions → data.length < 2 ^ 64)
    (remains : table? handle (serve handle actions (create options start).state).bridge = some left)
    (hl : left.get? friend file = some live) (send : live.direction = .send)
    (room : live.size.toNat ≤ 2 ^ 63) :
    (∃ index earlier now kind name later chunks, file = .unify .send index ∧
        actions = earlier ++ .request now (.fileSend friend kind live.size name) :: later ∧
        let offer := Bridge.request now handle (.fileSend friend kind live.size name)
          (serve handle earlier (create options start).state).bridge
        offer.outcome = .ok (.file file) ∧
          Uploaded handle friend index live later offer.state chunks) ∧
      ∀ now other id position data,
        let sent := Bridge.request now handle (.fileSendChunk other id position data)
          (serve handle actions (create options start).state).bridge
        (∀ reply, sent.outcome ≠ .ok reply) → table? handle sent.state = some left := by
  obtain ⟨session, engine, serving, works, -⟩ := works_of_create created legacy
  obtain ⟨last, table, hserving, htransfers, hentries⟩ :=
    (left_of_run created legacy actions).transfers
  obtain rfl : table = left := by
    rw [hserving.table?, htransfers] at remains
    exact Option.some.inj remains
  constructor
  · obtain ⟨happened, rest, hrun, hfollow, hrefused⟩ := exists_granted actions serving works
    rw [Table.get?, hentries] at hl
    obtain ⟨index, before, kind, name, during, offered, more, rfl, rfl, hclosed, hsound, hoffer,
      hduring, hlive⟩ := exists_offer hfollow hl send
    rw [List.append_assoc, List.cons_append] at hrun
    obtain ⟨earlier, now, later, rfl, houtcome, -, hlater⟩ := exists_request_of_answered hrun
    obtain ⟨asked, hasked, -⟩ := accepted_serve friend index
      (earlier ++ [.request now (.fileSend friend kind live.size name)])
      ⟨session, .empty, serving, works.engine, works.transfers⟩
    rw [serve_append] at hasked
    refine ⟨index, earlier, now, kind, name, later, _, rfl, rfl, houtcome, uploaded_of_follow hasked
      hlater hduring hrefused hsound hoffer (by omega) (fun data hd => ?_) hclosed hlive⟩
    have hsent : data ∈ (during ++ rest).filterMap (·.sent? friend (.unify .send index)) := by
      rw [List.filterMap_append]
      exact List.mem_append_left _ hd
    rw [← hlater] at hsent
    obtain ⟨time, position, hrequest⟩ := exists_request_of_sent hsent
    exact brief time friend _ position data
      (List.mem_append_right _ (List.mem_cons_of_mem _ hrequest))
  · intro now other id position data
    obtain ⟨ho, hsent⟩ := hserving.request now (.fileSendChunk other id position data)
    dsimp only
    rw [ho, hsent.table?, ← htransfers]
    exact transfers_of_refused now (fun e => nomatch e) (fun _ e => nomatch e)

/-- A factory of engines that number files per direction and fail the first chunk they are given
with this code. -/
structure FailingFactory where
  code : UInt32

instance : Factory FailingFactory SimulatedEngine where
  create settings factory :=
    (.ok ((SimulatedEngine.make 1 .legacy settings).failNext .fileSendChunk factory.code), factory)

def failingBridge : Bridge FailingFactory (Recorded (Transcribed SimulatedEngine)) :=
  ⟨.empty {}, ⟨Operation.fileSendChunk.code .transferNotRunning⟩⟩

/-- The engine refuses a chunk and takes it when it is sent again. A third time it is not the next
one. -/
def sentAgain : List Action :=
  [.request .epoch (.friendAddNorequest friendKey),
    .request .epoch (.fileSend 0 0 5 [97]),
    passing [.legacyFileControl 0 notifiedSending 0 acceptControl],
    .request .epoch (.fileSendChunk 0 (.unify .send 0) 0 [1, 2]),
    .request .epoch (.fileSendChunk 0 (.unify .send 0) 0 [1, 2]), .drain,
    .request .epoch (.fileSendChunk 0 (.unify .send 0) 0 [1, 2]), .request .epoch .iterate]

theorem contiguous_when_sent_again :
    accepted ⟨0, 1⟩ 0 0 (serve ⟨0, 1⟩ sentAgain (create {} failingBridge).state).bridge =
        [[1, 2]] ∧
      (∃ earlier now kind name later chunks,
        sentAgain = earlier ++ .request now (.fileSend 0 kind 5 name) :: later ∧
        Uploaded ⟨0, 1⟩ 0 0 ⟨.send, .running, 2, 5, true⟩ later
          (Bridge.request now ⟨0, 1⟩ (.fileSend 0 kind 5 name)
            (serve ⟨0, 1⟩ earlier (create {} failingBridge).state).bridge).state chunks) ∧
      table? ⟨0, 1⟩ (Bridge.request .epoch ⟨0, 1⟩ (.fileSendChunk 0 (.unify .send 0) 0 [1, 2])
        (serve ⟨0, 1⟩ sentAgain (create {} failingBridge).state).bridge).state =
          some (answeredTable .running 2 true) := by
  have created : (create {} failingBridge).outcome = .ok ⟨0, 1⟩ := by decide +kernel
  have legacy : table? ⟨0, 1⟩ (create {} failingBridge).state = some .empty := by decide +kernel
  have remains : table? ⟨0, 1⟩ (serve ⟨0, 1⟩ sentAgain (create {} failingBridge).state).bridge =
      some (answeredTable .running 2 true) := by decide +kernel
  have live : (answeredTable .running 2 true).get? 0 (.unify .send 0) =
      some ⟨.send, .running, 2, 5, true⟩ := by decide +kernel
  have brief : ∀ now other id position data,
      .request now (.fileSendChunk other id position data) ∈ sentAgain → data.length < 2 ^ 64 := by
    intro now other id position data hm
    obtain ⟨-, -, -, -, rfl⟩ : now = .epoch ∧ other = 0 ∧ id = .unify .send 0 ∧ position = 0 ∧
        data = [1, 2] := by
      simpa [sentAgain, passing] using hm
    decide
  have again : (Bridge.request .epoch ⟨0, 1⟩ (.fileSendChunk 0 (.unify .send 0) 0 [1, 2])
      (serve ⟨0, 1⟩ sentAgain (create {} failingBridge).state).bridge).outcome =
        .error (.failed ⟨.fileSendChunk, .chunkPosition⟩) := by decide +kernel
  obtain ⟨⟨index, earlier, now, kind, name, later, chunks, hfile, hsplit, -, huploaded⟩,
    hrefused⟩ := upload_contiguous created legacy brief remains live rfl (by decide +kernel)
  obtain ⟨-, rfl⟩ := FileId.unify_inj.mp hfile
  refine ⟨by decide +kernel, ⟨earlier, now, kind, name, later, chunks, hsplit, huploaded⟩, ?_⟩
  refine hrefused _ _ _ _ _ fun reply h => ?_
  rw [again] at h
  cases h

end Bridge

end Switchboard
