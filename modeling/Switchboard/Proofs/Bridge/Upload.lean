import Switchboard.Proofs.Bridge.Moments
import Switchboard.Proofs.Transfer.Told
/-!
# Uploads

Once the peer has accepted a file, each pass asks for its next chunk until there is no more. A
caller that answers every request with the bytes it asks for, before another pass ends, sends the
file as it is (`upload_transmitted`).

All requests for an upload are answered, or it was asked for one chunk that was not sent yet
(`Stage`). This is what one moment preserves (`uploading_moment`), and so all of them
(`uploading_follow`).
-/

namespace Switchboard

open Transfer

namespace Moment

def isPass : Moment → Bool
  | .passed _ => true
  | _ => false

/-- If the engine is called about a transfer, it takes it. -/
def taken (table : Table) : Moment → Bool
  | .answered _ (.ok _) => true
  | .answered request _ => (request.calls table).isEmpty
  | _ => true

end Moment

namespace Transfer

/-- The turn keeps a running transfer from going on. -/
def Turn.stops : Turn → Bool
  | .controlled .pause => true
  | turn => turn.ends

/-- The turn makes something else of a transfer that waits to be accepted. -/
def Turn.starts : Turn → Bool
  | .controlled .resume => true
  | turn => turn.ends

def passes (moments : List Moment) : Nat := moments.countP Moment.isPass

def slice (content : Bytes) (position length : UInt64) : Bytes :=
  (content.drop position.toNat).take length.toNat

/-- Position and length of a chunk of a file with this many bytes, by its number. -/
def chunkOf (whole number : Nat) : UInt64 × UInt64 :=
  (UInt64.ofNat (1371 * number), UInt64.ofNat (min 1371 (whole - 1371 * number)))

/-- The chunk with this number, if the file goes on to it. -/
def requestOf (whole number : Nat) : List (UInt64 × UInt64) :=
  if 1371 * number < whole then [chunkOf whole number] else []

/-- The caller answers the requests for chunks of this transfer, those it owes and those to come,
with the bytes of the content they ask for, each before another pass ends, and sends no other chunk
of it. What it has not answered in the end is `left`. -/
def answers (content : Bytes) (friend : UInt32) (file : FileId) (left : List (UInt64 × UInt64)) :
    List (UInt64 × UInt64) → List Moment → Table → Bool
  | owed, [], _ => owed == left
  | owed, moment :: rest, table =>
    match moment.chunk? friend file with
    | none =>
      (owed.isEmpty || !moment.isPass) &&
        (moment.effect table).all fun effect =>
          answers content friend file left
            (owed ++ effect.events.filterMap (Event.requested? friend file)) rest effect.table
    | some (position, data) =>
      match owed with
      | [] => false
      | (start, length) :: later =>
        position == start && data == slice content start length &&
          (moment.effect table).all fun effect =>
            answers content friend file left later rest effect.table

/-- The chunks of a transfer that the passes ask for, one list for each pass. -/
def asksByPass (friend : UInt32) (file : FileId) :
    List Moment → Table → List (List (UInt64 × UInt64))
  | [], _ => []
  | moment :: rest, table =>
    match moment.effect table with
    | none => []
    | some effect =>
      if moment.isPass then
        effect.events.filterMap (Event.requested? friend file) ::
          asksByPass friend file rest effect.table
      else asksByPass friend file rest effect.table

/-! ### Chunks -/

section Chunks

variable {size : UInt64} {number : Nat} {content : Bytes}

private theorem toNat_position_chunkOf (h : 1371 * number < size.toNat) :
    (chunkOf size.toNat number).1.toNat = 1371 * number :=
  UInt64.toNat_ofNat_of_lt' (Nat.lt_trans h size.toNat_lt)

private theorem toNat_length_chunkOf (size : UInt64) (number : Nat) :
    (chunkOf size.toNat number).2.toNat = min 1371 (size.toNat - 1371 * number) :=
  UInt64.toNat_ofNat_of_lt' (Nat.lt_of_le_of_lt (Nat.min_le_left _ _) (by decide))

private theorem length_slice_chunkOf (whole : content.length = size.toNat)
    (h : 1371 * number < size.toNat) :
    (slice content (chunkOf size.toNat number).1 (chunkOf size.toNat number).2).length =
      min 1371 (size.toNat - 1371 * number) := by
  rw [slice, List.length_take, List.length_drop, toNat_position_chunkOf h, toNat_length_chunkOf,
    whole]
  omega

private theorem take_append_slice (h : 1371 * number < size.toNat) (content : Bytes) :
    content.take (1371 * number) ++
        slice content (chunkOf size.toNat number).1 (chunkOf size.toNat number).2 =
      content.take (1371 * number + min 1371 (size.toNat - 1371 * number)) := by
  rw [slice, toNat_position_chunkOf h, toNat_length_chunkOf, List.take_add]

end Chunks

/-! ### What one moment preserves -/

/-- How far an upload is after so many passes, of a file with so many bytes. -/
inductive Stage (whole : Nat) (live : Transfer) : Nat → List (UInt64 × UInt64) → Prop
  /-- Every request was answered. -/
  | idle {count : Nat} : live.requestPending = false →
    live.position.toNat = min (1371 * count) whole → Stage whole live count []
  /-- The request of the last pass was not answered yet. -/
  | asked {count : Nat} : 1371 * count < whole → live.requestPending = true →
    live.position.toNat = 1371 * count → Stage whole live (count + 1) [chunkOf whole count]

/-- An upload that goes on. -/
structure Uploading (size : UInt64) (count : Nat) (owed : List (UInt64 × UInt64))
    (live : Transfer) : Prop where
  direction : live.direction = .send
  running : live.progress = .running
  size_eq : live.size = size
  stage : Stage size.toNat live count owed

section Upload

variable {friend : UInt32} {index : UInt8} {size : UInt64} {content : Bytes} {count : Nat}
  {owed left : List (UInt64 × UInt64)} {live : Transfer} {table : Table}

private theorem min_maxChunk_sub {position : UInt64} {count : Nat}
    (hposition : position.toNat = 1371 * count) (h : 1371 * count < size.toNat) :
    min maxChunk (size - position) = (chunkOf size.toNat count).2 := by
  have hle : position ≤ size := UInt64.le_iff_toNat_le.mpr (by omega)
  apply UInt64.toNat.inj
  rw [toNat_length_chunkOf, Table.toNat_min_maxChunk_sub hle, hposition]

/-- A pass asks for the next chunk of an upload whose requests were all answered. -/
theorem Uploading.pass (uploading : Uploading size count [] live) :
    (Table.nextChunk? live).toList = requestOf size.toNat count ∧
      Uploading size (count + 1) (requestOf size.toNat count) (Table.asked live) := by
  obtain ⟨hdirection, hrunning, hsize, hstage⟩ := uploading
  cases hstage with
  | idle hpending hposition =>
    have hneeds : Table.needsRequest live = decide (live.position < size) := by
      simp [Table.needsRequest, hdirection, hrunning, hpending, hsize]
    by_cases hmore : 1371 * count < size.toNat
    · have hstart : live.position.toNat = 1371 * count := by omega
      have hlt : live.position < size := UInt64.lt_iff_toNat_lt.mpr (by omega)
      have hneeded : Table.needsRequest live = true := by rw [hneeds, decide_eq_true hlt]
      have hchunk : (live.position, min maxChunk (live.size - live.position)) =
          chunkOf size.toNat count := by
        rw [hsize, min_maxChunk_sub hstart hmore]
        refine Prod.ext (UInt64.toNat.inj ?_) rfl
        rw [hstart, toNat_position_chunkOf hmore]
      have hasked : Table.asked live = { live with requestPending := true } := if_pos hneeded
      have hnext : Table.nextChunk? live = some (chunkOf size.toNat count) := by
        rw [Table.nextChunk?, if_pos hneeded, hchunk]
      rw [hasked, hnext, requestOf, if_pos hmore]
      exact ⟨rfl, hdirection, hrunning, hsize, .asked hmore rfl hstart⟩
    · have hlt : ¬ live.position < size := by
        rw [UInt64.lt_iff_toNat_lt]
        omega
      have hneeded : ¬ Table.needsRequest live = true := by
        rw [hneeds, decide_eq_false hlt]
        exact Bool.false_ne_true
      have hasked : Table.asked live = live := if_neg hneeded
      have hnext : Table.nextChunk? live = none := if_neg hneeded
      rw [hasked, hnext, requestOf, if_neg hmore]
      exact ⟨rfl, hdirection, hrunning, hsize, .idle hpending (by omega)⟩

private theorem effect_of_chunk (hl : table.get? friend (.unify .send index) = some live)
    {position : UInt64} {data : Bytes}
    (fits : Table.Fits position (UInt64.ofNat data.length) live) (nonempty : data ≠ [])
    {outcome : Outcome CallError Reply}
    (taken : (Moment.answered (.fileSendChunk friend (.unify .send index) position data)
      outcome).taken table = true) :
    (Moment.answered (.fileSendChunk friend (.unify .send index) position data) outcome).effect
        table =
      some ⟨[], [.legacyFileData friend index data],
        table.put friend (.unify .send index)
          { live with
            position := live.position + UInt64.ofNat data.length
            requestPending := false }⟩ := by
  have hresolve : table.resolveChunk friend (.unify .send index) position
      (UInt64.ofNat data.length) = .ok index :=
    Table.resolveChunk_eq_ok.mpr ⟨rfl, live, hl, fits⟩
  have hcalls : Request.calls table (.fileSendChunk friend (.unify .send index) position data) =
      [.legacyFileData friend index data] := by
    simp only [Request.calls, hresolve, nonempty, if_false]
  cases outcome with
  | ok reply =>
    simp only [Moment.effect, Request.commit, hresolve, hcalls, Option.map_some,
      Table.commitChunk_of_live hl]
  | error cause =>
    simp only [Moment.taken, hcalls] at taken
    cases taken
  | panic =>
    simp only [Moment.taken, hcalls] at taken
    cases taken

/-- The bytes of a chunk are what an upload that was asked for it takes next. -/
theorem fits_of_asked {number : Nat} (running : live.progress = .running)
    (size_eq : live.size = size) (whole : content.length = size.toNat)
    (hmore : 1371 * number < size.toNat) (hposition : live.position.toNat = 1371 * number)
    {start length : UInt64} (hchunk : chunkOf size.toNat number = (start, length)) :
    Table.Fits start (UInt64.ofNat (slice content start length).length) live ∧
      slice content start length ≠ [] ∧
      (live.position + UInt64.ofNat (slice content start length).length).toNat =
        1371 * number + min 1371 (size.toNat - 1371 * number) := by
  obtain ⟨hstart, hlength⟩ := Prod.ext_iff.mp hchunk
  dsimp only at hstart hlength
  have hdata := length_slice_chunkOf whole hmore
  rw [hstart, hlength] at hdata
  have hinside : live.position.toNat + (slice content start length).length ≤ live.size.toNat := by
    rw [size_eq]
    omega
  have hfirst : start = live.position := by
    apply UInt64.toNat.inj
    rw [← hstart, toNat_position_chunkOf hmore, hposition]
  refine ⟨?_, ?_, ?_⟩
  · rw [hfirst] at hdata hinside ⊢
    apply Table.fits_of_le running
    · omega
    · exact hinside
  · apply List.ne_nil_of_length_pos
    rw [hdata]
    omega
  · rw [Table.toNat_reached hinside, hposition, hdata]

/-- The bytes that were asked for are taken, and the upload goes on behind them. -/
theorem uploading_chunk (hl : table.get? friend (.unify .send index) = some live)
    (uploading : Uploading size count owed live) (whole : content.length = size.toNat)
    {start length : UInt64} {later : List (UInt64 × UInt64)}
    (howed : owed = (start, length) :: later) {outcome : Outcome CallError Reply}
    (taken : (Moment.answered (.fileSendChunk friend (.unify .send index) start
      (slice content start length)) outcome).taken table = true) :
    ∃ effect after,
      (Moment.answered (.fileSendChunk friend (.unify .send index) start
        (slice content start length)) outcome).effect table = some effect ∧
      effect.table.get? friend (.unify .send index) = some after ∧
      Uploading size count later after ∧
      effect.events = [] ∧
      content.take live.position.toNat ++
          (effect.calls.filterMap (Call.carried? friend index)).flatten =
        content.take after.position.toNat := by
  obtain ⟨hdirection, hrunning, hsize, hstage⟩ := uploading
  cases hstage with
  | idle => cases howed
  | @asked number hmore hpending hposition =>
    obtain ⟨hchunk, hlater⟩ := List.cons.inj howed
    obtain ⟨fits, nonempty, hreached⟩ :=
      fits_of_asked hrunning hsize whole hmore hposition hchunk
    have hget := Table.get?_put friend friend (.unify .send index) (.unify .send index)
      { live with
        position := live.position + UInt64.ofNat (slice content start length).length
        requestPending := false } table
    rw [if_pos ⟨rfl, rfl⟩] at hget
    refine ⟨_, _, effect_of_chunk hl fits nonempty taken, hget,
      ⟨hdirection, hrunning, hsize, ?_⟩, rfl, ?_⟩
    · rw [← hlater]
      exact .idle rfl (by rw [hreached]; omega)
    · have hcarried : ([Call.legacyFileData friend index (slice content start length)].filterMap
          (Call.carried? friend index)).flatten = slice content start length := by
        simp [Call.carried?]
      have htake := take_append_slice hmore content
      rw [hchunk] at htake
      rw [hcarried, hreached, hposition]
      exact htake

private theorem turn_of_pass {moment : Moment} {effect : Effect}
    (h : moment.effect table = some effect) (hp : moment.isPass = true) (friend : UInt32)
    (file : FileId) : moment.turn friend file = .passed := by
  cases moment with
  | passed outcome =>
    cases outcome with
    | ok reply => rfl
    | _ => cases h
  | _ => cases hp

private theorem chunk?_of_sent {moment : Moment} {file : FileId} {position : UInt64} {data : Bytes}
    (h : moment.turn friend file = .sent position data) :
    moment.chunk? friend file = some (position, data) := by
  have hmeans := means_turn moment friend file
  rw [h] at hmeans
  obtain ⟨reply, rfl⟩ := hmeans
  simp [Moment.chunk?]

/-- Of what is no chunk of the upload, only a pass asks for anything, and nothing is sent for it. -/
theorem uploading_step {moment : Moment} {effect : Effect} (h : moment.effect table = some effect)
    (sorted : Keyed.Sorted table.entries)
    (hl : table.get? friend (.unify .send index) = some live)
    (uploading : Uploading size count owed live)
    (own : moment.chunk? friend (.unify .send index) = none)
    (prompt : moment.isPass = true → owed = [])
    (kept : (moment.turn friend (.unify .send index)).stops = false) :
    (∃ after, effect.table.get? friend (.unify .send index) = some after ∧
        after.position = live.position ∧
        Uploading size (count + if moment.isPass then 1 else 0)
          (owed ++ effect.events.filterMap (Event.requested? friend (.unify .send index))) after) ∧
      effect.events.filterMap (Event.requested? friend (.unify .send index)) =
        if moment.isPass then requestOf size.toNat count else [] := by
  have course := course_of_effect h sorted friend (.unify .send index)
  have hpossible := course.possible
  have hnext := course.next
  have hrequested := course.requested
  rw [hl] at hpossible hnext hrequested
  have hnopass : moment.turn friend (.unify .send index) ≠ .passed → moment.isPass = false := by
    intro hne
    cases hp : moment.isPass with
    | false => rfl
    | true => exact absurd (turn_of_pass h hp _ _) hne
  cases hturn : moment.turn friend (.unify .send index) with
  | untouched =>
    rw [hturn] at hnext hrequested
    rw [hrequested, hnopass (by simp [hturn])]
    simp only [Turn.requested, List.append_nil, Bool.false_eq_true, if_false, Nat.add_zero]
    exact ⟨⟨live, hnext, rfl, uploading⟩, trivial⟩
  | offered direction declared =>
    rw [hturn] at hpossible
    exact absurd hpossible (Turn.not_possible_offered _ _ _)
  | controlled control =>
    rw [hturn] at hnext hrequested kept
    cases control with
    | resume =>
      rw [hrequested, hnopass (by simp [hturn])]
      simp only [Turn.requested, List.append_nil, Bool.false_eq_true, if_false, Nat.add_zero]
      refine ⟨⟨_, hnext, rfl, uploading.direction, rfl, uploading.size_eq, ?_⟩, trivial⟩
      cases uploading.stage with
      | idle hpending hposition => exact .idle hpending hposition
      | asked hmore hpending hposition => exact .asked hmore hpending hposition
    | pause => cases kept
    | cancel => cases kept
  | finished =>
    rw [hturn] at kept
    cases kept
  | arrived data =>
    rw [hturn] at hpossible
    exact absurd hpossible (Turn.not_possible_arrived _ _)
  | sent position data =>
    rw [chunk?_of_sent hturn] at own
    cases own
  | passed =>
    have hpass : moment.isPass = true := by
      have hmeans := means_turn moment friend (.unify .send index)
      rw [hturn] at hmeans
      obtain ⟨reply, rfl⟩ := hmeans
      rfl
    rw [hturn] at hnext hrequested
    rw [prompt hpass] at uploading ⊢
    obtain ⟨hasked, hafter⟩ := uploading.pass
    rw [hrequested, hpass]
    refine ⟨⟨_, hnext, ?_, ?_⟩, hasked⟩
    · unfold Table.asked
      split <;> rfl
    · rw [Turn.requested, hasked]
      exact hafter

private theorem eq_of_chunk? {moment : Moment} {file : FileId} {position : UInt64} {data : Bytes}
    (h : moment.chunk? friend file = some (position, data)) :
    ∃ outcome, moment = .answered (.fileSendChunk friend file position data) outcome := by
  unfold Moment.chunk? at h
  split at h
  · split at h
    · rename_i hk
      cases h
      obtain ⟨rfl, rfl⟩ := hk
      exact ⟨_, rfl⟩
    · cases h
  · cases h

private theorem asksByPass_of_effect {moment : Moment} {effect : Effect}
    (h : moment.effect table = some effect) (file : FileId) (rest : List Moment) :
    asksByPass friend file (moment :: rest) table =
      if moment.isPass then
        effect.events.filterMap (Event.requested? friend file) ::
          asksByPass friend file rest effect.table
      else asksByPass friend file rest effect.table := by
  rw [asksByPass, h]

/-- What one moment makes of an upload whose requests are answered from there on. -/
theorem uploading_moment {moment : Moment} {rest : List Moment}
    (sorted : Keyed.Sorted table.entries)
    (hl : table.get? friend (.unify .send index) = some live)
    (uploading : Uploading size count owed live) (whole : content.length = size.toNat)
    (answered : answers content friend (.unify .send index) left owed (moment :: rest) table = true)
    (kept : (moment.turn friend (.unify .send index)).stops = false)
    (orderly : if (moment.chunk? friend (.unify .send index)).isSome then moment.taken table = true
      else moment.Peaceful table) :
    ∃ effect after later,
      moment.effect table = some effect ∧
      effect.table.get? friend (.unify .send index) = some after ∧
      Uploading size (count + if moment.isPass then 1 else 0) later after ∧
      answers content friend (.unify .send index) left later rest effect.table = true ∧
      effect.events.filterMap (Event.requested? friend (.unify .send index)) =
        (if moment.isPass then requestOf size.toNat count else []) ∧
      content.take live.position.toNat ++
          (effect.calls.filterMap (Call.carried? friend index)).flatten =
        content.take after.position.toNat := by
  cases hc : moment.chunk? friend (.unify .send index) with
  | some chunk =>
    obtain ⟨position, data⟩ := chunk
    rw [answers, hc] at answered
    cases howed : owed with
    | nil =>
      rw [howed] at answered
      cases answered
    | cons request later =>
      obtain ⟨start, length⟩ := request
      rw [howed] at answered
      simp only [Bool.and_eq_true, beq_iff_eq] at answered
      obtain ⟨⟨rfl, rfl⟩, hanswers⟩ := answered
      obtain ⟨outcome, rfl⟩ := eq_of_chunk? hc
      rw [hc] at orderly
      obtain ⟨effect, after, he, hafter, huploading, hnone, hcarried⟩ :=
        uploading_chunk hl uploading whole howed orderly
      rw [he] at hanswers
      refine ⟨effect, after, later, he, hafter, huploading, hanswers, ?_, hcarried⟩
      rw [hnone]
      rfl
  | none =>
    rw [answers, hc] at answered
    simp only [Bool.and_eq_true, Bool.or_eq_true, Bool.not_eq_true', List.isEmpty_iff] at answered
    obtain ⟨hprompt, hanswers⟩ := answered
    rw [hc] at orderly
    obtain ⟨effect, he⟩ := Option.isSome_iff_exists.mp orderly
    rw [he] at hanswers
    have prompt : moment.isPass = true → owed = [] := by
      intro hp
      rcases hprompt with ho | hp'
      · exact ho
      · rw [hp] at hp'
        cases hp'
    obtain ⟨⟨after, hafter, hposition, huploading⟩, hasked⟩ :=
      uploading_step he sorted hl uploading hc prompt kept
    refine ⟨effect, after, _, he, hafter, huploading, hanswers, hasked, ?_⟩
    rw [carried_of_other he hc, hposition]
    exact List.append_nil _

/-- What all moments make of it: the passes ask for one chunk after the other, and what was sent are
the bytes up to where it has come. -/
theorem uploading_follow {moments : List Moment} (sorted : Keyed.Sorted table.entries)
    (hl : table.get? friend (.unify .send index) = some live)
    (uploading : Uploading size count owed live) (whole : content.length = size.toNat)
    (answered : answers content friend (.unify .send index) left owed moments table = true)
    (kept : ∀ moment ∈ moments, (moment.turn friend (.unify .send index)).stops = false)
    (orderly : Along (fun table moment =>
      if (moment.chunk? friend (.unify .send index)).isSome then moment.taken table = true
      else moment.Peaceful table) moments table) :
    ∃ effect after,
      follow moments table = some effect ∧
      effect.table.get? friend (.unify .send index) = some after ∧
      Uploading size (count + passes moments) left after ∧
      asksByPass friend (.unify .send index) moments table =
        (List.range' count (passes moments)).map (requestOf size.toNat) ∧
      effect.events.filterMap (Event.requested? friend (.unify .send index)) =
        (asksByPass friend (.unify .send index) moments table).flatten ∧
      content.take live.position.toNat ++
          (effect.calls.filterMap (Call.carried? friend index)).flatten =
        content.take after.position.toNat := by
  induction moments generalizing table live count owed with
  | nil =>
    have hleft : owed = left := eq_of_beq answered
    rw [hleft] at uploading
    exact ⟨.still table, live, rfl, hl, uploading, rfl, rfl, List.append_nil _⟩
  | cons moment rest ih =>
    obtain ⟨hmoment, hrest⟩ := orderly
    have hpasses : passes (moment :: rest) = passes rest + if moment.isPass then 1 else 0 :=
      List.countP_cons
    obtain ⟨effect, between, later, he, hbetween, huploading, hanswers, hasked, hcarried⟩ :=
      uploading_moment sorted hl uploading whole answered (kept moment List.mem_cons_self) hmoment
    have hsorted := (course_of_effect he sorted friend (.unify .send index)).sorted
    obtain ⟨more, after, hm, hafter, hgoes, hasks, hrequests, hsent⟩ :=
      ih hsorted hbetween huploading hanswers
        (fun other ho => kept other (List.mem_cons_of_mem _ ho)) (hrest effect he)
    refine ⟨effect.append more, after, ?_, hafter, ?_, ?_, ?_, ?_⟩
    · rw [follow_cons_of_effect he, hm]
      rfl
    · rw [hpasses, Nat.add_comm (passes rest), ← Nat.add_assoc]
      exact hgoes
    · rw [asksByPass_of_effect he, hasks, hasked, hpasses]
      cases moment.isPass <;> rfl
    · rw [asksByPass_of_effect he, Effect.events_append, List.filterMap_append, hrequests, hasked]
      cases moment.isPass <;> rfl
    · rw [Effect.calls_append, List.filterMap_append, List.flatten_append, ← List.append_assoc,
        hcarried, hsent]

/-! ### Before and after -/

/-- Whatever else happens leaves a file as it was offered. -/
theorem waiting_step {moment : Moment} {effect : Effect} (h : moment.effect table = some effect)
    (sorted : Keyed.Sorted table.entries)
    (hl : table.get? friend (.unify .send index) = some (.offered .send size))
    (own : moment.chunk? friend (.unify .send index) = none)
    (patient : (moment.turn friend (.unify .send index)).starts = false) :
    effect.table.get? friend (.unify .send index) = some (.offered .send size) ∧
      effect.events.filterMap (Event.requested? friend (.unify .send index)) = [] := by
  have course := course_of_effect h sorted friend (.unify .send index)
  have hpossible := course.possible
  have hnext := course.next
  have hrequested := course.requested
  rw [hl] at hpossible hnext hrequested
  cases hturn : moment.turn friend (.unify .send index) with
  | untouched =>
    rw [hturn] at hnext hrequested
    exact ⟨hnext, hrequested⟩
  | offered direction declared =>
    rw [hturn] at hpossible
    exact absurd hpossible (Turn.not_possible_offered _ _ _)
  | controlled control =>
    rw [hturn] at hnext hrequested patient
    cases control with
    | pause => exact ⟨hnext, hrequested⟩
    | resume => cases patient
    | cancel => cases patient
  | finished =>
    rw [hturn] at patient
    cases patient
  | arrived data =>
    rw [hturn] at hpossible
    exact absurd hpossible (Turn.not_possible_arrived _ _)
  | sent position data =>
    rw [chunk?_of_sent hturn] at own
    cases own
  | passed =>
    rw [hturn] at hnext hrequested
    exact ⟨hnext, hrequested⟩

/-- Until it is accepted, a file is not asked for. -/
theorem waiting_follow {moments : List Moment} {effect : Effect}
    (h : follow moments table = some effect) (sorted : Keyed.Sorted table.entries)
    (hl : table.get? friend (.unify .send index) = some (.offered .send size))
    (patient : ∀ moment ∈ moments, (moment.turn friend (.unify .send index)).starts = false ∧
      moment.chunk? friend (.unify .send index) = none) :
    effect.table.get? friend (.unify .send index) = some (.offered .send size) ∧
      effect.events.filterMap (Event.requested? friend (.unify .send index)) = [] ∧
      effect.calls.filterMap (Call.carried? friend index) = [] := by
  induction moments generalizing table effect with
  | nil =>
    cases h
    exact ⟨hl, rfl, rfl⟩
  | cons moment rest ih =>
    obtain ⟨first, more, he, hm, rfl⟩ := split_of_follow h
    obtain ⟨hstarts, hown⟩ := patient moment List.mem_cons_self
    obtain ⟨hsame, hnone⟩ := waiting_step he sorted hl hown hstarts
    have hsorted := (course_of_effect he sorted friend (.unify .send index)).sorted
    obtain ⟨hgoes, hrequests, hcarried⟩ := ih hm hsorted hsame fun later hlater =>
      patient later (List.mem_cons_of_mem _ hlater)
    refine ⟨hgoes, ?_, ?_⟩
    · rw [Effect.events_append, List.filterMap_append, hnone, hrequests]
      rfl
    · rw [Effect.calls_append, List.filterMap_append, carried_of_other he hown, hcarried]
      rfl

/-- The peer accepts a file, and it can be asked for. -/
theorem accepted_follow {waiting : List Moment} {accepted : Effect}
    (h : follow (waiting ++ [.noticed (.legacyFileControl friend notifiedSending index
      acceptControl)]) table = some accepted) (sorted : Keyed.Sorted table.entries)
    (hl : table.get? friend (.unify .send index) = some (.offered .send size))
    (patient : ∀ moment ∈ waiting, (moment.turn friend (.unify .send index)).starts = false ∧
      moment.chunk? friend (.unify .send index) = none) :
    (∃ live, accepted.table.get? friend (.unify .send index) = some live ∧
        live.position = 0 ∧ Uploading size 0 [] live) ∧
      accepted.events.filterMap (Event.requested? friend (.unify .send index)) = [] ∧
      accepted.calls.filterMap (Call.carried? friend index) = [] := by
  obtain ⟨first, last, hf, he, rfl⟩ := split_of_last h
  obtain ⟨hwaits, hrequests, hcarried⟩ := waiting_follow hf sorted hl patient
  have course := course_of_effect he (sorted_of_follow hf sorted) friend (.unify .send index)
  have hturn : (Moment.noticed (.legacyFileControl friend notifiedSending index
      acceptControl)).turn friend (.unify .send index) = .controlled .resume := by
    simp [Moment.turn, Notification.turn, notifiedDirection, Table.forwarded?, acceptControl,
      finishedControl]
  have hnext := course.next
  have hrequested := course.requested
  rw [hwaits, hturn] at hnext hrequested
  refine ⟨⟨_, hnext, rfl, rfl, rfl, rfl, .idle rfl ?_⟩, ?_, ?_⟩
  · exact (Nat.zero_min _).symm
  · rw [Effect.events_append, List.filterMap_append, hrequests, hrequested]
    rfl
  · rw [Effect.calls_append, List.filterMap_append, hcarried, carried_of_other he rfl]
    rfl

/-- What has become of an upload after these moments, when these requests are left to answer. -/
structure Transmitted (content : Bytes) (friend : UInt32) (index : UInt8) (size : UInt64)
    (left : List (UInt64 × UInt64)) (during : List Moment) (accepted : Table) (uploaded : Effect) :
    Prop where
  /-- Each pass asks for the next chunk, as long as there is one, -/
  asks : asksByPass friend (.unify .send index) during accepted =
    (List.range (passes during)).map (requestOf size.toNat)
  /-- and nothing but the passes asks for any. -/
  requested : uploaded.events.filterMap (Event.requested? friend (.unify .send index)) =
    (asksByPass friend (.unify .send index) during accepted).flatten
  /-- The engine has the bytes of all chunks that are not left. -/
  carried : (uploaded.calls.filterMap (Call.carried? friend index)).flatten =
    content.take (1371 * (passes during - left.length))

/-- What becomes of it when the peer says that all has arrived. -/
structure Finished (friend : UInt32) (index : UInt8) (size : UInt64) (table : Table)
    (finale : List Moment) (closed : Effect) : Prop where
  /-- The caller is told by a request for nothing behind the last byte, -/
  marker : (Moment.noticed
      (.legacyFileControl friend notifiedSending index finishedControl)).effect table =
    some ⟨[.fileChunkRequest friend (.unify .send index) size 0], [],
      table.erase friend (.unify .send index)⟩
  gone : (table.erase friend (.unify .send index)).get? friend (.unify .send index) = none
  /-- and is asked for nothing else after that, unless another file is offered in its place. -/
  alone : ∀ more,
    finale = .noticed (.legacyFileControl friend notifiedSending index finishedControl) :: more →
    (∀ moment ∈ more, (moment.turn friend (.unify .send index)).opens = false) →
    closed.events.filterMap (Event.requested? friend (.unify .send index)) = [(size, 0)] ∧
      closed.table.get? friend (.unify .send index) = none

private theorem transmitted_of_uploading {during : List Moment} {uploaded : Effect}
    {after : Transfer} (uploading : Uploading size (0 + passes during) left after)
    (whole : content.length = size.toNat)
    (asks : asksByPass friend (.unify .send index) during table =
      (List.range' 0 (passes during)).map (requestOf size.toNat))
    (requested : uploaded.events.filterMap (Event.requested? friend (.unify .send index)) =
      (asksByPass friend (.unify .send index) during table).flatten)
    (carried : (uploaded.calls.filterMap (Call.carried? friend index)).flatten =
      content.take after.position.toNat) :
    Transmitted content friend index size left during table uploaded := by
  refine ⟨by rw [asks, List.range_eq_range'], requested, ?_⟩
  have hstage := uploading.stage
  rw [Nat.zero_add] at hstage
  rw [carried]
  generalize passes during = count at hstage
  cases hstage with
  | idle hpending hposition =>
    rw [hposition, List.length_nil, Nat.sub_zero, List.take_eq_take_iff, whole]
    omega
  | asked hmore hpending hposition =>
    rw [hposition]
    rfl

private theorem finished_follow (hl : table.get? friend (.unify .send index) = some live)
    (reached : live.position = size) (sorted : Keyed.Sorted table.entries) {finale : List Moment}
    {closed : Effect} (h : follow finale table = some closed) :
    Finished friend index size table finale closed := by
  have hside : notifiedDirection notifiedSending = .send := rfl
  have hl' : table.get? friend (.unify (notifiedDirection notifiedSending) index) = some live := hl
  have hmarker : (Moment.noticed
      (.legacyFileControl friend notifiedSending index finishedControl)).effect table =
      some ⟨[.fileChunkRequest friend (.unify .send index) size 0], [],
        table.erase friend (.unify .send index)⟩ := by
    simp only [Moment.effect, Notification.interpretLegacy, Table.remoteControl_of_finished hl',
      hside, reached]
  have hgone := Table.get?_erase friend friend (.unify .send index) (.unify .send index) table
  rw [if_pos ⟨rfl, rfl⟩] at hgone
  refine ⟨hmarker, hgone, ?_⟩
  rintro more rfl hmore
  rw [follow_cons_of_effect hmarker, Option.map_eq_some_iff] at h
  obtain ⟨later, hlater, rfl⟩ := h
  obtain ⟨hstays, -, hrequests⟩ := absent_of_follow hlater (sorted.erase _) hgone hmore
  refine ⟨?_, hstays⟩
  rw [Effect.events_append, List.filterMap_append, hrequests]
  simp [Event.requested?]

end Upload

end Transfer

namespace Bridge

/-- A file that the caller sends and the peer accepts is asked for chunk by chunk, one in each pass
from the one of the acceptance on, until there is no more. If the caller answers each request with
the bytes asked for before another pass ends, sends nothing else of the file, and the engine takes
what it is given, then the engine is given the whole file. When the peer then says that it has
arrived, the caller is told by one request for nothing at the end of the file, and it is gone. What
else happens must not disable the session or break its lock, nor keep the file from going on. -/
theorem upload_transmitted {φ ε : Type} [Engine ε] [Factory φ ε] {options : EngineOptions}
    {start : Bridge φ (Recorded ε)} {handle : Handle} {actions : List Action}
    {friend kind : UInt32} {index : UInt8} {size : UInt64} {name content : Bytes}
    {left : List (UInt64 × UInt64)} {before waiting during finale : List Moment}
    {offered accepted : Effect}
    (created : (create options start).outcome = .ok handle)
    (legacy : table? handle (create options start).state = some .empty)
    (run : moments handle actions (create options start).state =
      (before ++
          [.answered (.fileSend friend kind size name) (.ok (.file (.unify .send index)))]) ++
        ((waiting ++ [.noticed (.legacyFileControl friend notifiedSending index acceptControl)]) ++
          (during ++ finale)))
    (begun : follow (before ++
      [.answered (.fileSend friend kind size name) (.ok (.file (.unify .send index)))]) .empty =
        some offered)
    (acceptance : follow (waiting ++
      [.noticed (.legacyFileControl friend notifiedSending index acceptControl)]) offered.table =
        some accepted)
    (patient : ∀ moment ∈ waiting, (moment.turn friend (.unify .send index)).starts = false ∧
      moment.chunk? friend (.unify .send index) = none)
    (whole : content.length = size.toNat)
    (answered : answers content friend (.unify .send index) left [] during accepted.table = true)
    (kept : ∀ moment ∈ during, (moment.turn friend (.unify .send index)).stops = false)
    (orderly : Along (fun table moment =>
      if (moment.chunk? friend (.unify .send index)).isSome then moment.taken table = true
      else moment.Peaceful table) during accepted.table)
    (ending : ∀ uploaded, follow during accepted.table = some uploaded →
      Along Moment.Peaceful finale uploaded.table) :
    ∃ uploaded closed,
      follow during accepted.table = some uploaded ∧
      follow finale uploaded.table = some closed ∧
      accepted.events.filterMap (Event.requested? friend (.unify .send index)) = [] ∧
      accepted.calls.filterMap (Call.carried? friend index) = [] ∧
      Transmitted content friend index size left during accepted.table uploaded ∧
      (left = [] → size.toNat ≤ 1371 * passes during →
        (uploaded.calls.filterMap (Call.carried? friend index)).flatten = content ∧
          Finished friend index size uploaded.table finale closed) ∧
      Shown handle actions (create options start).state
        (offered.append (accepted.append (uploaded.append closed))) := by
  have hempty : Keyed.Sorted Table.empty.entries := Keyed.sorted_nil
  have hsorted := sorted_of_follow begun hempty
  have hoffer : offered.table.get? friend (.unify .send index) = some (.offered .send size) := by
    apply live_of_offered begun hempty
    simp [Moment.turn, Request.turn]
  obtain ⟨⟨live, hl, hzero, uploading⟩, hquiet, hnothing⟩ :=
    accepted_follow acceptance hsorted hoffer patient
  have hsorted' := sorted_of_follow acceptance hsorted
  obtain ⟨uploaded, after, hu, hafter, hgoes, hasks, hrequested, hcarried⟩ :=
    uploading_follow hsorted' hl uploading whole answered kept orderly
  have hsent : (uploaded.calls.filterMap (Call.carried? friend index)).flatten =
      content.take after.position.toNat := by
    rw [← hcarried, hzero]
    rfl
  obtain ⟨closed, hc⟩ := exists_follow_of_peaceful (ending uploaded hu)
  have htransmitted := transmitted_of_uploading hgoes whole hasks hrequested hsent
  refine ⟨uploaded, closed, hu, hc, hquiet, hnothing, htransmitted, ?_, ?_⟩
  · intro hleft hpasses
    have hreached : after.position = size := by
      have hstage := hgoes.stage
      rw [hleft, Nat.zero_add] at hstage
      generalize passes during = count at hstage hpasses
      cases hstage with
      | idle hpending hposition => exact UInt64.toNat.inj (by omega)
    refine ⟨?_, finished_follow hafter hreached (sorted_of_follow hu hsorted') hc⟩
    rw [hsent, hreached, ← whole, List.take_length]
  · apply run_of_follow created legacy
    rw [run, follow_append, begun, Option.bind_some, follow_append, acceptance, Option.bind_some,
      follow_append, hu, Option.bind_some, hc]
    rfl

/-- One byte more than a chunk holds. -/
def sampleContent : Bytes := List.replicate 1371 7 ++ [9]

/-- The caller finds a friend and offers a file, the friend accepts it, and in two passes the file
is sent and taken. -/
def twoRounds : List Action :=
  [.request .epoch (.friendAddNorequest friendKey),
    .request .epoch (.fileSend 0 0 1372 [97]),
    passing [.friendName 0 [65], .legacyFileControl 0 notifiedSending 0 acceptControl],
    .request .epoch (.fileSendChunk 0 (.unify .send 0) 0 (List.replicate 1371 7)),
    .drain, .request .epoch .iterate,
    .request .epoch (.fileSendChunk 0 (.unify .send 0) 1371 [9]),
    passing [.legacyFileControl 0 notifiedSending 0 finishedControl]]

def roundMoments : List Moment :=
  [.passed (.ok .done),
    .answered (.fileSendChunk 0 (.unify .send 0) 0 (List.replicate 1371 7)) (.ok .done),
    .passed (.ok .done),
    .answered (.fileSendChunk 0 (.unify .send 0) 1371 [9]) (.ok .done)]

def uploadTable (progress : Progress) : Table :=
  ⟨[(⟨0, .unify .send 0⟩, ⟨.send, progress, 0, 1372, false⟩)], []⟩

theorem upload_in_two_rounds :
    ∃ uploaded closed,
      Transmitted sampleContent 0 0 1372 [] roundMoments (uploadTable .running) uploaded ∧
      (uploaded.calls.filterMap (Call.carried? 0 0)).flatten = sampleContent ∧
      Finished 0 0 1372 uploaded.table
        [.noticed (.legacyFileControl 0 notifiedSending 0 finishedControl), .passed (.ok .done)]
        closed ∧
      Shown ⟨0, 1⟩ twoRounds (create {} legacyBridge).state
        (Effect.append ⟨[], [], uploadTable .paused⟩
          (Effect.append
            ⟨[.friendName 0 [65], .fileRecvControl 0 (.unify .send 0) .resume], [],
              uploadTable .running⟩
            (uploaded.append closed))) := by
  have created : (create {} legacyBridge).outcome = .ok ⟨0, 1⟩ := by decide +kernel
  have legacy : table? ⟨0, 1⟩ (create {} legacyBridge).state = some .empty := by decide +kernel
  have run : moments ⟨0, 1⟩ twoRounds (create {} legacyBridge).state =
      ([.answered (.friendAddNorequest friendKey) (.ok (.number 0))] ++
          [.answered (.fileSend 0 0 1372 [97]) (.ok (.file (.unify .send 0)))]) ++
        (([.noticed (.friendName 0 [65])] ++
            [.noticed (.legacyFileControl 0 notifiedSending 0 acceptControl)]) ++
          (roundMoments ++ [.noticed (.legacyFileControl 0 notifiedSending 0 finishedControl),
            .passed (.ok .done)])) := by decide +kernel
  have begun : follow
      ([.answered (.friendAddNorequest friendKey) (.ok (.number 0))] ++
        [.answered (.fileSend 0 0 1372 [97]) (.ok (.file (.unify .send 0)))]) .empty =
      some ⟨[], [], uploadTable .paused⟩ := by decide +kernel
  have acceptance : follow
      ([.noticed (.friendName 0 [65])] ++
        [.noticed (.legacyFileControl 0 notifiedSending 0 acceptControl)]) (uploadTable .paused) =
      some ⟨[.friendName 0 [65], .fileRecvControl 0 (.unify .send 0) .resume], [],
        uploadTable .running⟩ := by decide +kernel
  have answered : answers sampleContent 0 (.unify .send 0) [] [] roundMoments
      (uploadTable .running) = true := by decide +kernel
  have hending : (follow roundMoments (uploadTable .running)).all
      (fun uploaded => decide (Along Moment.Peaceful
        [.noticed (.legacyFileControl 0 notifiedSending 0 finishedControl), .passed (.ok .done)]
        uploaded.table)) = true := by decide +kernel
  obtain ⟨uploaded, closed, -, -, -, -, htransmitted, hfinished, hshown⟩ :=
    upload_transmitted created legacy run begun acceptance (by decide +kernel) (by decide +kernel)
      answered (by decide +kernel) (by decide +kernel) fun uploaded h => by
        rw [h] at hending
        exact of_decide_eq_true hending
  obtain ⟨hcarried, hclosed⟩ := hfinished rfl (by decide +kernel)
  exact ⟨uploaded, closed, htransmitted, hcarried, hclosed, hshown⟩

end Bridge

end Switchboard
