import Mathlib
import Switchboard.Proofs.Transfer.Course
/-!
# What holds of every live transfer

Each turn a transfer takes leaves it sound or ends it (`sound_next`), so every table that moments
lead to is sound (`sound_of_follow`). A transfer that stays keeps its direction and size and does
not go back (`continues_of_follow`), as long as sizes are so moderate that its position cannot
overflow.
-/

namespace Switchboard

/-- The size a moment declares leaves room for one chunk more, and what it brings is no longer. -/
def Moment.Moderate : Moment → Prop
  | .noticed (.legacyFileSendRequest _ _ size _) => size.toNat ≤ 2 ^ 63
  | .noticed (.legacyFileData _ _ data) => data.length < 2 ^ 63
  | .answered (.fileSend _ _ size _) _ => size.toNat ≤ 2 ^ 63
  | _ => True

instance (moment : Moment) : Decidable moment.Moderate := by
  unfold Moment.Moderate
  split <;> infer_instance

namespace Transfer

/-- What is true of a transfer as long as it is live under this identifier. -/
structure Sound (file : FileId) (live : Transfer) : Prop where
  split : ∃ index, file.split = some (live.direction, index)
  progress : live.progress = .paused ∨ live.progress = .running
  position_le : live.position ≤ live.size
  pending : live.requestPending = true → live.direction = .send ∧ live.position < live.size
  /-- What has arrived whole is no longer live, but for a file of no bytes. -/
  incoming : live.direction = .receive → live.position = live.size → live.size = 0

/-- One is what became of the other. -/
structure Continues (before after : Transfer) : Prop where
  direction : after.direction = before.direction
  size : after.size = before.size
  position_le : before.position ≤ after.position

/-- All live transfers are sound, and each is kept under a key of its own. -/
structure Table.Sound (table : Table) : Prop where
  sorted : Keyed.Sorted table.entries
  entries : ∀ entry ∈ table.entries, Transfer.Sound entry.1.file entry.2

/-! ## One turn -/

section Turn

variable {file : FileId} {live : Transfer}

theorem Sound.direction_eq (sound : Sound file live) {direction : Direction} {index : UInt8}
    (h : file = .unify direction index) : live.direction = direction := by
  obtain ⟨other, hs⟩ := sound.split
  rw [h, FileId.split_unify] at hs
  cases hs
  rfl

private theorem sound_offered (direction : Direction) (index : UInt8) (size : UInt64) :
    Sound (.unify direction index) (offered direction size) where
  split := ⟨index, FileId.split_unify direction index⟩
  progress := .inl rfl
  position_le := UInt64.le_iff_toNat_le.mpr (Nat.zero_le _)
  pending := fun h => nomatch h
  incoming := fun _ h => h.symm

theorem Sound.asked (sound : Sound file live) : Sound file (Table.asked live) := by
  unfold Table.asked
  split
  · rename_i hneeds
    obtain ⟨hsend, -, -, hmore⟩ := Table.needsRequest_iff.mp hneeds
    exact { sound with pending := fun _ => ⟨hsend, hmore⟩ }
  · exact sound

/-- Data that is not the last leaves the transfer in front of its end. -/
theorem Sound.arrived (sound : Sound file live) {index : UInt8}
    (h : file = .unify .receive index) {data : Bytes}
    (inside : ¬ live.size < live.position + UInt64.ofNat data.length)
    (more : live.position + UInt64.ofNat data.length ≠ live.size) :
    Sound file
      { live with
        progress := if live.progress = .paused then .running else live.progress
        position := live.position + UInt64.ofNat data.length } where
  split := sound.split
  progress := by
    rcases sound.progress with hp | hp
    · exact .inr (if_pos hp)
    · exact .inr ((if_neg (by rw [hp]; decide)).trans hp)
  position_le := UInt64.not_lt.mp inside
  pending := by
    intro hpending
    obtain ⟨hsend, -⟩ := sound.pending hpending
    rw [sound.direction_eq h] at hsend
    cases hsend
  incoming := fun _ hend => absurd hend more

theorem Sound.sent (sound : Sound file live) {index : UInt8} (h : file = .unify .send index)
    {position length : UInt64} (fits : Table.Fits position length live) :
    Sound file { live with position := live.position + length, requestPending := false } where
  split := sound.split
  progress := sound.progress
  position_le := by
    have hinside := fits.inside
    rw [fits.position_eq] at hinside
    exact UInt64.not_lt.mp hinside
  pending := fun hpending => nomatch hpending
  incoming := by
    intro hreceive
    rw [sound.direction_eq h] at hreceive
    cases hreceive

/-- Whatever a sound transfer takes part in leaves it sound, or ends it. -/
theorem sound_next {turn : Turn} {before : Option Transfer} (possible : turn.Possible file before)
    (sound : ∀ transfer ∈ before, Sound file transfer) :
    ∀ transfer ∈ turn.next before, Sound file transfer := by
  intro after hafter
  cases turn with
  | untouched => exact sound after hafter
  | offered direction size =>
    obtain ⟨-, index, rfl⟩ := possible
    cases hafter
    exact sound_offered direction index size
  | finished => cases hafter
  | controlled control =>
    cases before with
    | none => cases control <;> cases hafter
    | some live =>
      have hlive := sound live rfl
      cases control with
      | resume =>
        cases hafter
        exact { hlive with progress := .inr rfl }
      | pause =>
        cases hafter
        exact { hlive with progress := .inl rfl }
      | cancel => cases hafter
  | arrived data =>
    obtain ⟨⟨index, hfile⟩, live, rfl, hinside⟩ := possible
    simp only [Turn.next] at hafter
    split at hafter
    · cases hafter
    · rename_i hmore
      cases hafter
      exact (sound live rfl).arrived hfile hinside hmore
  | sent position data =>
    obtain ⟨⟨index, hfile⟩, live, rfl, hfits⟩ := possible
    cases hafter
    exact (sound live rfl).sent hfile hfits
  | passed =>
    cases before with
    | none => cases hafter
    | some live =>
      cases hafter
      exact (sound live rfl).asked

def Turn.Moderate : Turn → Prop
  | .offered _ size => size.toNat ≤ 2 ^ 63
  | .arrived data => data.length < 2 ^ 63
  | _ => True

private theorem moderate_turn {moment : Moment} (moderate : moment.Moderate) (friend : UInt32)
    (file : FileId) : (moment.turn friend file).Moderate := by
  have htouches := touches_turn moment friend file
  generalize moment.turn friend file = turn at htouches ⊢
  cases htouches with
  | peerOffers => exact moderate
  | callerOffers => exact moderate
  | dataArrives => exact moderate
  | _ => trivial

theorem Continues.refl (live : Transfer) : Continues live live := ⟨rfl, rfl, UInt64.le_refl _⟩

theorem Continues.trans {first second third : Transfer} (h₁ : Continues first second)
    (h₂ : Continues second third) : Continues first third :=
  ⟨h₂.direction.trans h₁.direction, h₂.size.trans h₁.size,
    UInt64.le_trans h₁.position_le h₂.position_le⟩

/-- Bytes that do not fill half of what a position can count move it on. -/
theorem position_le_add {position length : UInt64} (hp : position.toNat ≤ 2 ^ 63)
    (hl : length.toNat < 2 ^ 63) : position ≤ position + length := by
  rw [UInt64.le_iff_toNat_le, UInt64.toNat_add, Nat.mod_eq_of_lt (by omega)]
  exact Nat.le_add_right _ _

theorem same_next {turn : Turn} (possible : turn.Possible file (some live)) :
    ∀ after ∈ turn.next (some live), after.direction = live.direction ∧ after.size = live.size := by
  intro after hafter
  cases turn with
  | untouched =>
    cases hafter
    exact ⟨rfl, rfl⟩
  | offered direction size => exact absurd possible (Turn.not_possible_offered _ _ _)
  | finished => cases hafter
  | controlled control =>
    cases control with
    | cancel => cases hafter
    | _ =>
      cases hafter
      exact ⟨rfl, rfl⟩
  | arrived data =>
    simp only [Turn.next] at hafter
    split at hafter
    · cases hafter
    · cases hafter
      exact ⟨rfl, rfl⟩
  | sent position data =>
    cases hafter
    exact ⟨rfl, rfl⟩
  | passed =>
    cases hafter
    unfold Table.asked
    split <;> exact ⟨rfl, rfl⟩

private theorem continues_next {turn : Turn} (possible : turn.Possible file (some live))
    (sound : Sound file live) (moderate : turn.Moderate) (small : live.size.toNat ≤ 2 ^ 63) :
    ∀ after ∈ turn.next (some live), Continues live after := by
  have hposition : live.position.toNat ≤ 2 ^ 63 :=
    Nat.le_trans (UInt64.le_iff_toNat_le.mp sound.position_le) small
  intro after hafter
  obtain ⟨hdirection, hsize⟩ := same_next possible after hafter
  refine ⟨hdirection, hsize, ?_⟩
  cases turn with
  | offered direction size => exact absurd possible (Turn.not_possible_offered _ _ _)
  | finished => cases hafter
  | arrived data =>
    simp only [Turn.next] at hafter
    split at hafter
    · cases hafter
    · cases hafter
      have hdata : data.length < 2 ^ 63 := moderate
      apply position_le_add hposition
      rwa [UInt64.toNat_ofNat_of_lt' (show data.length < 2 ^ 64 by omega)]
  | sent position data =>
    obtain ⟨-, _, he, hfits⟩ := possible
    cases he
    cases hafter
    have hlength := UInt64.le_iff_toNat_le.mp (UInt64.not_lt.mp hfits.length_le)
    have hmax := Table.toNat_maxChunk
    exact position_le_add hposition (by omega)
  | controlled control =>
    cases control with
    | cancel => cases hafter
    | _ =>
      cases hafter
      exact UInt64.le_refl _
  | untouched =>
    cases hafter
    exact UInt64.le_refl _
  | passed =>
    cases hafter
    unfold Table.asked
    split <;> exact UInt64.le_refl _

private theorem modest_next {turn : Turn} {before : Option Transfer}
    (possible : turn.Possible file before) (moderate : turn.Moderate)
    (modest : ∀ transfer ∈ before, Sound file transfer ∧ transfer.size.toNat ≤ 2 ^ 63) :
    ∀ transfer ∈ turn.next before, Sound file transfer ∧ transfer.size.toNat ≤ 2 ^ 63 := by
  intro after hafter
  refine ⟨sound_next possible (fun live hl => (modest live hl).1) after hafter, ?_⟩
  cases before with
  | some live =>
    obtain ⟨hsound, hsmall⟩ := modest live rfl
    rwa [(continues_next possible hsound moderate hsmall after hafter).size]
  | none =>
    cases turn with
    | offered direction size =>
      cases hafter
      exact moderate
    | controlled control => cases control <;> cases hafter
    | _ => cases hafter

end Turn

/-! ## Many moments -/

section Moments

variable {moments : List Moment} {table : Table} {effect : Effect} {friend : UInt32}
  {file : FileId}

/-- What each turn preserves of a transfer, the moments preserve. -/
theorem kept_of_follow {P : Option Transfer → Prop} (h : follow moments table = some effect)
    (sorted : Keyed.Sorted table.entries) (start : P (table.get? friend file))
    (kept : ∀ moment ∈ moments, ∀ live, (moment.turn friend file).Possible file live → P live →
      P ((moment.turn friend file).next live)) :
    P (effect.table.get? friend file) := by
  induction moments generalizing table effect with
  | nil =>
    cases h
    exact start
  | cons moment rest ih =>
    obtain ⟨first, more, he, hm, rfl⟩ := split_of_follow h
    have course := course_of_effect he sorted friend file
    have hfirst : P (first.table.get? friend file) := by
      rw [course.next]
      exact kept moment List.mem_cons_self _ course.possible start
    have hrest := ih hm course.sorted hfirst fun later hl => kept later (List.mem_cons_of_mem _ hl)
    exact hrest

theorem Table.Sound.get? (sound : table.Sound) (friend : UInt32) (file : FileId) :
    ∀ transfer ∈ table.get? friend file, Transfer.Sound file transfer :=
  fun _ h => sound.entries _ (Keyed.mem_of_get? h)

theorem Table.Sound.of_entries {left table : Table} (sound : table.Sound)
    (h : left.entries = table.entries) : left.Sound :=
  ⟨h ▸ sound.sorted, h ▸ sound.entries⟩

theorem Table.sound_empty : Table.empty.Sound := ⟨Keyed.sorted_nil, fun _ h => nomatch h⟩

theorem sound_of_follow (h : follow moments table = some effect) (sound : table.Sound) :
    effect.table.Sound := by
  have hsorted := sorted_of_follow h sound.sorted
  refine ⟨hsorted, ?_⟩
  rintro ⟨⟨friend, file⟩, live⟩ hmem
  have hall := kept_of_follow (P := fun live => ∀ transfer ∈ live, Sound file transfer) h
    sound.sorted (sound.get? friend file) fun _ _ _ possible hlive => sound_next possible hlive
  exact hall live (hsorted.get?_of_mem hmem)

/-- No live transfer is larger than a declared size may be. -/
def Table.Small (table : Table) : Prop :=
  ∀ friend file, ∀ live ∈ table.get? friend file, live.size.toNat ≤ 2 ^ 63

theorem Table.small_empty : Table.empty.Small := fun _ _ _ h => nomatch h

theorem small_of_follow (h : follow moments table = some effect) (sound : table.Sound)
    (small : table.Small) (moderate : ∀ moment ∈ moments, moment.Moderate) :
    effect.table.Small := by
  intro friend file after hafter
  have hall := kept_of_follow
    (P := fun live => ∀ transfer ∈ live, Sound file transfer ∧ transfer.size.toNat ≤ 2 ^ 63)
    h sound.sorted
    (fun live hl => ⟨sound.get? friend file live hl, small friend file live hl⟩)
    fun moment hm live possible hlive => by
      have hturn := moderate_turn (moderate moment hm) friend file
      exact modest_next possible hturn hlive
  exact (hall after hafter).2

/-- As long as it is not offered anew, a transfer keeps its direction and size. -/
theorem same_of_follow (h : follow moments table = some effect)
    (sorted : Keyed.Sorted table.entries)
    (closed : ∀ moment ∈ moments, (moment.turn friend file).opens = false)
    {before after : Transfer} (hb : table.get? friend file = some before)
    (ha : effect.table.get? friend file = some after) :
    after.direction = before.direction ∧ after.size = before.size := by
  have hall := kept_of_follow
    (P := fun live => ∀ transfer ∈ live, transfer.direction = before.direction ∧
      transfer.size = before.size) h sorted
    (fun live hl => by
      rw [hb] at hl
      cases hl
      exact ⟨rfl, rfl⟩)
    fun moment hm live possible hlive later hlater => by
      cases live with
      | none =>
        rw [Turn.next_none (closed moment hm)] at hlater
        cases hlater
      | some live =>
        obtain ⟨hdirection, hsize⟩ := hlive live rfl
        obtain ⟨hdirection', hsize'⟩ := same_next possible later hlater
        exact ⟨hdirection'.trans hdirection, hsize'.trans hsize⟩
  exact hall after ha

/-- As long as it is not offered anew, a transfer that is live later is the same. -/
theorem continues_of_follow (h : follow moments table = some effect) (sound : table.Sound)
    (small : table.Small) (moderate : ∀ moment ∈ moments, moment.Moderate)
    (closed : ∀ moment ∈ moments, (moment.turn friend file).opens = false)
    {before after : Transfer} (hb : table.get? friend file = some before)
    (ha : effect.table.get? friend file = some after) : Continues before after := by
  have hall := kept_of_follow
    (P := fun live => ∀ transfer ∈ live,
      (Sound file transfer ∧ transfer.size.toNat ≤ 2 ^ 63) ∧ Continues before transfer)
    h sound.sorted
    (fun live hl => by
      rw [hb] at hl
      cases hl
      exact ⟨⟨sound.get? friend file before hb, small friend file before hb⟩, .refl before⟩)
    fun moment hm live possible hlive later hlater => by
      have hturn := moderate_turn (moderate moment hm) friend file
      refine ⟨modest_next possible hturn (fun live hl => (hlive live hl).1) later hlater, ?_⟩
      cases live with
      | none =>
        rw [Turn.next_none (closed moment hm)] at hlater
        cases hlater
      | some live =>
        obtain ⟨⟨hsound, hsmall⟩, hcontinues⟩ := hlive live rfl
        exact hcontinues.trans (continues_next possible hsound hturn hsmall later hlater)
  exact (hall after ha).2

end Moments

end Transfer

end Switchboard
