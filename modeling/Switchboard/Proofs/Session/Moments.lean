import Switchboard.Proofs.Transfer.Entries
import Switchboard.Session.Request
/-!
# Moments

What happens to a session, as far as its transfers go, is a list of moments: a notification is
noticed, a pass ends, a request is answered. Each moment has an effect on the transfer table, with
events for the caller and calls to the engine, unless it is one that disables the session or breaks
its lock. The effects of moments are put one after the other by `follow`.
-/

namespace Switchboard

/-- The call that tells the engine a control. -/
def Transfer.Outbound.call (control : Transfer.Outbound) : Call :=
  .legacyFileControl control.friend control.side control.index control.control

/-- What becomes of a session that has a transfer table. -/
structure Effect where
  events : List Event
  /-- About transfers, in the order they are made. -/
  calls : List Call
  table : Transfer.Table
  deriving DecidableEq

inductive Moment where
  | noticed (notification : Notification)
  /-- A pass ended, after everything its engine fired was noticed. -/
  | passed (outcome : Outcome CallError Reply)
  /-- A request that is no pass was answered. -/
  | answered (request : Request) (outcome : Outcome CallError Reply)
  deriving DecidableEq

namespace Request

open Transfer Transfer.Table

def calls (table : Table) : Request → List Call
  | .fileControl friend file control =>
    match table.resolveControl friend file control with
    | .ok told => [told.call]
    | .error _ => []
  | .fileSendChunk friend file position data =>
    match table.resolveChunk friend file position (UInt64.ofNat data.length) with
    | .ok index => if data = [] then [] else [.legacyFileData friend index data]
    | .error _ => []
  | _ => []

/-- The table after a request that was answered with this; there is none for an answer the request
does not get. -/
def commit (table : Table) : Request → Reply → Option Table
  | .fileSend friend _ size _, reply =>
    match reply with
    | .file file =>
      match file.split, table.get? friend file with
      | some (.send, _), none => some (table.put friend file (offered .send size))
      | _, _ => none
    | _ => none
  | .fileControl friend file control, _ =>
    match table.resolveControl friend file control with
    | .ok _ => some (table.commitControl friend file control)
    | .error _ => none
  | .fileSendChunk friend file position data, _ =>
    match table.resolveChunk friend file position (UInt64.ofNat data.length) with
    | .ok _ => some (table.commitChunk friend file (UInt64.ofNat data.length))
    | .error _ => none
  | _, _ => some table

end Request

namespace Moment

open Transfer

/-- The effect of a moment, unless it disables the session or breaks its lock. -/
def effect (table : Table) : Moment → Option Effect
  | .noticed notification =>
    match notification.interpretLegacy table with
    | .ok (events, after) => some ⟨events, [], after⟩
    | .error _ => none
  | .passed (.ok _) =>
    some ⟨table.requestChunks.1, table.outbound.map Outbound.call,
      table.takeOutbound.2.requestChunks.2⟩
  | .passed _ => none
  | .answered request (.ok reply) =>
    (request.commit table reply).map fun after => ⟨[], request.calls table, after⟩
  | .answered request (.error (.failed _)) => some ⟨[], request.calls table, table⟩
  | .answered _ _ => none

end Moment

/-- How a moment comes to have an effect. -/
inductive Moment.Causes (table : Transfer.Table) : Moment → Effect → Prop
  | noticed {notification : Notification} {events : List Event} {after : Transfer.Table} :
    notification.interpretLegacy table = .ok (events, after) →
    Causes table (.noticed notification) ⟨events, [], after⟩
  | passed (reply : Reply) :
    Causes table (.passed (.ok reply))
      ⟨table.requestChunks.1, table.outbound.map Transfer.Outbound.call,
        table.takeOutbound.2.requestChunks.2⟩
  | taken {request : Request} {reply : Reply} {after : Transfer.Table} :
    request.commit table reply = some after →
    Causes table (.answered request (.ok reply)) ⟨[], request.calls table, after⟩
  | refused (request : Request) (failure : Failure) :
    Causes table (.answered request (.error (.failed failure))) ⟨[], request.calls table, table⟩

theorem causes_of_effect {moment : Moment} {table : Transfer.Table} {effect : Effect}
    (h : moment.effect table = some effect) : moment.Causes table effect := by
  cases moment with
  | noticed notification =>
    simp only [Moment.effect] at h
    split at h
    · rename_i hi
      cases h
      exact .noticed hi
    · cases h
  | passed outcome =>
    cases outcome with
    | ok reply =>
      cases h
      exact .passed reply
    | _ => cases h
  | answered request outcome =>
    cases outcome with
    | ok reply =>
      obtain ⟨after, hc, rfl⟩ := Option.map_eq_some_iff.mp h
      exact .taken hc
    | error cause =>
      cases cause with
      | failed failure =>
        cases h
        exact .refused request failure
      | _ => cases h
    | panic => cases h

namespace Effect

def still (table : Transfer.Table) : Effect := ⟨[], [], table⟩

/-- One effect, and then another. -/
def append (first second : Effect) : Effect :=
  ⟨first.events ++ second.events, first.calls ++ second.calls, second.table⟩

@[simp] theorem events_append (first second : Effect) :
    (first.append second).events = first.events ++ second.events := rfl

@[simp] theorem calls_append (first second : Effect) :
    (first.append second).calls = first.calls ++ second.calls := rfl

@[simp] theorem table_append (first second : Effect) :
    (first.append second).table = second.table := rfl

theorem append_assoc (first second third : Effect) :
    (first.append second).append third = first.append (second.append third) := by
  simp only [append, List.append_assoc]

@[simp] theorem still_append (table : Transfer.Table) (effect : Effect) :
    (still table).append effect = effect := by
  simp only [append, still, List.nil_append]

end Effect

/-- The effect of moments, as long as each has one. -/
def follow : List Moment → Transfer.Table → Option Effect
  | [], table => some (.still table)
  | moment :: rest, table =>
    match moment.effect table with
    | none => none
    | some effect => (follow rest effect.table).map effect.append

theorem follow_append (first second : List Moment) (table : Transfer.Table) :
    follow (first ++ second) table =
      (follow first table).bind fun effect => (follow second effect.table).map effect.append := by
  induction first generalizing table with
  | nil =>
    have hstill : (Effect.still table).append = id := funext (Effect.still_append table)
    rw [List.nil_append, follow, Option.bind_some, hstill, Option.map_id]
    rfl
  | cons moment rest ih =>
    rw [List.cons_append, follow, follow]
    cases moment.effect table with
    | none => rfl
    | some effect =>
      dsimp only
      rw [ih]
      cases follow rest effect.table with
      | none => rfl
      | some more =>
        simp only [Option.bind_some, Option.map_some, Option.map_map]
        refine congrArg (fun f => Option.map f (follow second more.table)) (funext fun last => ?_)
        exact (effect.append_assoc more last).symm

theorem follow_cons_of_effect {moment : Moment} {table : Transfer.Table} {effect : Effect}
    (h : moment.effect table = some effect) (rest : List Moment) :
    follow (moment :: rest) table = (follow rest effect.table).map effect.append := by
  rw [follow, h]

theorem split_of_follow {moment : Moment} {rest : List Moment} {table : Transfer.Table}
    {effect : Effect} (h : follow (moment :: rest) table = some effect) :
    ∃ first more, moment.effect table = some first ∧ follow rest first.table = some more ∧
      effect = first.append more := by
  cases he : moment.effect table with
  | none =>
    rw [follow, he] at h
    cases h
  | some first =>
    rw [follow_cons_of_effect he, Option.map_eq_some_iff] at h
    obtain ⟨more, hm, rfl⟩ := h
    exact ⟨first, more, rfl, hm, rfl⟩

theorem follow_singleton (moment : Moment) (table : Transfer.Table) :
    follow [moment] table = moment.effect table := by
  rw [follow]
  cases moment.effect table with
  | none => rfl
  | some effect =>
    have hlast : effect.append (.still effect.table) = effect := by
      simp only [Effect.append, Effect.still, List.append_nil]
    simp only [follow, Option.map_some, hlast]

theorem split_of_last {moments : List Moment} {moment : Moment} {table : Transfer.Table}
    {effect : Effect} (h : follow (moments ++ [moment]) table = some effect) :
    ∃ first last, follow moments table = some first ∧ moment.effect first.table = some last ∧
      effect = first.append last := by
  rw [follow_append, Option.bind_eq_some_iff] at h
  obtain ⟨first, hf, hlast⟩ := h
  rw [follow_singleton, Option.map_eq_some_iff] at hlast
  obtain ⟨last, hl, rfl⟩ := hlast
  exact ⟨first, last, hf, hl, rfl⟩

/-- Something holds at each moment, as long as the moments have an effect. -/
def Along (P : Transfer.Table → Moment → Prop) : List Moment → Transfer.Table → Prop
  | [], _ => True
  | moment :: rest, table =>
    P table moment ∧ ∀ effect, moment.effect table = some effect → Along P rest effect.table

instance Along.decidable (P : Transfer.Table → Moment → Prop)
    [∀ table moment, Decidable (P table moment)] :
    ∀ moments table, Decidable (Along P moments table)
  | [], _ => isTrue trivial
  | moment :: rest, table =>
    match h : moment.effect table with
    | none =>
      decidable_of_iff (P table moment) <| by
        rw [Along, h]
        exact ⟨fun hp => ⟨hp, fun _ he => nomatch he⟩, And.left⟩
    | some effect =>
      have := Along.decidable P rest effect.table
      decidable_of_iff (P table moment ∧ Along P rest effect.table) <| by
        rw [Along, h]
        refine and_congr_right fun _ => ⟨fun hrest _ he => ?_, fun hrest => hrest effect rfl⟩
        rwa [← Option.some.inj he]

theorem along_iff {P : Transfer.Table → Moment → Prop} {moments : List Moment}
    {table : Transfer.Table} :
    Along P moments table ↔ ∀ earlier moment later reached, moments = earlier ++ moment :: later →
      follow earlier table = some reached → P reached.table moment := by
  induction moments generalizing table with
  | nil =>
    refine ⟨fun _ earlier moment later _ hsplit => ?_, fun _ => trivial⟩
    exact absurd hsplit.symm (by simp)
  | cons moment rest ih =>
    rw [Along]
    constructor
    · rintro ⟨hfirst, hrest⟩ earlier other later reached hsplit hf
      cases earlier with
      | nil =>
        cases hsplit
        cases hf
        exact hfirst
      | cons first earlier =>
        cases hsplit
        obtain ⟨effect, more, he, hm, rfl⟩ := split_of_follow hf
        exact ih.mp (hrest effect he) earlier other later more rfl hm
    · intro h
      refine ⟨h [] moment rest _ rfl rfl, fun effect he => ih.mpr ?_⟩
      intro earlier other later reached hsplit hf
      refine h (moment :: earlier) other later (effect.append reached) (by rw [hsplit]; rfl) ?_
      rw [follow_cons_of_effect he, hf]
      rfl

/-- The moment neither disables the session nor breaks its lock. -/
def Moment.Peaceful (table : Transfer.Table) (moment : Moment) : Prop :=
  (moment.effect table).isSome = true

instance (table : Transfer.Table) (moment : Moment) : Decidable (moment.Peaceful table) :=
  inferInstanceAs (Decidable ((moment.effect table).isSome = true))

theorem exists_follow_of_peaceful {moments : List Moment} {table : Transfer.Table}
    (h : Along Moment.Peaceful moments table) : ∃ effect, follow moments table = some effect := by
  induction moments generalizing table with
  | nil => exact ⟨_, rfl⟩
  | cons moment rest ih =>
    obtain ⟨hpeaceful, hrest⟩ := h
    obtain ⟨effect, he⟩ := Option.isSome_iff_exists.mp hpeaceful
    obtain ⟨more, hm⟩ := ih (hrest effect he)
    exact ⟨effect.append more, by rw [follow_cons_of_effect he, hm]; rfl⟩

end Switchboard
