import Switchboard.Event.Wire
import Switchboard.Proofs.Json.Field
import Switchboard.Proofs.Time.RoundTrip
/-!
# Events read back

Every event is read back from its text, and its text bears the name of its kind as the tag, though
tags and names are made in two ways (`tag_eq_name`). A batch is read back with all its sequence
numbers and timestamps (`wire_round_trip`). An event of any kind is an object of its tag and its
fields, so what is shown of records holds for all kinds at once; only the fields' own values are
looked at kind by kind.
-/

namespace Switchboard

namespace Json

@[simp] theorem fileId?_ofFileId (id : FileId) : (ofFileId id).fileId? = some id := by
  rw [fileId?, ofFileId, uint32?_ofUInt32, Option.map_some]

@[simp] theorem looseChoice?_ofChoice {α : Type} [Enumerated α] [LawfulEnumerated α] (value : α) :
    (ofChoice value).looseChoice? = some value := Enumerated.ofName?_name value

private theorem plain_ofChoice (levels : Nat) {α : Type} [Enumerated α] (value : α) :
    Plain levels (ofChoice value) := .string levels _

end Json

namespace EventKind

theorem tag_eq_name (kind : EventKind) : kind.tag = Enumerated.name kind := by
  cases kind <;> decide

theorem ofTag?_tag (kind : EventKind) : ofTag? kind.tag = some kind := by
  rw [tag_eq_name, ← Enumerated.ofName?_name kind]
  simp only [ofTag?, Enumerated.ofName?, tag_eq_name]

end EventKind

namespace Event

open Switchboard.Json

private theorem length_fieldValues (event : Event) :
    event.kind.fieldNames.length = event.fieldValues.length := by
  cases event <;> rfl

/-- An event is made again from the values of its fields. -/
theorem ofFieldValues?_fieldValues (event : Event) :
    ofFieldValues? event.kind event.fieldValues = some event := by
  cases event <;> simp [kind, fieldValues, ofFieldValues?]

private theorem plain_fieldValues (event : Event) : ∀ value ∈ event.fieldValues, Plain 1 value := by
  cases event <;>
    simp [fieldValues, plain_ofUInt32, plain_ofUInt64, plain_ofBytes, plain_ofChoice, ofFileId,
      Plain.bool]

theorem plain_toJson (event : Event) : Plain 2 event.toJson := by
  refine .object fun member h => ?_
  rcases List.mem_cons.mp h with rfl | h
  · exact .string 1 _
  · exact plain_fieldValues event _ (List.of_mem_zip h).2

/-- The members of an event that are its fields. -/
theorem filter_zip (event : Event) :
    (event.kind.fieldNames.zip event.fieldValues).filter (·.1 != "type")
      = event.kind.fieldNames.zip event.fieldValues := by
  refine List.filter_eq_self.mpr fun member h => ?_
  rw [bne_iff_ne]
  intro same
  exact event.kind.type_notMem_fieldNames (same ▸ (List.of_mem_zip h).1)

private theorem member?_type (event : Event) :
    member? (("type", .string event.kind.tag) :: event.kind.fieldNames.zip event.fieldValues) "type"
      = some (some (.string event.kind.tag)) := by
  have distinct : ((("type", Json.string event.kind.tag) ::
      event.kind.fieldNames.zip event.fieldValues).map Prod.fst).Nodup := by
    rw [List.map_cons, List.map_fst_zip (Nat.le_of_eq event.length_fieldValues), List.nodup_cons]
    exact ⟨event.kind.type_notMem_fieldNames, event.kind.nodup_fieldNames⟩
  exact member?_of_mem distinct List.mem_cons_self

theorem ofJson?_toJson (event : Event) : ofJson? event.toJson = some event := by
  have readable := event.plain_toJson.readable
  rw [toJson] at readable ⊢
  rw [ofJson?, readable]
  simp only [Bool.not_true, Bool.false_eq_true, if_false, member?_type]
  simp only [EventKind.ofTag?_tag, Option.bind_some]
  rw [List.filter_cons_of_neg (by simp), filter_zip, ofFields?,
    allFields?_zip _ event.kind.nodup_fieldNames event.length_fieldValues, Option.bind_some,
    ofFieldValues?_fieldValues]

end Event

namespace Envelope

open Switchboard.Json

theorem plain_toJson (envelope : Envelope) : Plain 3 envelope.toJson := by
  refine .object fun member h => ?_
  simp only [fieldNames, List.zip_cons_cons, List.zip_nil_left, List.mem_cons, List.not_mem_nil,
    or_false] at h
  rcases h with rfl | rfl | rfl
  · exact plain_ofUInt64 2 _
  · exact .string 2 _
  · exact envelope.event.plain_toJson

theorem ofJson?_toJson {envelope : Envelope}
    (inRange : Timestamp.yearInRange envelope.timestamp.date.year = true) :
    ofJson? envelope.toJson = some envelope := by
  have fields := allFields?_zip [ofUInt64 envelope.seq,
    .string (String.ofList envelope.timestamp.write), envelope.event.toJson]
    (show fieldNames.Nodup by decide) rfl
  simp only [ofJson?, toJson, fields, Option.bind_eq_bind, Option.bind_some, uint64?_ofUInt64,
    text?, String.toList_ofList, Timestamp.read_write inRange, Event.ofJson?_toJson,
    Option.pure_def]

end Envelope

namespace Batch

open Switchboard.Json

theorem plain_toJson (batch : Batch) : Plain 5 batch.toJson := by
  refine .object fun member h => ?_
  obtain rfl := List.mem_singleton.mp h
  refine .array fun item h => ?_
  obtain ⟨envelope, -, rfl⟩ := List.mem_map.mp h
  exact envelope.plain_toJson

theorem ofJson?_toJson {batch : Batch} (inRange : ∀ envelope ∈ batch.envelopes,
    Timestamp.yearInRange envelope.timestamp.date.year = true) :
    ofJson? batch.toJson = some batch := by
  have fields := allFields?_zip [.array (batch.envelopes.map Envelope.toJson)]
    (show ["events"].Nodup by decide) rfl
  have envelopes := mapM_map Envelope.toJson fun envelope h =>
    Envelope.ofJson?_toJson (inRange envelope h)
  rw [List.zip_cons_cons, List.zip_nil_left] at fields
  simp only [ofJson?, toJson, fields, Option.bind_eq_bind, Option.bind_some, envelopes,
    Option.pure_def]

end Batch

/-- Every event is read back from its text, an object whose tag is the name of the event's kind.
Every batch is read back from its text, however long it is and whatever its sequence numbers, as
long as its timestamps lie in the years a reader accepts. -/
theorem wire_round_trip :
    (∀ event : Event, Event.decode event.encode = some event ∧
      ∃ members, Json.parse event.encode = some (.object members) ∧
        Json.member? members "type" = some (some (.string (Enumerated.name event.kind)))) ∧
    ∀ batch : Batch,
      (∀ envelope ∈ batch.envelopes,
        Timestamp.yearInRange envelope.timestamp.date.year = true) →
      Batch.decode batch.encode = some batch := by
  refine ⟨fun event => ?_, fun batch inRange => ?_⟩
  · have parsed : Json.parse event.encode = some event.toJson :=
      Json.parse_write event.plain_toJson (by decide)
    refine ⟨?_, _, parsed, event.kind.tag_eq_name ▸ event.member?_type⟩
    rw [Event.decode, parsed, Option.bind_some, Event.ofJson?_toJson]
  · have parsed : Json.parse batch.encode = some batch.toJson :=
      Json.parse_write batch.plain_toJson (by decide)
    rw [Batch.decode, parsed, Option.bind_some, Batch.ofJson?_toJson inRange]

/-- A batch whose last timestamp is the last nanosecond of a leap second. -/
def leapBatch : Batch :=
  ⟨[⟨0, ⟨⟨0, 1, 1, by decide⟩, 0, 0, 1, 0, by decide⟩, .fileRecvChunk 7 ⟨65536⟩ 0 []⟩,
    ⟨18446744073709551615, ⟨⟨9999, 12, 31, by decide⟩, 23, 59, 60, 999999999, by decide⟩,
      .groupPrivacyState 4294967295 .privateGroup⟩]⟩

theorem leapBatch_round_trip :
    leapBatch.envelopes.map (fun envelope => String.ofList envelope.timestamp.write)
      = ["0000-01-01T00:00:01Z", "9999-12-31T23:59:60.999999999Z"] ∧
    Batch.decode leapBatch.encode = some leapBatch :=
  ⟨by decide +kernel, wire_round_trip.2 leapBatch (by decide)⟩

end Switchboard
