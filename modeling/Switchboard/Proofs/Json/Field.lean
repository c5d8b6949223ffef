import Switchboard.Json.Field
import Switchboard.Proofs.Json.RoundTrip
/-!
# Typed values read back

What a number, a byte string or a record is written as is also read as that number, byte string or
record, and is a value without loss.
-/

namespace Switchboard.Json

/-! ## Scalars and bytes -/

private theorem below?_natural {bound n : Nat} (h : n < bound) :
    (natural n).below? bound = some n :=
  if_pos h

private theorem uint8?_ofUInt8 (n : UInt8) : (ofUInt8 n).uint8? = some n := by
  rw [ofUInt8, uint8?, below?_natural n.toNat_lt, Option.map_some, UInt8.ofNat_toNat]

@[simp] theorem uint32?_ofUInt32 (n : UInt32) : (ofUInt32 n).uint32? = some n := by
  rw [ofUInt32, uint32?, below?_natural n.toNat_lt, Option.map_some, UInt32.ofNat_toNat]

@[simp] theorem uint64?_ofUInt64 (n : UInt64) : (ofUInt64 n).uint64? = some n := by
  rw [ofUInt64, uint64?, below?_natural n.toNat_lt, Option.map_some, UInt64.ofNat_toNat]

/-- A list is read as what each of its values is read as. -/
theorem mapM_map_of_forall {α β γ : Type} {write : α → β} {read : β → Option γ} {found : α → γ}
    {values : List α} (each : ∀ value ∈ values, read (write value) = some (found value)) :
    (values.map write).mapM read = some (values.map found) := by
  induction values with
  | nil => rfl
  | cons value values ih =>
    rw [List.map_cons, List.mapM_cons, each value List.mem_cons_self,
      ih fun other h => each other (List.mem_cons_of_mem _ h)]
    rfl

/-- A list of values is read back if each of them is. -/
theorem mapM_map {α : Type} (write : α → Json) {read : Json → Option α} {values : List α}
    (back : ∀ value ∈ values, read (write value) = some value) :
    (values.map write).mapM read = some values := by
  rw [mapM_map_of_forall back, List.map_id'']
  exact fun _ => rfl

@[simp] theorem bytes?_ofBytes (bytes : Bytes) : (ofBytes bytes).bytes? = some bytes :=
  mapM_map ofUInt8 fun byte _ => uint8?_ofUInt8 byte

@[simp] theorem block?_ofBytes {n : Nat} (block : Block n) :
    (ofBytes block.bytes).block? n = some block := by
  rw [block?, bytes?_ofBytes, Option.bind_some, Block.ofBytes?_bytes]

@[simp] theorem flag?_bool (value : Bool) : (bool value).flag? = some value := rfl

/-! ## Records -/

/-- The only member with a name is found by it. -/
theorem member?_of_mem {members : List (String × Json)} (distinct : (members.map Prod.fst).Nodup)
    {member : String × Json} (h : member ∈ members) :
    member? members member.1 = some (some member.2) := by
  obtain ⟨before, after, rfl⟩ := List.append_of_mem h
  rw [List.map_append, List.map_cons] at distinct
  obtain ⟨-, later, earlier⟩ := List.pairwise_append.mp distinct
  have first : before.filter (·.1 == member.1) = [] := by
    refine List.filter_eq_nil_iff.mpr fun other ho same => ?_
    exact earlier _ (List.mem_map_of_mem ho) _ List.mem_cons_self (eq_of_beq same)
  have last : after.filter (·.1 == member.1) = [] := by
    refine List.filter_eq_nil_iff.mpr fun other ho same => ?_
    exact (List.pairwise_cons.mp later).1 _ (List.mem_map_of_mem ho) (eq_of_beq same).symm
  have self : (member :: after).filter (·.1 == member.1) = [member] := by
    rw [List.filter_cons, if_pos (beq_self_eq_true _), last]
  rw [member?, List.filter_append, first, self]
  rfl

/-- A record is read from the object of all its fields. -/
theorem allFields?_object {members : List (String × Json)}
    (distinct : (members.map Prod.fst).Nodup) :
    (object members).allFields? (members.map Prod.fst) = some (members.map Prod.snd) := by
  have fields : (object members).fields? (members.map Prod.fst)
      = some (members.map fun member => some member.2) :=
    mapM_map_of_forall fun member h => member?_of_mem distinct h
  have kept : (members.map fun member => some member.2).mapM id = some (members.map Prod.snd) :=
    mapM_map_of_forall fun member _ => rfl
  rw [allFields?, fields, Option.bind_some, kept]

theorem allFields?_zip {names : List String} (values : List Json) (distinct : names.Nodup)
    (length : names.length = values.length) :
    (object (names.zip values)).allFields? names = some values := by
  have fst := List.map_fst_zip (Nat.le_of_eq length)
  have snd := List.map_snd_zip (Nat.le_of_eq length.symm)
  have distinct' : ((names.zip values).map Prod.fst).Nodup := by rw [fst]; exact distinct
  have all := allFields?_object distinct'
  rwa [fst, snd] at all

/-! ## Values without loss -/

theorem plain_ofUInt32 (levels : Nat) (n : UInt32) : Plain levels (ofUInt32 n) :=
  .natural levels (Nat.lt_trans n.toNat_lt (by decide))

theorem plain_ofUInt64 (levels : Nat) (n : UInt64) : Plain levels (ofUInt64 n) :=
  .natural levels n.toNat_lt

theorem plain_ofBytes (levels : Nat) (bytes : Bytes) : Plain (levels + 1) (ofBytes bytes) := by
  refine .array fun item h => ?_
  obtain ⟨byte, -, rfl⟩ := List.mem_map.mp h
  exact .natural levels (Nat.lt_trans byte.toNat_lt (by decide))

private theorem readableItems_iff {items : List Json} :
    readableItems items = true ↔ ∀ item ∈ items, item.readable = true := by
  induction items with
  | nil => simp [readableItems]
  | cons item items ih => simp [readableItems, ih]

private theorem readableMembers_iff {members : List (String × Json)} :
    readableMembers members = true ↔ ∀ member ∈ members, member.2.readable = true := by
  induction members with
  | nil => simp [readableMembers]
  | cons member members ih => obtain ⟨name, value⟩ := member; simp [readableMembers, ih]

theorem Plain.readable {levels : Nat} {value : Json} (h : Plain levels value) :
    value.readable = true := by
  induction h with
  | array plain ih => exact readableItems_iff.mpr ih
  | object plain ih => exact readableMembers_iff.mpr ih
  | null => rfl
  | bool => rfl
  | natural => rfl
  | string => rfl

end Switchboard.Json
