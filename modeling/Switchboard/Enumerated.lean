/-!
# Closed tables

An enumeration an engine and its callers share: every value has a name, used in texts, and a
number, its place in the table, used by engines. A name or number outside the table stands for
nothing. In a lawful table the name of a value finds it again.
-/

namespace Switchboard

/-- A type whose values are listed in a table, each with a name of its own. -/
class Enumerated (α : Type) where
  /-- The values in the order of their numbers. -/
  all : List α
  /-- The name of a value. -/
  name : α → String

namespace Enumerated

variable {α : Type} [Enumerated α]

def ofName? (text : String) : Option α := (all : List α).find? (fun value => name value == text)

def ofNumber? (number : UInt32) : Option α := (all : List α)[number.toNat]?

def number [BEq α] (value : α) : UInt32 := UInt32.ofNat ((all : List α).idxOf value)

end Enumerated

/-- A table that lists every value and gives no name twice. -/
class LawfulEnumerated (α : Type) [Enumerated α] : Prop where
  mem_all (value : α) : value ∈ (Enumerated.all : List α)
  nodup_names : ((Enumerated.all : List α).map Enumerated.name).Nodup

theorem Enumerated.ofName?_name {α : Type} [Enumerated α] [LawfulEnumerated α] (value : α) :
    ofName? (name value) = some value := by
  obtain ⟨before, after, h⟩ := List.append_of_mem (LawfulEnumerated.mem_all value)
  have distinct := LawfulEnumerated.nodup_names (α := α)
  rw [h, List.map_append, List.map_cons] at distinct
  have earlier : before.find? (fun other => name other == name value) = none := by
    refine List.find?_eq_none.mpr fun other hother same => ?_
    exact (List.pairwise_append.mp distinct).2.2 _ (List.mem_map_of_mem hother) _
      List.mem_cons_self (eq_of_beq same)
  rw [ofName?, h, List.find?_append, earlier, Option.none_or]
  exact List.find?_cons_of_pos (beq_self_eq_true _)

end Switchboard
