import Mathlib.Logic.Function.Basic
import Switchboard.Keyed
/-!
# Keyed lists in order

The bindings of a keyed list stay in the order of their keys (`Sorted`), each key with one binding.
Then what is looked up and what is listed are the same.
-/

namespace Switchboard

namespace Keyed

variable {κ α β : Type} [Ranked κ]

open Ranked (rank)

/-- Each key has one binding, and they are listed by increasing key. -/
def Sorted (map : Keyed κ α) : Prop := map.Pairwise fun a b => rank a.1 < rank b.1

/-- Binding a key changes what is looked up under that key alone. -/
theorem get?_put [DecidableEq κ] (key : κ) (value : α) (map : Keyed κ α) :
    (get? · (put key value map)) = Function.update (get? · map) key (some value) := by
  funext other
  by_cases h : other = key
  · rw [h, Function.update_self, get?_put_self]
  · rw [Function.update_of_ne h, get?_put_of_ne fun same => h (Ranked.rank_inj same)]

theorem get?_erase [DecidableEq κ] (key : κ) (map : Keyed κ α) :
    (get? · (erase key map)) = Function.update (get? · map) key none := by
  funext other
  by_cases h : other = key
  · rw [h, Function.update_self, get?_erase_self]
  · rw [Function.update_of_ne h, get?_erase_of_ne fun same => h (Ranked.rank_inj same)]

theorem sorted_nil : Sorted ([] : Keyed κ α) := List.Pairwise.nil

theorem mem_put {key : κ} {value : α} {binding : κ × α} {map : Keyed κ α}
    (h : binding ∈ put key value map) : binding = (key, value) ∨ binding ∈ map := by
  induction map with
  | nil => exact .inl (List.mem_singleton.mp h)
  | cons first rest ih =>
    obtain ⟨k, v⟩ := first
    unfold put at h
    split at h
    · exact List.mem_cons.mp h
    · split at h
      · rcases List.mem_cons.mp h with h | h
        · exact .inl h
        · exact .inr (List.mem_cons_of_mem _ h)
      · rcases List.mem_cons.mp h with h | h
        · exact .inr (h ▸ List.mem_cons_self)
        · rcases ih h with h | h
          · exact .inl h
          · exact .inr (List.mem_cons_of_mem _ h)

theorem Sorted.put {map : Keyed κ α} (sorted : Sorted map) (key : κ) (value : α) :
    Sorted (put key value map) := by
  induction map with
  | nil => exact List.pairwise_singleton _ _
  | cons first rest ih =>
    obtain ⟨k, v⟩ := first
    obtain ⟨hfirst, hrest⟩ := List.pairwise_cons.mp sorted
    unfold Keyed.put
    split
    · rename_i below
      refine List.pairwise_cons.mpr ⟨fun binding hm => ?_, sorted⟩
      rcases List.mem_cons.mp hm with rfl | hm
      · exact below
      · exact Nat.lt_trans below (hfirst binding hm)
    · rename_i below
      split
      · rename_i same
        exact List.pairwise_cons.mpr ⟨fun binding hm => same ▸ hfirst binding hm, hrest⟩
      · rename_i other
        refine List.pairwise_cons.mpr ⟨fun binding hm => ?_, ih hrest⟩
        rcases mem_put hm with rfl | hm
        · show rank k < rank key
          omega
        · exact hfirst binding hm

theorem Sorted.erase {map : Keyed κ α} (sorted : Sorted map) (key : κ) :
    Sorted (erase key map) := List.Pairwise.filter _ sorted

theorem Sorted.map {map : Keyed κ α} (sorted : Sorted map) (change : κ × α → β) :
    Sorted (map.map fun binding => (binding.1, change binding)) :=
  List.pairwise_map.mpr sorted

theorem get?_map (key : κ) (change : α → β) (map : Keyed κ α) :
    get? key (map.map fun binding => (binding.1, change binding.2)) =
      (get? key map).map change := by
  induction map with
  | nil => rfl
  | cons first rest ih =>
    obtain ⟨k, v⟩ := first
    by_cases same : rank k = rank key
    · simp [get?, same]
    · simpa [get?, same] using ih

/-- Whoever goes through a map for what belongs to one key finds it in one binding. -/
theorem filterMap_of_sorted {map : Keyed κ α} (sorted : Sorted map) (key : κ)
    (read : κ × α → Option β) (h : ∀ k value, rank k ≠ rank key → read (k, value) = none) :
    map.filterMap read = ((get? key map).bind fun value => read (key, value)).toList := by
  induction map with
  | nil => rfl
  | cons first rest ih =>
    obtain ⟨k, v⟩ := first
    obtain ⟨hfirst, hrest⟩ := List.pairwise_cons.mp sorted
    by_cases same : rank k = rank key
    · obtain rfl : k = key := Ranked.rank_inj same
      have hnone : rest.filterMap read = [] := by
        refine List.filterMap_eq_nil_iff.mpr fun binding hm => ?_
        exact h binding.1 binding.2 (Nat.ne_of_gt (hfirst binding hm))
      rw [List.filterMap_cons, hnone, get?, if_pos rfl, Option.bind_some]
      cases read (k, v) <;> rfl
    · rw [List.filterMap_cons, h k v same, get?, if_neg same]
      exact ih hrest

theorem mem_of_get? {key : κ} {value : α} {map : Keyed κ α} (h : get? key map = some value) :
    (key, value) ∈ map := by
  induction map with
  | nil => cases h
  | cons first rest ih =>
    obtain ⟨k, v⟩ := first
    by_cases same : rank k = rank key
    · rw [get?, if_pos same] at h
      cases h
      obtain rfl : k = key := Ranked.rank_inj same
      exact List.mem_cons_self
    · rw [get?, if_neg same] at h
      exact List.mem_cons_of_mem _ (ih h)

theorem Sorted.get?_of_mem {map : Keyed κ α} (sorted : Sorted map) {key : κ} {value : α}
    (h : (key, value) ∈ map) : get? key map = some value := by
  induction map with
  | nil => cases h
  | cons first rest ih =>
    obtain ⟨k, v⟩ := first
    obtain ⟨hfirst, hrest⟩ := List.pairwise_cons.mp sorted
    rcases List.mem_cons.mp h with h | h
    · cases h
      exact if_pos rfl
    · have hlt : rank k < rank key := hfirst _ h
      rw [get?, if_neg (Nat.ne_of_lt hlt)]
      exact ih hrest h

end Keyed

end Switchboard
