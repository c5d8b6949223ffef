/-!
# Keyed lists

A finite map kept as the list of its bindings, in increasing order of key. Looking up after an
insertion or a removal needs no assumption on the order; the order is what listing the map shows.
-/

namespace Switchboard

/-- Keys that are ordered by a number of their own. -/
class Ranked (κ : Type) where
  rank : κ → Nat
  rank_inj : ∀ {a b : κ}, rank a = rank b → a = b

instance : Ranked UInt32 where
  rank := UInt32.toNat
  rank_inj := UInt32.toNat.inj

/-- A finite map from `κ` to `α`. -/
abbrev Keyed (κ α : Type) := List (κ × α)

namespace Keyed

variable {κ α : Type} [Ranked κ]

open Ranked (rank)

def get? (key : κ) : Keyed κ α → Option α
  | [] => none
  | (k, value) :: rest => if rank k = rank key then some value else get? key rest

/-- Bind a key, in place of what it was bound to before. -/
def put (key : κ) (value : α) : Keyed κ α → Keyed κ α
  | [] => [(key, value)]
  | (k, v) :: rest =>
    if rank key < rank k then (key, value) :: (k, v) :: rest
    else if rank k = rank key then (key, value) :: rest
    else (k, v) :: put key value rest

def erase (key : κ) (map : Keyed κ α) : Keyed κ α :=
  map.filter fun binding => rank binding.1 ≠ rank key

/-- Change the value bound to a key, if there is one. -/
def update (key : κ) (change : α → α) (map : Keyed κ α) : Keyed κ α :=
  map.map fun (k, value) => if rank k = rank key then (k, change value) else (k, value)

theorem get?_put_self (key : κ) (value : α) (map : Keyed κ α) :
    get? key (put key value map) = some value := by
  induction map with
  | nil => simp [put, get?]
  | cons binding rest ih =>
    obtain ⟨k, v⟩ := binding
    by_cases below : rank key < rank k
    · simp [put, below, get?]
    · by_cases same : rank k = rank key
      · simp [put, same, get?]
      · simp [put, below, same, get?, ih]

theorem get?_put_of_ne {key other : κ} (h : rank other ≠ rank key) (value : α) (map : Keyed κ α) :
    get? other (put key value map) = get? other map := by
  have h' : ¬ rank key = rank other := fun e => h e.symm
  induction map with
  | nil => simp [put, get?, h']
  | cons binding rest ih =>
    obtain ⟨k, v⟩ := binding
    by_cases below : rank key < rank k
    · simp [put, below, get?, h']
    · by_cases same : rank k = rank key
      · simp [put, same, get?, h']
      · simp [put, below, same, get?, ih]

theorem get?_erase_self (key : κ) (map : Keyed κ α) : get? key (erase key map) = none := by
  induction map with
  | nil => rfl
  | cons binding rest ih =>
    obtain ⟨k, v⟩ := binding
    by_cases same : rank k = rank key
    · simpa [erase, same] using ih
    · simpa [erase, same, get?] using ih

theorem get?_erase_of_ne {key other : κ} (h : rank other ≠ rank key) (map : Keyed κ α) :
    get? other (erase key map) = get? other map := by
  induction map with
  | nil => rfl
  | cons binding rest ih =>
    obtain ⟨k, v⟩ := binding
    by_cases same : rank k = rank key
    · have apart : ¬ rank key = rank other := fun e => h e.symm
      simpa [erase, same, get?, apart] using ih
    · by_cases found : rank k = rank other
      · simp [erase, get?, found, h]
      · simpa [erase, same, get?, found] using ih

theorem get?_update_self (key : κ) (change : α → α) (map : Keyed κ α) :
    get? key (update key change map) = (get? key map).map change := by
  induction map with
  | nil => rfl
  | cons binding rest ih =>
    obtain ⟨k, v⟩ := binding
    by_cases same : rank k = rank key
    · simp [update, same, get?]
    · simpa [update, same, get?] using ih

theorem get?_update_of_ne {key other : κ} (h : rank other ≠ rank key) (change : α → α)
    (map : Keyed κ α) : get? other (update key change map) = get? other map := by
  induction map with
  | nil => rfl
  | cons binding rest ih =>
    obtain ⟨k, v⟩ := binding
    by_cases same : rank k = rank key
    · have : ¬ rank key = rank other := fun e => h e.symm
      simpa [update, same, get?, this] using ih
    · by_cases found : rank k = rank other
      · simp [update, get?, found, h]
      · simpa [update, same, get?, found] using ih

end Keyed

end Switchboard
