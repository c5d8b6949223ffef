/-!
# Decimal numerals

The decimal numeral of a number and the number of a numeral. `value_digits` says that reading a
numeral gives back the number it was written for.
-/

namespace Switchboard.Decimal

def digit (n : Nat) : Char := Char.ofNat (48 + n % 10)

def isDigit (c : Char) : Bool := '0' ≤ c && c ≤ '9'

def digitValue (c : Char) : Nat := c.toNat - 48

/-- The digits of a number, the most significant first, with no leading zero. -/
def digits (n : Nat) : List Char :=
  if n < 10 then [digit n] else digits (n / 10) ++ [digit n]

/-- The number a run of digits stands for. -/
def value (run : List Char) : Nat := run.foldl (fun n c => 10 * n + digitValue c) 0

/-- The digits of a number, with zeros before them up to the given width. -/
def padded (width n : Nat) : List Char :=
  List.replicate (width - (digits n).length) '0' ++ digits n

theorem digitValue_digit (n : Nat) : digitValue (digit n) = n % 10 := by
  have table : ∀ d, d < 10 → digitValue (Char.ofNat (48 + d)) = d := by decide
  exact table _ (Nat.mod_lt _ (by decide))

theorem isDigit_digit (n : Nat) : isDigit (digit n) = true := by
  have table : ∀ d, d < 10 → isDigit (Char.ofNat (48 + d)) = true := by decide
  exact table _ (Nat.mod_lt _ (by decide))

theorem value_append_singleton (run : List Char) (c : Char) :
    value (run ++ [c]) = 10 * value run + digitValue c := by
  simp [value]

theorem value_digits (n : Nat) : value (digits n) = n := by
  induction n using Nat.strongRecOn with
  | ind n ih =>
    rw [digits]
    split
    · simp [value, digitValue_digit]; omega
    · rw [value_append_singleton, ih (n / 10) (by omega), digitValue_digit]; omega

theorem isDigit_of_mem_digits {n : Nat} {c : Char} (h : c ∈ digits n) : isDigit c = true := by
  induction n using Nat.strongRecOn with
  | ind n ih =>
    rw [digits] at h
    split at h
    · simp only [List.mem_singleton] at h; exact h ▸ isDigit_digit n
    · rcases List.mem_append.1 h with h | h
      · exact ih (n / 10) (by omega) h
      · simp only [List.mem_singleton] at h; exact h ▸ isDigit_digit n

/-! ## The shape of a numeral -/

theorem digits_of_lt {n : Nat} (h : n < 10) : digits n = [digit n] := by rw [digits, if_pos h]

theorem digits_of_le {n : Nat} (h : 10 ≤ n) : digits n = digits (n / 10) ++ [digit n] := by
  rw [digits, if_neg (Nat.not_lt.mpr h)]

theorem digits_ne_nil (n : Nat) : digits n ≠ [] := by
  rw [digits]
  split <;> simp

/-- A numeral begins with a digit. -/
theorem digits_eq_cons (n : Nat) : ∃ c tail, digits n = c :: tail ∧ isDigit c = true := by
  obtain ⟨c, tail, h⟩ := List.exists_cons_of_ne_nil (digits_ne_nil n)
  exact ⟨c, tail, h, isDigit_of_mem_digits (n := n) (by rw [h]; exact List.mem_cons_self)⟩

theorem digit_eq_zero_iff {n : Nat} : digit n = '0' ↔ n % 10 = 0 := by
  constructor
  · intro h
    rw [← digitValue_digit, h]
    rfl
  · intro h
    simp [digit, h]

/-- Only the numeral of zero begins with a zero. -/
theorem eq_zero_of_digits {n : Nat} {rest : List Char} (h : digits n = '0' :: rest) :
    n = 0 ∧ rest = [] := by
  induction n using Nat.strongRecOn generalizing rest with
  | ind n ih =>
    by_cases small : n < 10
    · rw [digits_of_lt small, List.cons.injEq, digit_eq_zero_iff, Nat.mod_eq_of_lt small] at h
      exact ⟨h.1, h.2.symm⟩
    · rw [digits_of_le (Nat.not_lt.mp small)] at h
      obtain ⟨c, front, hfront, -⟩ := digits_eq_cons (n / 10)
      rw [hfront, List.cons_append, List.cons.injEq] at h
      have hzero := (ih (n / 10) (by omega) (hfront.trans (by rw [h.1]))).1
      omega

theorem length_digits_le {width n : Nat} (hw : 0 < width) (h : n < Nat.pow 10 width) :
    (digits n).length ≤ width := by
  induction width generalizing n with
  | zero => omega
  | succ width ih =>
    by_cases small : n < 10
    · rw [digits_of_lt small]
      exact hw
    · have h : n < Nat.pow 10 width * 10 := h
      have hpos : 0 < width := by
        rcases Nat.eq_zero_or_pos width with rfl | hpos
        · exact absurd h small
        · exact hpos
      rw [digits_of_le (Nat.not_lt.mp small), List.length_append, List.length_singleton]
      exact Nat.succ_le_succ (ih hpos (by omega))

/-! ## Padding -/

theorem length_padded {width n : Nat} (hw : 0 < width) (h : n < Nat.pow 10 width) :
    (padded width n).length = width := by
  have hle := length_digits_le hw h
  rw [padded, List.length_append, List.length_replicate]
  omega

theorem value_replicate_append (zeros : Nat) (run : List Char) :
    value (List.replicate zeros '0' ++ run) = value run := by
  induction zeros with
  | zero => rfl
  | succ zeros ih => exact ih

theorem value_padded (width n : Nat) : value (padded width n) = n := by
  rw [padded, value_replicate_append, value_digits]

theorem isDigit_of_mem_padded {width n : Nat} {c : Char} (h : c ∈ padded width n) :
    isDigit c = true := by
  rcases List.mem_append.mp h with h | h
  · rw [List.eq_of_mem_replicate h]
    rfl
  · exact isDigit_of_mem_digits h

theorem padded_ne_nil (width n : Nat) : padded width n ≠ [] := by simp [padded, digits_ne_nil]

theorem padded_eq_cons (width n : Nat) :
    ∃ c tail, padded width n = c :: tail ∧ isDigit c = true := by
  obtain ⟨c, tail, h⟩ := List.exists_cons_of_ne_nil (padded_ne_nil width n)
  have mem : c ∈ padded width n := by rw [h]; exact List.mem_cons_self
  exact ⟨c, tail, h, isDigit_of_mem_padded mem⟩

/-! ## The end of a run of digits -/

/-- The text does not go on with a digit. -/
def EndsDigits (text : List Char) : Prop := ∀ c ∈ text.head?, isDigit c = false

theorem endsDigits_nil : EndsDigits [] := fun c h => by cases h

theorem endsDigits_cons {c : Char} (h : isDigit c = false) (text : List Char) :
    EndsDigits (c :: text) := fun d hd => by
  rw [List.head?_cons, Option.mem_some_iff] at hd
  exact hd ▸ h

theorem EndsDigits.take {text : List Char} (h : EndsDigits text) (n : Nat) :
    EndsDigits (text.take n) := by
  cases n with
  | zero => exact endsDigits_nil
  | succ n =>
    cases text with
    | nil => exact endsDigits_nil
    | cons c text => exact endsDigits_cons (h c rfl) _

theorem takeWhile_isDigit {run rest : List Char} (digits : ∀ c ∈ run, isDigit c = true)
    (ends : EndsDigits rest) : (run ++ rest).takeWhile isDigit = run := by
  rw [List.takeWhile_append_of_pos digits]
  cases rest with
  | nil => simp
  | cons c rest =>
    have hc := ends c rfl
    simp [hc]

theorem dropWhile_isDigit {run rest : List Char} (digits : ∀ c ∈ run, isDigit c = true)
    (ends : EndsDigits rest) : (run ++ rest).dropWhile isDigit = rest := by
  rw [List.dropWhile_append_of_pos digits]
  cases rest with
  | nil => rfl
  | cons c rest =>
    have hc := ends c rfl
    simp [hc]

end Switchboard.Decimal
