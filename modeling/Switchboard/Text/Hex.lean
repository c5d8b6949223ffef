import Switchboard.Bytes
/-!
# Hexadecimal text

Bytes as text: two digits for each byte, in lower case, the high half first.
-/

namespace Switchboard.Hex

def digit (n : Nat) : Char := if n < 10 then Char.ofNat (48 + n) else Char.ofNat (87 + n)

def value? (c : Char) : Option Nat :=
  if '0' ≤ c ∧ c ≤ '9' then some (c.toNat - 48)
  else if 'a' ≤ c ∧ c ≤ 'f' then some (c.toNat - 87)
  else none

def write (bytes : Bytes) : List Char :=
  bytes.flatMap fun byte => [digit (byte.toNat / 16), digit (byte.toNat % 16)]

/-- Read bytes from digits; an odd digit out is refused. -/
def read : List Char → Option Bytes
  | [] => some []
  | high :: low :: rest => do
    let byte := UInt8.ofNat ((← value? high) * 16 + (← value? low))
    return byte :: (← read rest)
  | _ => none

theorem value?_digit {n : Nat} (h : n < 16) : value? (digit n) = some n := by
  have all : ∀ m : Fin 16, value? (digit m.val) = some m.val := by decide
  exact all ⟨n, h⟩

/-- What was written reads back. -/
theorem read_write (bytes : Bytes) : read (write bytes) = some bytes := by
  induction bytes with
  | nil => rfl
  | cons byte rest ih =>
    have small := byte.toNat_lt
    have high : byte.toNat / 16 < 16 := by omega
    have low : byte.toNat % 16 < 16 := by omega
    have whole : UInt8.ofNat (byte.toNat / 16 * 16 + byte.toNat % 16) = byte := by
      rw [Nat.div_add_mod']; exact UInt8.ofNat_toNat
    simp only [write] at ih
    simp only [write, List.flatMap_cons, List.cons_append, List.nil_append, read,
      value?_digit high, value?_digit low, ih, Option.bind_eq_bind, Option.bind_some,
      Option.pure_def, whole]

end Switchboard.Hex
