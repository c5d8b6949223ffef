/-!
# Byte strings

Names, messages and file data are byte strings of any length. Keys and addresses are blocks:
byte strings whose length is part of their type.
-/

namespace Switchboard

/-- A byte string. -/
abbrev Bytes := List UInt8

/-- A byte string of exactly `n` bytes. -/
structure Block (n : Nat) where
  bytes : Bytes
  length_eq : bytes.length = n
  deriving DecidableEq, Repr

namespace Block

/-- The byte string as a block, if it has the right length. -/
def ofBytes? (n : Nat) (bytes : Bytes) : Option (Block n) :=
  if h : bytes.length = n then some ⟨bytes, h⟩ else none

def take {n : Nat} (m : Nat) (block : Block n) (h : m ≤ n) : Block m :=
  ⟨block.bytes.take m, by rw [List.length_take, block.length_eq]; omega⟩

theorem ofBytes?_bytes {n : Nat} (block : Block n) : ofBytes? n block.bytes = some block := by
  simp [ofBytes?, block.length_eq]

theorem bytes_inj {n : Nat} {first second : Block n} :
    first.bytes = second.bytes ↔ first = second := by
  cases first
  cases second
  simp

end Block

/-- Long-term public key of a peer. -/
abbrev PublicKey := Block 32

/-- Full address of a peer: its public key, then a nospam value and a checksum. -/
abbrev Address := Block 38

def Address.publicKey (address : Address) : PublicKey := Block.take 32 address (by decide)

namespace Bytes

/-- Copy as much of `source` as fits into `room`; what it does not reach stays as it was. -/
def fill (source room : Bytes) : Bytes := source.take room.length ++ room.drop source.length

theorem length_fill (source room : Bytes) : (fill source room).length = room.length := by
  simp only [fill, List.length_append, List.length_take, List.length_drop]; omega

/-- Filling room of the source's own size gives the source. -/
theorem fill_of_length_eq {source room : Bytes} (h : room.length = source.length) :
    fill source room = source := by
  simp [fill, h, List.drop_eq_nil_of_le (Nat.le_of_eq h)]

end Bytes

end Switchboard
