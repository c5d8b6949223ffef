/-!
# Handles

A handle names a session: the slot it lives in, and the generation the slot had when the session
moved in. A slot gets a new generation each time it is vacated, so a handle that outlived its
session names nothing.
-/

namespace Switchboard

structure Handle where
  slot : UInt32
  generation : UInt32
  deriving DecidableEq, Repr

namespace Handle

/-- The number callers hold: the generation above the slot. -/
def raw (handle : Handle) : UInt64 :=
  (handle.generation.toUInt64 <<< 32) ||| handle.slot.toUInt64

/-- The handle behind a number. -/
def ofRaw (raw : UInt64) : Handle := ⟨raw.toUInt32, (raw >>> 32).toUInt32⟩

theorem toNat_raw (handle : Handle) :
    handle.raw.toNat = handle.generation.toNat * 4294967296 + handle.slot.toNat := by
  have hs := handle.slot.toNat_lt
  have hg := handle.generation.toNat_lt
  rw [raw, UInt64.toNat_or, UInt64.toNat_shiftLeft, UInt32.toNat_toUInt64, UInt32.toNat_toUInt64,
    show (32 : UInt64).toNat % 64 = 32 from rfl, Nat.shiftLeft_eq,
    Nat.mod_eq_of_lt (by omega), ← Nat.shiftLeft_eq, ← Nat.shiftLeft_add_eq_or_of_lt hs]

/-- The number of a handle loses nothing. -/
theorem ofRaw_raw (handle : Handle) : ofRaw handle.raw = handle := by
  have hs := handle.slot.toNat_lt
  have hg := handle.generation.toNat_lt
  have hr := toNat_raw handle
  have slot : handle.raw.toUInt32 = handle.slot := by
    apply UInt32.toNat.inj
    rw [UInt64.toNat_toUInt32, hr]
    omega
  have generation : (handle.raw >>> 32).toUInt32 = handle.generation := by
    apply UInt32.toNat.inj
    rw [UInt64.toNat_toUInt32, UInt64.toNat_shiftRight, hr,
      show (32 : UInt64).toNat % 64 = 32 from rfl, Nat.shiftRight_eq_div_pow]
    omega
  rw [ofRaw, slot, generation]

/-- The text of a handle, its slot and generation around an at sign. -/
def text (handle : Handle) : String :=
  toString handle.slot.toNat ++ "@" ++ toString handle.generation.toNat

/-- Handles are ordered by slot, then by generation. -/
def order (a b : Handle) : Ordering :=
  (compare a.slot b.slot).then (compare a.generation b.generation)

end Handle

end Switchboard
