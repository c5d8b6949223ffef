import Switchboard.Keyed
/-!
# File identifiers

Some engines number files separately for each direction, with eight bits. A file identifier folds
the direction into bit 8 above that index, so that a caller sees one number per transfer. Other
engines choose the whole number themselves.
-/

namespace Switchboard

/-- Direction of a transfer, seen from here. -/
inductive Direction where
  | send
  | receive
  deriving DecidableEq, Repr

/-- What a direction adds to the index of a file. -/
def Direction.base : Direction → Nat
  | .send => 0
  | .receive => 256

structure FileId where
  raw : UInt32
  deriving DecidableEq, Repr

namespace FileId

/-- The identifier of the file with this index in this direction. -/
def unify (direction : Direction) (index : UInt8) : FileId :=
  ⟨UInt32.ofNat (direction.base + index.toNat)⟩

/-- The direction and index an identifier folds together, if it is below `0x200`. -/
def split (id : FileId) : Option (Direction × UInt8) :=
  if id.raw < 0x100 then some (.send, id.raw.toUInt8)
  else if id.raw < 0x200 then some (.receive, id.raw.toUInt8)
  else none

def text (id : FileId) : String := toString id.raw.toNat

theorem toNat_raw_unify (direction : Direction) (index : UInt8) :
    (unify direction index).raw.toNat = direction.base + index.toNat := by
  have := index.toNat_lt
  cases direction <;> simp only [unify, Direction.base, UInt32.toNat_ofNat'] <;> omega

theorem split_unify (direction : Direction) (index : UInt8) :
    (unify direction index).split = some (direction, index) := by
  have small := index.toNat_lt
  have value := toNat_raw_unify direction index
  have low : (unify direction index).raw.toUInt8 = index := by
    apply UInt8.toNat.inj
    rw [UInt32.toNat_toUInt8, value]
    cases direction <;> simp only [Direction.base] <;> omega
  cases direction
  · have below : (unify .send index).raw < 0x100 := by
      rw [UInt32.lt_iff_toNat_lt, value]; simpa [Direction.base] using small
    simp [split, below, low]
  · have above : ¬ (unify .receive index).raw < 0x100 := by
      rw [UInt32.lt_iff_toNat_lt, value]; simp [Direction.base]
    have below : (unify .receive index).raw < 0x200 := by
      rw [UInt32.lt_iff_toNat_lt, value]
      simp only [Direction.base, UInt32.reduceToNat]; omega
    simp [split, above, below, low]

/-- An identifier is what its direction and index fold to. -/
theorem eq_unify_of_split {id : FileId} {direction : Direction} {index : UInt8}
    (h : id.split = some (direction, index)) : id = unify direction index := by
  have hraw : id.raw.toNat = (unify direction index).raw.toNat → id = unify direction index := by
    intro e
    obtain ⟨raw⟩ := id
    exact congrArg FileId.mk (UInt32.toNat.inj e)
  apply hraw
  rw [toNat_raw_unify]
  unfold split at h
  simp only [UInt32.lt_iff_toNat_lt] at h
  split at h
  · rename_i hlt
    cases h
    simp [Direction.base] at hlt ⊢
    omega
  · split at h
    · rename_i hge hlt
      cases h
      simp [Direction.base] at hge hlt ⊢
      omega
    · cases h

theorem unify_inj {direction other : Direction} {index next : UInt8} :
    unify direction index = unify other next ↔ direction = other ∧ index = next := by
  constructor
  · intro h
    have hsplit := split_unify direction index
    rw [h, split_unify] at hsplit
    cases hsplit
    exact ⟨rfl, rfl⟩
  · rintro ⟨rfl, rfl⟩
    rfl

end FileId

/-- What a transfer is kept under: the friend it is with and its identifier. -/
structure TransferKey where
  friend : UInt32
  file : FileId
  deriving DecidableEq, Repr

instance : Ranked TransferKey where
  rank key := key.friend.toNat * 4294967296 + key.file.raw.toNat
  rank_inj {a b} h := by
    obtain ⟨fa, ⟨ia⟩⟩ := a
    obtain ⟨fb, ⟨ib⟩⟩ := b
    have la := ia.toNat_lt
    have lb := ib.toNat_lt
    simp only at h
    have friends : fa = fb := UInt32.toNat.inj (by omega)
    have files : ia = ib := UInt32.toNat.inj (by omega)
    simp [friends, files]

end Switchboard
