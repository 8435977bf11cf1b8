import Relocation.Storage

/-!
# Regions

A region is a contiguous piece of storage together with the address of its first byte: the address
it was assembled at while its table is built, the address it was loaded at when it is relocated.
Whether bytes lie inside a region is decided over the natural numbers, where no sum overflows.
-/

namespace Relocation

/-- A piece of storage at an address. -/
structure Region where
  /-- Address of the first byte. -/
  base : Doubleword
  /-- The bytes. -/
  data : Storage
  deriving DecidableEq, Repr

namespace Region

/-- The number of bytes. -/
def size (region : Region) : Nat :=
  region.data.length

/-- The address behind the last byte, or the highest address when that lies above it. -/
def «end» (region : Region) : Doubleword :=
  region.base.addClamped region.size

/-- The `length` bytes from `offset` on lie inside the region. -/
def ContainsOffset (region : Region) (offset length : Nat) : Prop :=
  offset + length ≤ region.size

instance (region : Region) (offset length : Nat) :
    Decidable (region.ContainsOffset offset length) :=
  inferInstanceAs (Decidable (_ ≤ _))

/-- The offset of an address, if the `length` bytes from there on lie inside the region. -/
def offset? (region : Region) (address : Doubleword) (length : Nat) : Option Nat :=
  if region.base ≤ address ∧ region.ContainsOffset (address - region.base).toNat length then
    some (address - region.base).toNat
  else
    none

end Region

end Relocation
