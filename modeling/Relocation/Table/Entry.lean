import Relocation.Storage

/-!
# Table entries

An entry says where an address constant stands in the region and how wide it is.  Entries are
packed into two, three or four bytes: the leftmost two or three bits hold the width less one, the
remaining bits the displacement.
-/

namespace Relocation

/-- One address constant of a region. -/
structure Entry where
  /-- Width of the address constant in bytes. -/
  length : UInt8
  /-- Distance of the address constant from the start of the region. -/
  displacement : Doubleword
  deriving DecidableEq, Repr

namespace Entry

/-- The offset of the first byte of the address constant. -/
def start (entry : Entry) : Nat :=
  entry.displacement.toNat

/-- The offset behind the last byte of the address constant. -/
def stop (entry : Entry) : Nat :=
  entry.displacement.toNat + entry.length.toNat

end Entry

/-- A way of packing entries. -/
structure EntryCodec where
  /-- Bytes of a packed entry. -/
  entrySize : Nat
  /-- Bits of a packed entry that hold the width less one. -/
  lengthBits : Nat
  entrySize_cases : entrySize = 2 ∨ entrySize = 3 ∨ entrySize = 4
  lengthBits_cases : lengthBits = 2 ∨ lengthBits = 3
  deriving DecidableEq

namespace EntryCodec

/-- The codec of an entry size and a number of length bits, where there is one. -/
def of? (entrySize lengthBits : Nat) : Option EntryCodec :=
  if h : (entrySize = 2 ∨ entrySize = 3 ∨ entrySize = 4) ∧ (lengthBits = 2 ∨ lengthBits = 3) then
    some ⟨entrySize, lengthBits, h.1, h.2⟩
  else
    none

/-- Bits of a packed entry that hold the displacement. -/
def displacementBits (codec : EntryCodec) : Nat :=
  8 * codec.entrySize - codec.lengthBits

/-- The weight of the width in a packed entry. -/
def lengthFactor (codec : EntryCodec) : Doubleword :=
  UInt64.ofNat (1 <<< codec.displacementBits)

/-- The greatest displacement an entry can hold. -/
def maxDisplacement (codec : EntryCodec) : Doubleword :=
  codec.lengthFactor - 1

/-- The greatest width an entry can hold. -/
def maxLength (codec : EntryCodec) : UInt8 :=
  UInt8.ofNat (1 <<< codec.lengthBits)

/-- Packs an entry, if both of its parts fit. -/
def encode? (codec : EntryCodec) (entry : Entry) : Option Doubleword :=
  if entry.length = 0 ∨ codec.maxLength < entry.length ∨
      codec.maxDisplacement < entry.displacement then
    none
  else
    some ((entry.length - 1).toUInt64 * codec.lengthFactor + entry.displacement)

/-- Unpacks an entry.  The bits to the left of the displacement are read as one byte, which has to
leave room for the width that is one greater. -/
def decode (codec : EntryCodec) (packed : Doubleword) : Checked Entry :=
  let widthLessOne := (packed >>> UInt64.ofNat codec.displacementBits).toUInt8
  if widthLessOne = 255 then .error .overflow
  else .ok ⟨widthLessOne + 1, packed &&& codec.maxDisplacement⟩

/-- Reads one packed entry. -/
def read (codec : EntryCodec) (bytes : Storage) : Checked Entry := do
  codec.decode (← Doubleword.read bytes)

/-- The bytes of a packed entry. -/
def write (codec : EntryCodec) (packed : Doubleword) : Checked Storage :=
  Doubleword.write codec.entrySize packed

/-- Reads a list of packed entries. -/
def readList (codec : EntryCodec) (list : Storage) : Checked (List Entry) :=
  (list.pieces codec.entrySize).mapM codec.read

end EntryCodec

end Relocation
