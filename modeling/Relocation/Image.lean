import Relocation.Table.Draft

/-!
# Images

An image is what is loaded: the bytes of a region and, at its assembled address, the relocation
table.  The gap between the two is filled with zeros.  It is as long as the address of the table
asks for, so that an image is the one piece of storage whose length can outgrow what storage can
have.
-/

namespace Relocation

/-- The table starts inside the region. -/
structure ImageError where
  /-- Assembled address of the table. -/
  table : Doubleword
  /-- The address behind the region. -/
  regionEnd : Doubleword
  deriving DecidableEq, Repr

/-- The wording of an image error. -/
def ImageError.message (e : ImageError) : String :=
  "table at " ++ Text.hexAddress e.table ++ " overlaps the region ending at " ++
    Text.hexAddress e.regionEnd

namespace Storage

/-- The most bytes that storage can have, the largest number of a signed doubleword. -/
def capacity : Nat := 0x7FFFFFFFFFFFFFFF

/-- The storage brought to a length, by zeros behind it or by cutting it off. -/
def resize (storage : Storage) (length : Nat) : Checked Storage :=
  if length ≤ capacity then
    .ok (storage.take length ++ List.replicate (length - storage.length) 0)
  else
    .error .capacity

/-- The storage with more bytes behind it. -/
def extend (storage bytes : Storage) : Checked Storage :=
  if storage.length + bytes.length ≤ capacity then .ok (storage ++ bytes) else .error .capacity

end Storage

/-- Lays out a region and its table as one piece of storage. -/
def Region.withTable (region : Region) (table : BuiltTable) : Checked (Except ImageError Storage) :=
  if table.address < region.end then
    .ok (.error ⟨table.address, region.end⟩)
  else do
    let offset ← table.address.difference region.base
    let front ← Storage.resize region.data offset.toNat
    return .ok (← front.extend table.encode)

end Relocation
