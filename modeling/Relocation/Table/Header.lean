import Relocation.Table.Entry
import Relocation.Table.Status

/-!
# Table headers

A relocation table is a header and a list of packed entries.  All fields are big-endian.  The five
pointer fields of the header are `W` bytes wide, where `W` is the pointer size of the addressing
mode the table was built for:

| offset     | field            | width |
|------------|------------------|-------|
| 0          | eyecatcher       | 8     |
| 8          | assembled base   | W     |
| 8 + W      | transfer address | W     |
| 8 + 2W     | first entry      | W     |
| 8 + 3W     | entry size       | W     |
| 8 + 4W     | last entry byte  | W     |
| 8 + 5W     | register width   | 1     |
| 8 + 5W + 1 | status flags     | 1     |

A reader of a table does not know `W`.  It tries four bytes, then eight, and takes the first layout
that makes sense (`Header.locate`).
-/

namespace Relocation

/-- The header of a relocation table. -/
structure Header where
  /-- The mark in front of a table. -/
  eyecatcher : Doubleword
  /-- The address the region was assembled at. -/
  assembledBase : Doubleword
  /-- The program's entry point, zero when there is none. -/
  transferAddress : Doubleword
  /-- Assembled address of the first entry. -/
  firstEntry : Doubleword
  /-- Bytes of an entry. -/
  entrySize : UInt8
  /-- Assembled address of the last byte of the entry list. -/
  lastEntryByte : Doubleword
  /-- Bytes of a register, and of a pointer in the header. -/
  registerWidth : UInt8
  /-- How far relocation has come. -/
  status : Status
  deriving DecidableEq, Repr

namespace Header

/-- The mark in front of every table: `RELOCTBL` in EBCDIC. -/
def mark : Doubleword := 0xD9C5D3D6C3E3C2D3

/-! ### Layout -/

/-- Bytes of a header. -/
def size (pointerSize : Nat) : Nat :=
  8 + 5 * pointerSize + 2

/-- Offset of one of the five pointer fields. -/
def pointerOffset (pointerSize index : Nat) : Nat :=
  8 + index * pointerSize

/-- Offset of the register width. -/
def registerWidthOffset (pointerSize : Nat) : Nat :=
  8 + 5 * pointerSize

/-- Offset of the status flags. -/
def statusOffset (pointerSize : Nat) : Nat :=
  8 + 5 * pointerSize + 1

/-- The bytes of a header whose pointers have the given size.  Of each pointer the low-order bytes
are kept. -/
def encode (header : Header) (pointerSize : Nat) : Storage :=
  Doubleword.toBytes 8 header.eyecatcher ++
    (Doubleword.toBytes pointerSize header.assembledBase ++
    (Doubleword.toBytes pointerSize header.transferAddress ++
    (Doubleword.toBytes pointerSize header.firstEntry ++
    (Doubleword.toBytes pointerSize header.entrySize.toUInt64 ++
    (Doubleword.toBytes pointerSize header.lastEntryByte ++
    [header.registerWidth, header.status.flags])))))

/-- Writes a header.  A pointer has at most eight bytes. -/
def write (header : Header) (pointerSize : Nat) : Checked Storage :=
  if pointerSize ≤ 8 then .ok (header.encode pointerSize) else .error .specification

/-- Reads the header at the start of `bytes`, if they are enough.  An entry size that is not a byte
reads as zero.  The size of the header has to be a doubleword. -/
def read (bytes : Storage) (pointerSize : Nat) : Checked (Option Header) :=
  if UInt64.size ≤ size pointerSize then .error .overflow
  else if bytes.length < size pointerSize then .ok none
  else do
    let eyecatcher ← bytes.fetch 0 8
    let assembledBase ← bytes.fetch (pointerOffset pointerSize 0) pointerSize
    let transferAddress ← bytes.fetch (pointerOffset pointerSize 1) pointerSize
    let firstEntry ← bytes.fetch (pointerOffset pointerSize 2) pointerSize
    let entrySize ← bytes.fetch (pointerOffset pointerSize 3) pointerSize
    let lastEntryByte ← bytes.fetch (pointerOffset pointerSize 4) pointerSize
    let registerWidth ← bytes.byteAt (registerWidthOffset pointerSize)
    let flags ← bytes.byteAt (statusOffset pointerSize)
    return some
      { eyecatcher, assembledBase, transferAddress, firstEntry
        entrySize := if entrySize < 256 then entrySize.toUInt8 else 0
        lastEntryByte, registerWidth, status := Status.ofFlags flags }

/-- The register width of a header with pointers of the given size. -/
def registerWidthAt? (bytes : Storage) (pointerSize : Nat) : Option UInt8 :=
  bytes[registerWidthOffset pointerSize]?

/-- Reads the register width of a header with pointers of the given size, if `bytes` reach that far.
Its offset has to be a doubleword. -/
def readRegisterWidth (bytes : Storage) (pointerSize : Nat) : Checked (Option UInt8) :=
  if UInt64.size ≤ registerWidthOffset pointerSize then .error .overflow
  else .ok (registerWidthAt? bytes pointerSize)

/-- Sets the status of the header at offset `start`. -/
def setStatus (storage : Storage) (start pointerSize : Nat) (status : Status) : Checked Storage :=
  storage.overlay (start + statusOffset pointerSize) [status.flags]

/-! ### The entry list -/

/-- Bits of a packed entry that hold the width, in a table of the given register width. -/
def lengthBits? (registerWidth : UInt8) : Option Nat :=
  if registerWidth = 4 then some 2 else if registerWidth = 8 then some 3 else none

/-- The codec of the table's entries, if entry size and register width allow one. -/
def codec? (header : Header) : Option EntryCodec :=
  (lengthBits? header.registerWidth).bind (EntryCodec.of? header.entrySize.toNat)

/-- Assembled address behind the entry list. -/
def listEnd (header : Header) : Doubleword :=
  header.lastEntryByte + 1

/-- Bytes of the entry list.  An empty list ends one byte below its first entry. -/
def listLength (header : Header) : Doubleword :=
  if header.firstEntry ≤ header.listEnd then header.listEnd - header.firstEntry else 0

/-- The entries in the bytes of an entry list. -/
def entries (header : Header) (list : Storage) : Checked (List Entry) :=
  match header.codec? with
  | some codec => codec.readList list
  | none => .ok []

/-! ### Finding the layout -/

/-- The entry list starts at or above the assembled base and holds a whole number of entries. -/
def isConsistent (header : Header) : Checked Bool :=
  if header.entrySize ≠ 0 ∧ header.assembledBase ≤ header.firstEntry ∧
      header.firstEntry ≤ header.listEnd then do
    let length ← header.listEnd.difference header.firstEntry
    return (← length.remainder header.entrySize.toUInt64) == 0
  else
    .ok false

/-- Reads a header with pointers of the given size, if its register width is that size, its status
flags are plain, its entries have a codec and its entry list is consistent. -/
def probe (bytes : Storage) (pointerSize : Nat) : Checked (Option Header) :=
  if registerWidthAt? bytes pointerSize ≠ some (UInt8.ofNat pointerSize) then .ok none
  else
    match bytes[statusOffset pointerSize]? with
    | none => .ok none
    | some flags =>
      if Status.PlainFlags flags then do
        match ← read bytes pointerSize with
        | none => return none
        | some header =>
          if header.codec?.isSome then
            return if ← header.isConsistent then some header else none
          else
            return none
      else
        .ok none

/-- Finds the pointer size of the header at the start of `bytes`, and the header.  The register
width of the four-byte layout falls into the first entry pointer of the eight-byte layout, so a
match of that byte alone is not enough. -/
def locate (bytes : Storage) : Checked (Option (Nat × Header)) := do
  match ← probe bytes 4 with
  | some header => return some (4, header)
  | none => return (← probe bytes 8).map (8, ·)

end Header

end Relocation
