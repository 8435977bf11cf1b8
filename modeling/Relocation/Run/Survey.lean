import Relocation.AddressingMode
import Relocation.Region
import Relocation.Run.Refusal
import Relocation.Table.Header

/-!
# Looking before patching

A relocation first finds the table and checks it, then checks every entry of its list.  Nothing is
written until both have succeeded.
-/

namespace Relocation

/-- A table that was found in a region and may be used. -/
structure Survey where
  /-- Offset of the header in the region. -/
  offset : Nat
  /-- Bytes of a pointer in the header. -/
  pointerSize : Nat
  header : Header
  codec : EntryCodec
  /-- Offset of the entry list in the region. -/
  listOffset : Nat
  /-- Bytes of the entry list. -/
  listLength : Nat
  deriving DecidableEq

namespace Survey

/-- The number of entries in the list. -/
def entryCount (survey : Survey) : Nat :=
  survey.listLength / survey.codec.entrySize

end Survey

/-- Why an address of a region is not that of a relocation table. -/
inductive TableFault where
  /-- There is no room for the mark of a table. -/
  | outside
  /-- The mark of a table is not there. -/
  | unmarked
  /-- Behind the mark there is no header of either layout. -/
  | malformed
  deriving DecidableEq, Repr

/-- A header in a region. -/
structure FoundHeader where
  /-- Offset of the header. -/
  offset : Nat
  /-- Bytes of a pointer in the header. -/
  pointerSize : Nat
  header : Header
  deriving DecidableEq, Repr

/-- The header at an address of a region. -/
def Region.headerAt (region : Region) (table : Doubleword) :
    Checked (Except TableFault FoundHeader) :=
  match region.offset? table 8 with
  | none => .ok (.error .outside)
  | some offset => do
    let bytes ← region.data.after offset
    if (← bytes.fetch 0 8) = Header.mark then
      match ← Header.locate bytes with
      | some (pointerSize, header) => return .ok ⟨offset, pointerSize, header⟩
      | none => return .error .malformed
    else
      return .error .unmarked

/-- Finds the table at an address of a region and checks that this mode may use it. -/
def survey (mode : AddressingMode) (region : Region) (table : Doubleword) :
    Checked (Except Refusal Survey) := do
  match ← region.headerAt table with
  | .error _ => return .error (.badTablePointer table)
  | .ok ⟨offset, pointerSize, header⟩ =>
    if header.status ≠ .notStarted then
      return .error .alreadyRelocated
    else if mode.pointerSize < pointerSize then
      return .error (.addressTooWide pointerSize mode.pointerSize)
    else
      match header.codec?, header.firstEntry.sub? header.assembledBase with
      | some codec, some listOffset =>
        let rest ← header.listLength.remainder header.entrySize.toUInt64
        if rest = 0 ∧ region.ContainsOffset listOffset.toNat header.listLength.toNat then
          return .ok
            { offset, pointerSize, header, codec
              listOffset := listOffset.toNat
              listLength := header.listLength.toNat }
        else
          return .error (.badTablePointer table)
      | _, _ => return .error (.badTablePointer table)

/-- Checks that an entry describes an address constant of a region of the given size that this mode
can adjust. -/
def checkEntry (mode : AddressingMode) (regionSize index : Nat) (entry : Entry) :
    Except Refusal Unit :=
  if entry.length < 2 then
    .error (.badEntryLength index entry.length)
  else if mode.maxFieldWidth < entry.length then
    .error (.addressTooWide entry.length.toNat mode.maxFieldWidth.toNat)
  else if entry.stop ≤ regionSize then
    .ok ()
  else
    .error (.entryOutsideRegion index entry.displacement)

/-- Checks packed entries one after the other, the first of them being number `index`. -/
def scanEntries (mode : AddressingMode) (codec : EntryCodec) (regionSize : Nat) :
    Nat → List Storage → Checked (Except Refusal Unit)
  | _, [] => .ok (.ok ())
  | index, packed :: rest => do
    let entry ← codec.read packed
    match checkEntry mode regionSize index entry with
    | .error refusal => return .error refusal
    | .ok () => scanEntries mode codec regionSize (index + 1) rest

/-- Checks every entry of a table. -/
def scan (mode : AddressingMode) (region : Region) (found : Survey) :
    Checked (Except Refusal Unit) := do
  let list ← region.data.slice found.listOffset found.listLength
  scanEntries mode found.codec region.size 0 (list.pieces found.codec.entrySize)

end Relocation
