import Relocation.AddressConstant
import Relocation.Region
import Relocation.Table.Header

/-!
# Building a table

A draft is the table of one region while it is being built.  It is opened once, takes address
constants one after the other, and is closed once.  Closing lays the table out, either behind the
region at the next doubleword boundary or at an address of its own.  Every request gives an answer
and the draft after it.  A refused request leaves the draft as it was, with one exception: a table
that does not fit below the top of storage is closed all the same.
-/

namespace Relocation

/-- A table that takes entries. -/
structure OpenTable where
  codec : EntryCodec
  transferAddress : Doubleword
  /-- The packed entries so far. -/
  entries : Storage
  deriving DecidableEq

/-- Where a draft stands. -/
inductive DraftState where
  | idle
  | opened (table : OpenTable)
  | closed
  deriving DecidableEq

/-- The table of one region while it is being built. -/
structure Draft where
  mode : AddressingMode
  /-- The address the region was assembled at. -/
  assembledBase : Doubleword
  /-- The address of the next free byte behind the region. -/
  locationCounter : Doubleword
  state : DraftState
  deriving DecidableEq

/-- Where a closed table goes. -/
inductive Placement where
  /-- Behind the region, at the next doubleword boundary.  The location counter moves past it. -/
  | append
  /-- At an address of its own.  The location counter stays where it is. -/
  | separate (address : Doubleword)
  deriving DecidableEq, Repr

/-- A table that is ready to be placed in storage. -/
structure BuiltTable where
  /-- Assembled address of the header. -/
  address : Doubleword
  header : Header
  /-- The packed entries. -/
  entries : Storage
  /-- Bytes of a pointer in the header. -/
  pointerSize : Nat
  deriving DecidableEq, Repr

namespace BuiltTable

/-- The header followed by the entry list. -/
def encode (table : BuiltTable) : Storage :=
  table.header.encode table.pointerSize ++ table.entries

/-- Bytes of the table. -/
def length (table : BuiltTable) : Nat :=
  Header.size table.pointerSize + table.entries.length

/-- The table has no entries. -/
def isEmpty (table : BuiltTable) : Bool :=
  table.entries.isEmpty

/-- The number of entries. -/
def entryCount (table : BuiltTable) : Nat :=
  table.entries.length / table.header.entrySize.toNat

end BuiltTable

namespace Draft

/-- A draft for a region of `size` bytes.  A region that reaches past the highest address is cut
off there. -/
def new (mode : AddressingMode) (assembledBase : Doubleword) (size : Nat) : Draft where
  mode := mode
  assembledBase := assembledBase
  locationCounter := assembledBase.addClamped size
  state := .idle

/-- A draft for a region at the address it was assembled at. -/
def ofRegion (mode : AddressingMode) (region : Region) : Draft :=
  new mode region.base region.size

/-- Opens the table. -/
def openTable (draft : Draft) (entrySize : UInt8) (transferAddress : Option Doubleword) :
    Except BuildError Unit × Draft :=
  match draft.state with
  | .opened _ => (.error .tableAlreadyOpen, draft)
  | .closed => (.error .tableAlreadyBuilt, draft)
  | .idle =>
    match EntryCodec.of? entrySize.toNat draft.mode.lengthBits with
    | none => (.error (.invalidEntrySize entrySize), draft)
    | some codec =>
      (.ok (), { draft with state := .opened ⟨codec, transferAddress.getD 0, []⟩ })

/-- The field that an address constant asks for.  It has at least two bytes, and its end has an
address of its own. -/
def requestedField (constant : AddressConstant) : Except BuildError Field :=
  match constant.field with
  | .error e => .error e
  | .ok field =>
    if field.width < 2 then
      .error (.widthTooSmall constant.label.name field.width)
    else if (Doubleword.add? field.displacement field.width.toUInt64).isNone then
      .error (.outsideRegion constant.label.name constant.label.address)
    else
      .ok field

/-- The entry for a field of a label, if all of it lies in the `regionSize` bytes from `base` on. -/
def entryWithin? (base regionSize : Doubleword) (label : Label) (field : Field) : Option Entry := do
  let offset ← Doubleword.sub? label.address base
  let displacement ← Doubleword.add? offset field.displacement
  let stop ← Doubleword.add? displacement field.width.toUInt64
  if stop ≤ regionSize then some ⟨field.width, displacement⟩ else none

/-- The entry for an address constant in an open table, with its packed form. -/
def pack (draft : Draft) (table : OpenTable) (constant : AddressConstant) :
    Checked (Except BuildError (Entry × Doubleword)) :=
  match requestedField constant with
  | .error e => .ok (.error e)
  | .ok requested =>
    match draft.mode.fit? requested with
    | none => .ok (.error (.widthUnsupported constant.label.name requested.width draft.mode))
    | some field => do
      let regionSize ← draft.locationCounter.difference draft.assembledBase
      match entryWithin? draft.assembledBase regionSize constant.label field with
      | none => return .error (.outsideRegion constant.label.name constant.label.address)
      | some entry =>
        match table.codec.encode? entry with
        | none =>
          return .error (.displacementTooLarge constant.label.name entry.displacement
            table.codec.maxDisplacement)
        | some packed => return .ok (entry, packed)

/-- Adds an address constant to the open table. -/
def addEntry (draft : Draft) (constant : AddressConstant) :
    Checked (Except BuildError Entry × Draft) :=
  match draft.state with
  | .idle => .ok (.error .noOpenTable, draft)
  | .closed => .ok (.error .tableClosed, draft)
  | .opened table => do
    match ← draft.pack table constant with
    | .error e => return (.error e, draft)
    | .ok (entry, packed) =>
      let entries := table.entries ++ (← table.codec.write packed)
      return (.ok entry, { draft with state := .opened { table with entries } })

/-- Where a placement wants the table, before it is brought to a doubleword boundary. -/
def wantedAddress (draft : Draft) : Placement → Doubleword
  | .append => draft.locationCounter
  | .separate address => address

/-- Where a placement puts the table, if that is below the top of storage. -/
def tableAddress (draft : Draft) : Placement → Checked (Option Doubleword)
  | .append => draft.locationCounter.alignUp 8
  | .separate address => .ok (some address)

/-- The open table, laid out at an address, if it ends below the top of storage. -/
def layOutAt? (draft : Draft) (table : OpenTable) (address : Doubleword) : Option BuiltTable := do
  let pointerSize := draft.mode.pointerSize
  let firstEntry ← address.advance? (Header.size pointerSize)
  let stop ← firstEntry.advance? table.entries.length
  return {
    address
    header :=
      { eyecatcher := Header.mark
        assembledBase := draft.assembledBase
        transferAddress := table.transferAddress
        firstEntry
        entrySize := UInt8.ofNat table.codec.entrySize
        lastEntryByte := stop - 1
        registerWidth := UInt8.ofNat pointerSize
        status := .notStarted }
    entries := table.entries
    pointerSize }

/-- Lays out an open table. -/
def layOut (draft : Draft) (table : OpenTable) (placement : Placement) :
    Checked (Except BuildError BuiltTable) := do
  match (← draft.tableAddress placement).bind (draft.layOutAt? table) with
  | none => return .error (.tableOverflow (draft.wantedAddress placement))
  | some built => return .ok built

/-- Closes the table. -/
def closeTable (draft : Draft) (placement : Placement) :
    Checked (Except BuildError BuiltTable × Draft) :=
  match draft.state with
  | .idle => .ok (.error .noOpenTable, draft)
  | .closed => .ok (.error .tableClosed, draft)
  | .opened table => do
    match ← draft.layOut table placement with
    | .error e => return (.error e, { draft with state := .closed })
    | .ok built =>
      let locationCounter := match placement with
        | .append => built.header.listEnd
        | .separate _ => draft.locationCounter
      return (.ok built, { draft with locationCounter, state := .closed })

end Draft

end Relocation
