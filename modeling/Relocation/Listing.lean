import Relocation.Run.Survey

/-!
# Listings

The listing of a table shows its header and then its entries.  The entry list is looked up by the
address the image is listed at, so that an image listed at a base of its own choice shows the header
all the same.
-/

namespace Relocation

/-- Why the entries of a table are not listed. -/
inductive ListFault where
  /-- The register width is not one of a table. -/
  | badRegisterWidth
  /-- The entry list is not inside the image. -/
  | outside
  deriving DecidableEq, Repr

/-- What is said when the entries are not listed. -/
def ListFault.message : ListFault → String
  | badRegisterWidth => "bad register width"
  | outside => "entry list lies outside the image"

/-- The entries of a table. -/
structure EntryListing where
  /-- Bits of a packed entry that hold the width. -/
  lengthBits : Nat
  entries : List Entry
  deriving DecidableEq, Repr

/-- The entries of a table in an image. -/
def Region.listEntries (image : Region) (header : Header) :
    Checked (Except ListFault EntryListing) :=
  match Header.lengthBits? header.registerWidth with
  | none => .ok (.error .badRegisterWidth)
  | some lengthBits =>
    match image.offset? header.firstEntry header.listLength.toNat with
    | none => .ok (.error .outside)
    | some start => do
      let list ← image.data.slice start header.listLength.toNat
      return .ok ⟨lengthBits, ← header.entries list⟩

/-- What a listing shows. -/
structure Listing where
  /-- The address the table was looked up at. -/
  table : Doubleword
  header : Header
  entries : Except ListFault EntryListing

/-- Lists the table at an address of an image. -/
def Region.list (image : Region) (table : Doubleword) : Checked (Except TableFault Listing) := do
  match ← image.headerAt table with
  | .error fault => return .error fault
  | .ok found => return .ok ⟨table, found.header, ← image.listEntries found.header⟩

/-! ### Text -/

/-- What is said of an address that is not that of a table. -/
def TableFault.message (table : Doubleword) : TableFault → String
  | outside => "table address is outside the image"
  | unmarked => "no relocation table at " ++ Text.reportAddress table
  | malformed => "relocation table header is malformed"

/-- The lines that show a header found at an address. -/
def Header.report (header : Header) (table : Doubleword) : List String :=
  ["table at " ++ Text.reportAddress table,
   "  assembled base   " ++ Text.reportAddress header.assembledBase,
   "  transfer address " ++ Text.reportAddress header.transferAddress,
   "  entries          " ++ Text.reportAddress header.firstEntry ++ "..=" ++
     Text.reportAddress header.lastEntryByte,
   "  entry size       " ++ Text.decimal header.entrySize.toNat,
   "  register width   " ++ Text.decimal header.registerWidth.toNat,
   "  status           " ++ header.status.render]

/-- The line that shows one entry. -/
def Entry.report (entry : Entry) (lengthBits index : Nat) : String :=
  "  [" ++ Text.padLeft 4 ' ' (Text.decimal index) ++ "] length " ++
    Text.decimal entry.length.toNat ++ " displacement " ++ Text.reportAddress entry.displacement ++
    " (" ++ Text.decimal lengthBits ++ " length bits)"

/-- The lines that show the entries. -/
def EntryListing.report (listing : EntryListing) : List String :=
  listing.entries.zipIdx.map fun (entry, index) => entry.report listing.lengthBits index

end Relocation
