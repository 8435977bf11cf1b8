import Relocation.Table.BuildError
import Relocation.Text.Split

/-!
# Address constants

An address constant is a labelled piece of storage together with a request: which part of it holds
an address.  The request may name a format of the catalogue, give width and displacement outright,
or leave the width to the label's length attribute.

In text an address constant is `ADDR`, `ADDR:FORMAT` or `ADDR:LEN[+DISP]`; a bare `ADDR` stands for
the four bytes at that address.
-/

namespace Relocation

/-- A named place in storage. -/
structure Label where
  /-- The name, which only messages show. -/
  name : String
  /-- Assembled address of the labelled storage. -/
  address : Doubleword
  /-- The length attribute in bytes, where it is known. -/
  length : Option UInt8
  deriving DecidableEq, Repr

/-- The label of a bare address, named after it. -/
def Label.ofAddress (address : Doubleword) : Label where
  name := "@" ++ Text.upperHex address.toNat
  address := address
  length := none

/-- The label of a bare address stands at this address. -/
@[simp] theorem Label.address_ofAddress (address : Doubleword) :
    (Label.ofAddress address).address = address :=
  rfl

/-- What is known about the part of the labelled storage that holds an address. -/
structure FieldRequest where
  format : Option BlockFormat
  length : Option UInt8
  displacement : Option Doubleword
  deriving DecidableEq, Repr

namespace FieldRequest

/-- The field of a catalogue format. -/
def ofFormat (format : BlockFormat) : FieldRequest :=
  ⟨some format, none, none⟩

/-- A field of a given width at a given displacement. -/
def explicit (length : UInt8) (displacement : Doubleword) : FieldRequest :=
  ⟨none, some length, some displacement⟩

/-- The width asked for: the given one before the catalogue's before the label's. -/
def width? (request : FieldRequest) (label : Label) : Option UInt8 :=
  request.length <|> request.format.map (·.field.width) <|> label.length

/-- The displacement asked for: the given one before the catalogue's before zero. -/
def offset (request : FieldRequest) : Doubleword :=
  (request.displacement <|> request.format.map (·.field.displacement)).getD 0

end FieldRequest

/-- A labelled piece of storage that holds an address. -/
structure AddressConstant where
  label : Label
  request : FieldRequest
  deriving DecidableEq, Repr

namespace AddressConstant

/-- The field asked for, if its width can be told. -/
def field (constant : AddressConstant) : Except BuildError Field :=
  match constant.request.width? constant.label with
  | some width => .ok ⟨constant.request.offset, width⟩
  | none => .error (.unrelocatable constant.label.name)

/-! ### Text -/

/-- Reads `LEN` or `LEN+DISP`. -/
def readExtent (text : List Char) : Option FieldRequest :=
  match Text.splitAtFirst '+' text with
  | none =>
    match Text.readNatural .decimal 256 text with
    | .ok length => some (.explicit (UInt8.ofNat length) 0)
    | .error _ => none
  | some (length, displacement) =>
    match Text.readAddress displacement, Text.readNatural .decimal 256 length with
    | .ok displacement, .ok length => some (.explicit (UInt8.ofNat length) displacement)
    | _, _ => none

/-- Reads what follows the colon: an extent when it starts with a digit, a format name otherwise.
Of a bad extent the whole constant `text` is at fault. -/
def readField (text : String) (field : List Char) : Except BuildError FieldRequest :=
  if field.head?.any Char.isDigit then
    match readExtent field with
    | some request => .ok request
    | none => .error (.malformedConstant text)
  else
    match BlockFormat.ofName? field with
    | some format => .ok (.ofFormat format)
    | none => .error (.unknownFormat (String.ofList field))

/-- Reads an address constant. -/
def parse (text : String) : Except BuildError AddressConstant :=
  let (address, field) :=
    match Text.splitAtFirst ':' text.toList with
    | some (address, field) => (address, some field)
    | none => (text.toList, none)
  match Text.readAddress address with
  | .error _ => .error (.malformedConstant text)
  | .ok address =>
    match field with
    | none => .ok ⟨.ofAddress address, .explicit 4 0⟩
    | some field => (readField text field).map (⟨.ofAddress address, ·⟩)

end AddressConstant

end Relocation
