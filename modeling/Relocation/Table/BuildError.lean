import Relocation.AddressingMode

/-!
# Build errors

Everything that can be wrong with a request to build a relocation table.
-/

namespace Relocation

/-- Why a request to the builder of a table is refused. -/
inductive BuildError where
  | tableAlreadyOpen
  | tableAlreadyBuilt
  | noOpenTable
  | tableClosed
  | invalidEntrySize (size : UInt8)
  /-- Nothing tells how wide the address constant is. -/
  | unrelocatable (label : String)
  | widthTooSmall (label : String) (width : UInt8)
  | widthUnsupported (label : String) (width : UInt8) (mode : AddressingMode)
  | outsideRegion (label : String) (address : Doubleword)
  | displacementTooLarge (label : String) (displacement max : Doubleword)
  | unknownFormat (name : String)
  | malformedConstant (text : String)
  /-- The table would reach past the highest address. -/
  | tableOverflow (start : Doubleword)
  deriving DecidableEq, Repr

/-- The wording of a build error. -/
def BuildError.message : BuildError → String
  | tableAlreadyOpen => "a relocation table is already open for this region"
  | tableAlreadyBuilt => "a relocation table was already built for this region"
  | noOpenTable => "no relocation table has been opened"
  | tableClosed => "the relocation table is closed"
  | invalidEntrySize size =>
    "entry size " ++ Text.decimal size.toNat ++ " is invalid, must be 2, 3 or 4"
  | unrelocatable label =>
    "length of '" ++ label ++ "' cannot be determined, value is not relocatable"
  | widthTooSmall label width =>
    "'" ++ label ++ "' is " ++ Text.decimal width.toNat ++ " byte(s) wide, nothing to relocate"
  | widthUnsupported label width mode =>
    "'" ++ label ++ "' is " ++ Text.decimal width.toNat ++
      " bytes wide, not representable with " ++ mode.render ++ " addresses"
  | outsideRegion label address =>
    "'" ++ label ++ "' at " ++ Text.hexAddress address ++ " is outside the region"
  | displacementTooLarge label displacement max =>
    "displacement " ++ Text.hexAddress displacement ++ " of '" ++ label ++
      "' exceeds the entry maximum " ++ Text.hexAddress max
  | unknownFormat name => "address format '" ++ name ++ "' not recognized"
  | malformedConstant text => "malformed address constant '" ++ text ++ "'"
  | tableOverflow start =>
    "relocation table after " ++ Text.hexAddress start ++ " does not fit below the top of storage"

end Relocation
