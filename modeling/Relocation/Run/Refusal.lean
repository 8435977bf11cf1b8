import Relocation.Text.Address

/-!
# Refusals

The ways in which a relocation can fail, each with the return code that tells the caller about it.
-/

namespace Relocation

/-- Why a relocation failed. -/
inductive Refusal where
  /-- The address given is not that of a relocation table. -/
  | badTablePointer (table : Doubleword)
  /-- The table was used before. -/
  | alreadyRelocated
  /-- Addresses of the table or of an entry are wider than the addressing mode supports. -/
  | addressTooWide (width supported : Nat)
  | badEntryLength (index : Nat) (length : UInt8)
  | entryOutsideRegion (index : Nat) (displacement : Doubleword)
  deriving DecidableEq, Repr

namespace Refusal

/-- The return code of a refusal. -/
def returnCode : Refusal → Nat
  | badTablePointer _ => 8
  | alreadyRelocated => 12
  | addressTooWide _ _ => 16
  | badEntryLength _ _ => 20
  | entryOutsideRegion _ _ => 24

/-- The wording of a refusal. -/
def message : Refusal → String
  | badTablePointer table => Text.hexAddress table ++ " does not address a relocation table"
  | alreadyRelocated => "relocation table has already been relocated"
  | addressTooWide width supported =>
    "table uses " ++ Text.decimal width ++ "-byte addresses, this relocator supports at most " ++
      Text.decimal supported
  | badEntryLength index length =>
    "entry " ++ Text.decimal index ++ " has invalid length " ++ Text.decimal length.toNat
  | entryOutsideRegion index displacement =>
    "entry " ++ Text.decimal index ++ " at displacement " ++ Text.hexAddress displacement ++
      " lies outside the region"

end Refusal

end Relocation
