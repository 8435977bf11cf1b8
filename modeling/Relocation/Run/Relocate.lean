import Relocation.Run.Patch

/-!
# Relocation

A region that was assembled at one address and loaded at another is put right in five steps: the
table is found and checked, every entry is checked, the table is marked as in progress and every
address constant adjusted, then the selected registers and the transfer address, and at last the
table is marked as completed.  A relocation that is refused in the first two steps leaves everything
as it was.
-/

namespace Relocation

/-- What a successful relocation tells its caller. -/
structure Completion where
  /-- The adjusted transfer address, when the table has one. -/
  transferAddress : Option Doubleword
  adjustment : Adjustment
  entriesPatched : Nat
  registersPatched : Nat
  deriving DecidableEq, Repr

/-- The return code of a success, which tells whether there is a transfer address. -/
def Completion.returnCode (completion : Completion) : Nat :=
  if completion.transferAddress.isSome then 0 else 4

/-- One relocation and all it did. -/
structure Run where
  /-- The region afterwards. -/
  region : Region
  /-- The save area afterwards. -/
  saveArea : SaveArea
  /-- The table, if a usable one was found. -/
  found : Option Survey
  /-- The patches made, in order. -/
  patches : List Patch
  /-- The registers adjusted, in order. -/
  registerChanges : List RegisterChange
  outcome : Except Refusal Completion

/-- The distance a region has moved since it was assembled. -/
def Survey.adjustment (found : Survey) (region : Region) : Adjustment :=
  Adjustment.between found.header.assembledBase region.base

/-- The transfer address of a table, adjusted. -/
def Survey.transferAddress (found : Survey) (mode : AddressingMode) (a : Adjustment) :
    Option Doubleword :=
  if found.header.transferAddress = 0 then none
  else some (mode.adjust found.header.transferAddress found.header.registerWidth.toNat a)

/-- Relocates a region whose table was found and whose entries were checked. -/
def relocateFound (mode : AddressingMode) (region : Region) (found : Survey) (saveArea : SaveArea)
    (mask : Option RegisterMask) : Checked Run := do
  let a := found.adjustment region
  let started ← Header.setStatus region.data found.offset found.pointerSize .inProgress
  let patching ← patchEntries mode found a found.entryCount 0 started
  match patching.refusal with
  | some refusal =>
    return { region := { region with data := patching.storage }, saveArea, found := some found,
             patches := patching.patches, registerChanges := [], outcome := .error refusal }
  | none =>
    let registers := (mask.map RegisterMask.registers).getD []
    let (changes, saveArea) ←
      adjustRegisters mode found.header.registerWidth.toNat a registers saveArea
    let completed ← Header.setStatus patching.storage found.offset found.pointerSize .completed
    return { region := { region with data := completed }, saveArea, found := some found,
             patches := patching.patches, registerChanges := changes,
             outcome := .ok
              { transferAddress := found.transferAddress mode a
                adjustment := a
                entriesPatched := patching.patches.length
                registersPatched := changes.length } }

/-- Relocates a region that was loaded at `region.base`, by the table at address `table`.  With a
mask, the saved registers it selects are adjusted as well. -/
def relocate (mode : AddressingMode) (region : Region) (table : Doubleword) (saveArea : SaveArea)
    (mask : Option RegisterMask) : Checked Run := do
  match ← survey mode region table with
  | .error refusal =>
    return { region, saveArea, found := none, patches := [], registerChanges := [],
             outcome := .error refusal }
  | .ok found =>
    match ← scan mode region found with
    | .error refusal =>
      return { region, saveArea, found := some found, patches := [], registerChanges := [],
               outcome := .error refusal }
    | .ok () => relocateFound mode region found saveArea mask

end Relocation
