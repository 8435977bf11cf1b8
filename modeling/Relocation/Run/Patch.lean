import Relocation.Registers
import Relocation.Run.Survey

/-!
# Patching

Each entry is read from the list, checked and its address constant adjusted in place.  The list is
read from the storage as the earlier patches have left it: a table that describes its own entry
list changes it while it is in use, so a check can fail here even after a clean scan.
-/

namespace Relocation

/-- One adjusted address constant. -/
structure Patch where
  /-- Number of the entry in the list. -/
  index : Nat
  /-- The entry as it was read when the patch was made. -/
  entry : Entry
  /-- The address constant before. -/
  before : Doubleword
  /-- The address constant after. -/
  after : Doubleword
  deriving DecidableEq, Repr

/-- What became of an entry list. -/
structure Patching where
  /-- The storage when patching ended. -/
  storage : Storage
  /-- The patches made, in order. -/
  patches : List Patch
  /-- Why patching ended early, if it did. -/
  refusal : Option Refusal
  deriving DecidableEq, Repr

/-- Adjusts the address constant of one entry. -/
def patchEntry (mode : AddressingMode) (found : Survey) (a : Adjustment) (index : Nat)
    (storage : Storage) : Checked (Except Refusal (Patch × Storage)) := do
  let size := found.codec.entrySize
  let entry ← found.codec.read (← storage.slice (found.listOffset + index * size) size)
  match checkEntry mode storage.length index entry with
  | .error refusal => return .error refusal
  | .ok () =>
    let length := entry.length.toNat
    let before ← storage.fetch entry.start length
    let after := mode.adjust before length a
    let storage ← storage.store entry.start length after
    return .ok (⟨index, entry, before, after⟩, storage)

/-- Adjusts the address constants of `count` entries, the first of them being number `index`. -/
def patchEntries (mode : AddressingMode) (found : Survey) (a : Adjustment) :
    (count index : Nat) → Storage → Checked Patching
  | 0, _, storage => .ok ⟨storage, [], none⟩
  | count + 1, index, storage => do
    match ← patchEntry mode found a index storage with
    | .error refusal => return ⟨storage, [], some refusal⟩
    | .ok (patch, storage) =>
      let rest ← patchEntries mode found a count (index + 1) storage
      return { rest with patches := patch :: rest.patches }

/-- One adjusted register. -/
structure RegisterChange where
  register : Nat
  before : Doubleword
  after : Doubleword
  deriving DecidableEq, Repr

/-- Adjusts registers of `width` bytes one after the other. -/
def adjustRegisters (mode : AddressingMode) (width : Nat) (a : Adjustment) :
    List Nat → SaveArea → Checked (List RegisterChange × SaveArea)
  | [], area => .ok ([], area)
  | register :: rest, area => do
    let before ← area.get register
    let after := mode.adjust before width a
    let (changes, area) ← adjustRegisters mode width a rest (← area.set register after)
    return (⟨register, before, after⟩ :: changes, area)

end Relocation
