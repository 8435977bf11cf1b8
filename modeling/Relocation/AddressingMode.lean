import Relocation.Adjustment
import Relocation.Field

/-!
# Addressing modes

A machine addresses storage with 24, 31 or 64 bits.  The mode decides how wide the pointers of a
relocation table are, which fields a table may describe, and which bits of a field are address bits:

* with 24-bit addresses the high-order byte of a four-byte field is not part of the address, so a
  table describes the low three bytes only;
* with 31-bit addresses the leftmost bit of a four-byte field is the mode bit, which stays as it is;
* with 64-bit addresses every bit of a field counts.
-/

namespace Relocation

/-- The number of bits in an address. -/
inductive AddressingMode where
  | bits24
  | bits31
  | bits64
  deriving DecidableEq, Repr

namespace AddressingMode

/-- The number of bits in an address, as a number. -/
def bits : AddressingMode → Nat
  | bits24 => 24
  | bits31 => 31
  | bits64 => 64

/-- The mode as messages name it. -/
def render (mode : AddressingMode) : String :=
  Text.decimal mode.bits ++ "-bit"

/-- The mode written as its number of bits. -/
def parse? : String → Option AddressingMode
  | "24" => some bits24
  | "31" => some bits31
  | "64" => some bits64
  | _ => none

/-- What is said of a text that names no mode. -/
def unsupported (text : String) : String :=
  "unsupported address width '" ++ text ++ "', expected 24, 31 or 64"

/-- Bytes of a pointer in the table header, and of a saved register. -/
def pointerSize : AddressingMode → Nat
  | bits24 => 4
  | bits31 => 4
  | bits64 => 8

/-- The widest field, in bytes, that is relocated. -/
def maxFieldWidth : AddressingMode → UInt8
  | bits24 => 4
  | bits31 => 4
  | bits64 => 8

/-- The high-order bits of a packed entry that hold the width of the field. -/
def lengthBits (mode : AddressingMode) : Nat :=
  if mode.pointerSize = 8 then 3 else 2

/-- The mode describes the field by its low-order three bytes. -/
def narrows (mode : AddressingMode) (field : Field) : Bool :=
  mode == bits24 && field.width == 4

/-- The part of a field that a table entry describes, if the mode can describe it. -/
def fit? (mode : AddressingMode) (field : Field) : Option Field :=
  if mode.narrows field then
    (Doubleword.add? field.displacement 1).map fun displacement => ⟨displacement, 3⟩
  else if mode.maxFieldWidth < field.width then none
  else some field

/-- Moves the address in a field of `length` bytes that holds `value`. -/
def adjust (mode : AddressingMode) (value : Doubleword) (length : Nat) (a : Adjustment) :
    Doubleword :=
  match mode, length with
  | bits24, 4 => (value &&& 0xFF000000) ||| a.applyMasked value 0x00FFFFFF
  | bits31, 4 => (value &&& 0x80000000) ||| a.applyMasked value 0x7FFFFFFF
  | _, _ => a.applyMasked value (Doubleword.lowMask length)

end AddressingMode

end Relocation
