import Relocation.Text.Numeral
import Relocation.Doubleword

/-!
# General registers

A program that is relocated may have addresses in its registers.  The caller saves the sixteen
general registers and selects the ones to adjust by a mask of sixteen bits, the leftmost of which
stands for register 0.  Registers 0 and 15 are never adjusted: the former cannot hold a base, the
latter holds the return code.
-/

namespace Relocation

/-! ### The save area -/

/-- The saved contents of registers 0 to 15. -/
structure SaveArea where
  words : Vector Doubleword 16
  deriving DecidableEq, Repr

namespace SaveArea

/-- All registers zero. -/
def clear : SaveArea :=
  ⟨Vector.replicate 16 0⟩

/-- The saved contents of a register. -/
def get (area : SaveArea) (register : Nat) : Checked Doubleword :=
  if h : register < 16 then .ok area.words[register] else .error .addressing

/-- The save area with the contents of one register replaced. -/
def set (area : SaveArea) (register : Nat) (value : Doubleword) : Checked SaveArea :=
  if h : register < 16 then .ok ⟨area.words.set register value⟩ else .error .addressing

end SaveArea

/-! ### Register masks -/

/-- A selection of registers. -/
structure RegisterMask where
  bits : UInt16
  deriving DecidableEq, Repr

namespace RegisterMask

/-- The bit that stands for a register. -/
def bit (register : Nat) : UInt16 :=
  UInt16.ofNat (1 <<< (15 - register))

/-- The registers that are never adjusted. -/
def reserved : UInt16 :=
  bit 0 ||| bit 15

/-- The mask that selects the given registers.  Numbers above 15 are passed over. -/
def ofList (registers : List Nat) : RegisterMask :=
  ⟨(registers.filter (· < 16)).foldl (fun bits register => bits ||| bit register) 0⟩

/-- No register is selected. -/
def isEmpty (mask : RegisterMask) : Bool :=
  mask.bits == 0

/-- The register is selected. -/
def contains (mask : RegisterMask) (register : Nat) : Bool :=
  register < 16 && mask.bits &&& bit register != 0

/-- The registers whose bits are set in `bits`, by taking off the leftmost bit up to `count`
times. -/
def scan : (count bits : Nat) → List Nat
  | 0, _ => []
  | count + 1, bits =>
    if bits = 0 then [] else (15 - bits.log2) :: scan count (bits - 1 <<< bits.log2)

/-- The selected registers that may be adjusted, in ascending order. -/
def registers (mask : RegisterMask) : List Nat :=
  scan 16 (mask.bits &&& ~~~reserved).toNat

/-- The mask as four hexadecimal digits. -/
def render (mask : RegisterMask) : String :=
  Text.padLeft 4 '0' (Text.upperHex mask.bits.toNat)

/-- Reads a mask, which is exactly four hexadecimal digits. -/
def parse? (text : String) : Option RegisterMask :=
  match text.toList.mapM (Text.Radix.digit? .hexadecimal) with
  | some [a, b, c, d] => some ⟨UInt16.ofNat (((a * 16 + b) * 16 + c) * 16 + d)⟩
  | _ => none

/-- What is said of a text that is no mask. -/
def malformed (text : String) : String :=
  "register mask '" ++ text ++ "' must be exactly four hex digits"

end RegisterMask

end Relocation
