import Relocation.ProgramCheck

/-!
# Doublewords

Addresses, displacements, register contents and packed entries are 64-bit unsigned quantities.
Sums and differences of addresses come in three kinds: the ones that are refused when they leave
the 64 bits (`add?`, `advance?`, `sub?`), the ones that stop at the top of storage (`addClamped`),
and the ones whose caller promises that they fit, where a broken promise is a program check
(`difference`).

A doubleword is held in storage big-endian, in any number of bytes up to eight.  `ofBytes` and
`toBytes` are the two directions.
-/

namespace Relocation

/-- A 64-bit unsigned quantity. -/
abbrev Doubleword := UInt64

namespace Doubleword

/-! ### Address arithmetic -/

/-- The sum, unless it needs more than 64 bits. -/
def add? (a b : Doubleword) : Option Doubleword :=
  if a.toNat + b.toNat < UInt64.size then some (a + b) else none

/-- The address `n` bytes further on, unless it needs more than 64 bits. -/
def advance? (a : Doubleword) (n : Nat) : Option Doubleword :=
  if a.toNat + n < UInt64.size then some (UInt64.ofNat (a.toNat + n)) else none

/-- The difference, unless it is negative. -/
def sub? (a b : Doubleword) : Option Doubleword :=
  if b ≤ a then some (a - b) else none

/-- The sum, or the highest address when the sum lies above it. -/
def addClamped (a : Doubleword) (n : Nat) : Doubleword :=
  UInt64.ofNat (min (a.toNat + n) (UInt64.size - 1))

/-- The difference of two values the caller knows to be in order. -/
def difference (a b : Doubleword) : Checked Doubleword :=
  if b ≤ a then .ok (a - b) else .error .overflow

/-- The remainder by a value the caller knows to be nonzero. -/
def remainder (a b : Doubleword) : Checked Doubleword :=
  if b = 0 then .error .divide else .ok (a % b)

/-- Exactly one bit of the value is set. -/
def isPowerOfTwo (a : Doubleword) : Bool :=
  a != 0 && a &&& (a - 1) == 0

/-- The least multiple of `alignment` that is not below `address`, if there is one below `2 ^ 64`.
The alignment has to be a power of two. -/
def alignUp (address alignment : Doubleword) : Checked (Option Doubleword) :=
  if alignment.isPowerOfTwo then
    .ok ((add? address (alignment - 1)).map (· &&& ~~~(alignment - 1)))
  else
    .error .specification

/-- The mask that selects the low-order `bytes` bytes.  Eight bytes are all there is. -/
def lowMask (bytes : Nat) : Doubleword :=
  UInt64.ofNat (1 <<< (8 * min bytes 8) - 1)

/-! ### Big-endian bytes -/

/-- The value of a string of bytes, most significant byte first.  Of more than eight bytes the
last eight count. -/
def ofBytes (bytes : List UInt8) : Doubleword :=
  bytes.foldl (fun value byte => value * 256 + byte.toUInt64) 0

/-- The low-order `n` bytes of a value, most significant byte first. -/
def toBytes : Nat → Doubleword → List UInt8
  | 0, _ => []
  | n + 1, value => toBytes n (value >>> 8) ++ [value.toUInt8]

/-- Reads a field of at most eight bytes. -/
def read (bytes : List UInt8) : Checked Doubleword :=
  if bytes.length ≤ 8 then .ok (ofBytes bytes) else .error .specification

/-- The bytes of a field of at most eight bytes that holds the low-order part of `value`. -/
def write (length : Nat) (value : Doubleword) : Checked (List UInt8) :=
  if length ≤ 8 then .ok (toBytes length value) else .error .specification

@[simp] theorem length_toBytes (n : Nat) (value : Doubleword) : (toBytes n value).length = n := by
  induction n generalizing value with
  | zero => rfl
  | succ n ih => simp [toBytes, ih]

end Doubleword

end Relocation
