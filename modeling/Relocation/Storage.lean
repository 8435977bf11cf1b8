import Relocation.Doubleword

/-!
# Storage

Storage is a string of bytes, addressed by offset.  A reference to bytes outside it is an
addressing check; nothing is cut short or padded.
-/

namespace Relocation

/-- A string of bytes. -/
abbrev Storage := List UInt8

namespace Storage

/-- The bytes from offset `start` to the end. -/
def after (storage : Storage) (start : Nat) : Checked Storage :=
  if start ≤ storage.length then .ok (storage.drop start) else .error .addressing

/-- The `length` bytes from offset `start` on. -/
def slice (storage : Storage) (start length : Nat) : Checked Storage :=
  if start + length ≤ storage.length then .ok ((storage.drop start).take length)
  else .error .addressing

/-- The byte at an offset. -/
def byteAt (storage : Storage) (offset : Nat) : Checked UInt8 :=
  match storage[offset]? with
  | some byte => .ok byte
  | none => .error .addressing

/-- The storage with `bytes` laid over it from offset `start` on. -/
def overlay (storage : Storage) (start : Nat) (bytes : Storage) : Checked Storage :=
  if start + bytes.length ≤ storage.length then
    .ok (storage.take start ++ (bytes ++ storage.drop (start + bytes.length)))
  else
    .error .addressing

/-- The value of the field of `length` bytes at offset `start`. -/
def fetch (storage : Storage) (start length : Nat) : Checked Doubleword := do
  Doubleword.read (← storage.slice start length)

/-- The storage with the field of `length` bytes at offset `start` set to `value`. -/
def store (storage : Storage) (start length : Nat) (value : Doubleword) : Checked Storage := do
  storage.overlay start (← Doubleword.write length value)

/-- Piece number `index` of the storage cut into pieces of `size` bytes. -/
def piece (storage : Storage) (size index : Nat) : Storage :=
  (storage.drop (index * size)).take size

/-- The storage cut into pieces of `size` bytes.  A shorter piece at the end is dropped. -/
def pieces (storage : Storage) (size : Nat) : List Storage :=
  (List.range (storage.length / size)).map (storage.piece size)

end Storage

end Relocation
