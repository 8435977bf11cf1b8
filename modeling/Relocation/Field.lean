import Relocation.Doubleword

/-!
# Address fields

A field is the part of a labelled piece of storage that holds an address: its displacement from the
label and its width in bytes.  The catalogue of formats knows where the address stands in the
control blocks that programs build in storage: channel command words, program status words and
operation request blocks.
-/

namespace Relocation

/-- Where an address stands, relative to a label. -/
structure Field where
  /-- Distance from the label, in bytes. -/
  displacement : Doubleword
  /-- Width in bytes. -/
  width : UInt8
  deriving DecidableEq, Repr

/-- A control block whose address field the catalogue knows. -/
inductive BlockFormat where
  /-- Format-0 channel command word. -/
  | ccw0
  /-- Format-1 channel command word. -/
  | ccw1
  /-- Program status word with a 16-bit instruction address. -/
  | psw16
  /-- Program status word with a 24-bit instruction address. -/
  | psw24
  /-- Program status word with a 31-bit instruction address. -/
  | psw31
  /-- Program status word with a 64-bit instruction address. -/
  | psw64
  /-- Operation request block. -/
  | orb
  deriving DecidableEq, Repr

namespace BlockFormat

/-- The whole catalogue. -/
def catalogue : List BlockFormat :=
  [ccw0, ccw1, psw16, psw24, psw31, psw64, orb]

/-- The name of a format. -/
def name : BlockFormat → String
  | ccw0 => "ccw0"
  | ccw1 => "ccw1"
  | psw16 => "psw16"
  | psw24 => "psw24"
  | psw31 => "psw31"
  | psw64 => "psw64"
  | orb => "orb"

/-- Where the address stands in the block. -/
def field : BlockFormat → Field
  | ccw0 => ⟨1, 3⟩
  | ccw1 => ⟨4, 4⟩
  | psw16 => ⟨6, 2⟩
  | psw24 => ⟨5, 3⟩
  | psw31 => ⟨4, 4⟩
  | psw64 => ⟨8, 8⟩
  | orb => ⟨8, 4⟩

/-- The format of a name, whose ASCII letters may be of either case. -/
def ofName? (text : List Char) : Option BlockFormat :=
  catalogue.find? fun format => text.map Char.toLower == format.name.toList

end BlockFormat

end Relocation
