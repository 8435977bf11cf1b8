/-!
# Text by the byte

A text can be measured and cut by the bytes it takes in UTF-8.  A cut has to fall between two
characters.
-/

namespace Relocation.Text

/-- The bytes that a text takes. -/
def byteLength : List Char → Nat
  | [] => 0
  | c :: rest => c.utf8Size + byteLength rest

/-- The text before and behind the first `count` bytes, unless the cut falls within a character or
behind the text. -/
def splitAtByte? : Nat → List Char → Option (List Char × List Char)
  | 0, text => some ([], text)
  | _ + 1, [] => none
  | count + 1, c :: rest =>
    if c.utf8Size ≤ count + 1 then
      (splitAtByte? (count + 1 - c.utf8Size) rest).map fun (before, behind) => (c :: before, behind)
    else none

/-- The text from byte `start` on. -/
def fromByte? (start : Nat) (text : List Char) : Option (List Char) :=
  (splitAtByte? start text).map Prod.snd

/-- The text from byte `start` up to byte `stop`. -/
def betweenBytes? (start stop : Nat) (text : List Char) : Option (List Char) :=
  (fromByte? start text).bind fun rest => (splitAtByte? (stop - start) rest).map Prod.fst

end Relocation.Text
