import Relocation.Doubleword
import Relocation.Text.Blank
import Relocation.Text.Numeral

/-!
# Address text

An address is written in decimal, or in hexadecimal behind `0x` or `0X`.  Blanks around it do not
count, and one plus sign may stand in front of the digits.
-/

namespace Relocation.Text

/-- Reads the characters of an address. -/
def readAddress (text : List Char) : Except NumeralError Doubleword :=
  UInt64.ofNat <$>
    match trim text with
    | '0' :: 'x' :: digits => readNatural .hexadecimal UInt64.size digits
    | '0' :: 'X' :: digits => readNatural .hexadecimal UInt64.size digits
    | digits => readNatural .decimal UInt64.size digits

/-- Reads an address. -/
def parseAddress (text : String) : Except NumeralError Doubleword :=
  readAddress text.toList

/-- An address as log lines and error messages show it. -/
def hexAddress (address : Doubleword) : String :=
  "0x" ++ lowerHex address.toNat

/-- An address as reports show it. -/
def reportAddress (address : Doubleword) : String :=
  "0x" ++ upperHex address.toNat

end Relocation.Text
