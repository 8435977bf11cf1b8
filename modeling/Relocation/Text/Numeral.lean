/-!
# Numerals

Numbers are written in decimal or in hexadecimal, the latter with digits of either case.  Reading
takes the digits from left to right.  At each step a character that is no digit is reported before
a value that has grown too large, so of two faults in a numeral the leftmost wins.
-/

namespace Relocation.Text

/-- The base a numeral is written in. -/
inductive Radix where
  | decimal
  | hexadecimal
  deriving DecidableEq, Repr

namespace Radix

/-- The number of digits. -/
def base : Radix → Nat
  | decimal => 10
  | hexadecimal => 16

theorem one_lt_base (radix : Radix) : 1 < radix.base := by
  cases radix <;> decide

/-- The value of a digit. -/
def digit? (radix : Radix) (c : Char) : Option Nat :=
  if '0' ≤ c ∧ c ≤ '9' then some (c.toNat - '0'.toNat)
  else if radix = hexadecimal ∧ 'a' ≤ c ∧ c ≤ 'f' then some (c.toNat - 'a'.toNat + 10)
  else if radix = hexadecimal ∧ 'A' ≤ c ∧ c ≤ 'F' then some (c.toNat - 'A'.toNat + 10)
  else none

end Radix

/-! ### Writing -/

/-- The digit of value `d`, letters in lower case. -/
def lowerDigit (d : Nat) : Char :=
  if d < 10 then Char.ofNat ('0'.toNat + d) else Char.ofNat ('a'.toNat + (d - 10))

/-- The digit of value `d`, letters in upper case. -/
def upperDigit (d : Nat) : Char :=
  if d < 10 then Char.ofNat ('0'.toNat + d) else Char.ofNat ('A'.toNat + (d - 10))

/-- The numeral of `n`, without leading zeros, in the digits that `digit` gives. -/
def numeral (radix : Radix) (digit : Nat → Char) (n : Nat) : List Char :=
  if n < radix.base then [digit n]
  else numeral radix digit (n / radix.base) ++ [digit (n % radix.base)]
termination_by n
decreasing_by
  have hbase := radix.one_lt_base
  exact Nat.div_lt_self (by omega) hbase

/-- A number in decimal. -/
def decimal (n : Nat) : String :=
  String.ofList (numeral .decimal lowerDigit n)

/-- A number in hexadecimal, letters in lower case. -/
def lowerHex (n : Nat) : String :=
  String.ofList (numeral .hexadecimal lowerDigit n)

/-- A number in hexadecimal, letters in upper case. -/
def upperHex (n : Nat) : String :=
  String.ofList (numeral .hexadecimal upperDigit n)

/-- The text, brought to `width` characters by `fill` in front. -/
def padLeft (width : Nat) (fill : Char) (text : String) : String :=
  String.ofList (List.replicate (width - text.length) fill) ++ text

/-! ### Reading -/

/-- Why a text is not the numeral of a number in range. -/
inductive NumeralError where
  | empty
  | invalidDigit
  | tooLarge
  | tooSmall
  deriving DecidableEq, Repr

/-- The wording of a numeral error. -/
def NumeralError.message : NumeralError → String
  | empty => "cannot parse integer from empty string"
  | invalidDigit => "invalid digit found in string"
  | tooLarge => "number too large to fit in target type"
  | tooSmall => "number too small to fit in target type"

/-- Reads digits from left to right into `value`, which has to stay below `bound`. -/
def readDigits (radix : Radix) (bound : Nat) : Nat → List Char → Except NumeralError Nat
  | value, [] => .ok value
  | value, c :: rest =>
    match radix.digit? c with
    | none => .error .invalidDigit
    | some d =>
      if value * radix.base + d < bound then readDigits radix bound (value * radix.base + d) rest
      else .error .tooLarge

/-- Reads a number below `bound`: digits with at most one plus sign in front. -/
def readNatural (radix : Radix) (bound : Nat) : List Char → Except NumeralError Nat
  | [] => .error .empty
  | ['+'] => .error .invalidDigit
  | '+' :: digits => readDigits radix bound 0 digits
  | digits => readDigits radix bound 0 digits

/-- Reads a signed decimal number of `bits` bits. -/
def readInteger (bits : Nat) : List Char → Except NumeralError Int
  | ['-'] => .error .invalidDigit
  | '-' :: digits =>
    match readDigits .decimal (1 <<< (bits - 1) + 1) 0 digits with
    | .ok n => .ok (-(n : Int))
    | .error .tooLarge => .error .tooSmall
    | .error e => .error e
  | digits => (readNatural .decimal (1 <<< (bits - 1)) digits).map Int.ofNat

end Relocation.Text
