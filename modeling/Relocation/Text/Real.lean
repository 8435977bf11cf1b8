/-!
# Real numerals

A real number is written with a point, an exponent, both or neither, or as a word for infinity or
for no number at all.  There may be a sign in front.
-/

namespace Relocation.Text

/-- The text without the sign in front of it, if there is one. -/
def dropSign : List Char → List Char
  | '+' :: text => text
  | '-' :: text => text
  | text => text

/-- The text holds digits and nothing else. -/
def isDigits (text : List Char) : Bool :=
  !text.isEmpty && text.all Char.isDigit

/-- The text is nothing, or an exponent. -/
def isExponent : List Char → Bool
  | [] => true
  | c :: text => (c == 'e' || c == 'E') && isDigits (dropSign text)

/-- The words that stand for numbers, in letters of either case. -/
def numberWords : List String :=
  ["inf", "infinity", "nan"]

/-- The text is the numeral of a real number. -/
def isReal (text : List Char) : Bool :=
  let unsigned := dropSign text
  let whole := unsigned.takeWhile Char.isDigit
  let written :=
    match unsigned.dropWhile Char.isDigit with
    | '.' :: rest =>
      !(whole ++ rest.takeWhile Char.isDigit).isEmpty && isExponent (rest.dropWhile Char.isDigit)
    | rest => !whole.isEmpty && isExponent rest
  written || numberWords.contains (String.ofList (unsigned.map Char.toLower))

end Relocation.Text
