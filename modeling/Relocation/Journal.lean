import Relocation.Text.Numeral

/-!
# The journal

While it works the engine writes lines into a journal.  A line has a severity, the name of the part
of the engine it comes from, and a message.  A message may quote text from outside, so the control
characters in it that a terminal obeys are printed as their codes.
-/

namespace Relocation

/-- The weight of a journal line. -/
inductive Severity where
  | error
  | warn
  | info
  | debug
  | trace
  deriving DecidableEq, Repr

namespace Severity

/-- The place of a severity: the graver, the lower. -/
def rank : Severity → Nat
  | error => 1
  | warn => 2
  | info => 3
  | debug => 4
  | trace => 5

/-- The severity as a line shows it. -/
def render : Severity → String
  | error => "ERROR"
  | warn => "WARN"
  | info => "INFO"
  | debug => "DEBUG"
  | trace => "TRACE"

end Severity

/-- A line of the journal. -/
structure Line where
  severity : Severity
  /-- The part of the engine it comes from. -/
  source : String
  message : String
  deriving DecidableEq, Repr

/-- A character of a message as it is printed.  Bell, backspace, form feed, escape, delete and the
controls beyond ASCII are replaced by their codes. -/
def printedChar (c : Char) : String :=
  let code := c.toNat
  if code ∈ [0x07, 0x08, 0x0C, 0x1B, 0x7F] then "\\x" ++ Text.padLeft 2 '0' (Text.lowerHex code)
  else if 0x80 ≤ code ∧ code ≤ 0x9F then "\\u\x7b" ++ Text.lowerHex code ++ "\x7d"
  else c.toString

/-- A message as it is printed. -/
def printedMessage (message : String) : String :=
  String.join (message.toList.map printedChar)

/-- A line as it is printed. -/
def Line.render (line : Line) : String :=
  line.severity.render ++ " " ++ line.source ++ ": " ++ printedMessage line.message

end Relocation
