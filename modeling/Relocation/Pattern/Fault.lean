import Relocation.Pattern.Position
import Relocation.Text.Numeral
import Relocation.Text.Split

/-!
# Faults of a pattern

What can be wrong with a pattern, and how it is shown: the pattern is written out, and carets under
it point at the part at fault and at an earlier part that it clashes with.
-/

namespace Relocation.Pattern

/-- Parentheses and brackets are nested no deeper than this. -/
def nestingLimit : Nat := 250

/-- What is wrong with a part of a pattern. -/
inductive FaultKind where
  /-- An escape that stands for no character is used in a set. -/
  | setEscape
  | rangeReversed
  /-- A range begins or ends with something that is not a single character. -/
  | rangeBound
  | setUnclosed
  | countTooLarge
  | notAScalar
  | notAHexDigit
  | escapeUnfinished
  | escapeUnknown
  /-- A minus sign is not followed by a flag. -/
  | danglingMinus
  | flagRepeated
  | minusRepeated
  | flagsUnfinished
  | flagUnknown
  | nameRepeated
  | nameEmpty
  | nameCharacter
  | nameUnclosed
  | groupUnclosed
  | groupUnopened
  | nestedTooDeep
  | countMissing
  | countUnclosed
  /-- A repetition has nothing to repeat. -/
  | nothingToRepeat
  | boundaryUnclosed
  /-- A brace behind a word boundary is followed by nothing. -/
  | boundaryUnfinished
  | propertyEscape
  | backreference
  | lookAround
  /-- A part asks for characters where only bytes are allowed. -/
  | charactersNotAllowed
  /-- A part matches bytes that are not text. -/
  | notText
  | unknownProperty
  /-- A set such as that of all digits is asked for beyond ASCII. -/
  | unknownSet
  /-- Case is to be ignored beyond ASCII. -/
  | unknownCase
  deriving DecidableEq, Repr

/-- The wording of a fault. -/
def FaultKind.message : FaultKind → String
  | setEscape => "invalid escape sequence found in character class"
  | rangeReversed => "invalid character class range, the start must be <= the end"
  | rangeBound => "invalid range boundary, must be a literal"
  | setUnclosed => "unclosed character class"
  | countTooLarge => "decimal literal invalid"
  | notAScalar => "hexadecimal literal is not a Unicode scalar value"
  | notAHexDigit => "invalid hexadecimal digit"
  | escapeUnfinished => "incomplete escape sequence, reached end of pattern prematurely"
  | escapeUnknown => "unrecognized escape sequence"
  | danglingMinus => "dangling flag negation operator"
  | flagRepeated => "duplicate flag"
  | minusRepeated => "flag negation operator repeated"
  | flagsUnfinished => "expected flag but got end of regex"
  | flagUnknown => "unrecognized flag"
  | nameRepeated => "duplicate capture group name"
  | nameEmpty => "empty capture group name"
  | nameCharacter => "invalid capture group character"
  | nameUnclosed => "unclosed capture group name"
  | groupUnclosed => "unclosed group"
  | groupUnopened => "unopened group"
  | nestedTooDeep =>
    "exceed the maximum number of nested parentheses/brackets (" ++ Text.decimal nestingLimit ++ ")"
  | countMissing => "repetition quantifier expects a valid decimal"
  | countUnclosed => "unclosed counted repetition"
  | nothingToRepeat => "repetition operator missing expression"
  | boundaryUnclosed =>
    "special word boundary assertion is either unclosed or contains an invalid character"
  | boundaryUnfinished =>
    "found either the beginning of a special word boundary or a bounded repetition on a \\b " ++
      "with an opening brace, but no closing brace"
  | propertyEscape => "invalid Unicode character class"
  | backreference => "backreferences are not supported"
  | lookAround => "look-around, including look-ahead and look-behind, is not supported"
  | charactersNotAllowed => "Unicode not allowed here"
  | notText => "pattern can match invalid UTF-8"
  | unknownProperty => "Unicode property not found"
  | unknownSet =>
    "Unicode-aware Perl class not found (make sure the unicode-perl feature is enabled)"
  | unknownCase =>
    "Unicode-aware case insensitivity matching is not available " ++
      "(make sure the unicode-case feature is enabled)"

/-- Something wrong with a pattern. -/
structure Fault where
  kind : FaultKind
  /-- The part at fault. -/
  span : Span
  /-- An earlier part that it clashes with. -/
  earlier : Option Span
  deriving DecidableEq, Repr

namespace Fault

/-- The failure of reading a pattern at one of its parts. -/
def raise {α : Type} (span : Span) (kind : FaultKind) : Except Fault α :=
  .error ⟨kind, span, none⟩

/-- The parts that a fault points at, in the order in which they stand. -/
def spans (fault : Fault) : List Span :=
  match fault.earlier with
  | none => [fault.span]
  | some earlier =>
    if earlier.start.index ≤ fault.span.start.index then [earlier, fault.span]
    else [fault.span, earlier]

/-- Carets under the given parts of a line, from column `column` on.  An empty part gets one. -/
def carets : Nat → List Span → List Char
  | _, [] => []
  | column, span :: spans =>
    let blanks := span.start.column - column
    let width := max 1 (span.stop.column - span.start.column)
    List.replicate blanks ' ' ++ List.replicate width '^' ++ carets (column + blanks + width) spans

/-- A line of the pattern, with `label` in front of it, and the carets under it. -/
def showLine (fault : Fault) (label : String) (number : Nat) (line : List Char) : List String :=
  let spans := fault.spans.filter fun span =>
    span.start.line == number && span.stop.line == number
  let text := label ++ String.ofList line
  if spans.isEmpty then [text]
  else [text, String.ofList (List.replicate label.length ' ' ++ carets 1 spans)]

/-- What is said of a part that reaches over several lines. -/
def describeLines (span : Span) : String :=
  "on line " ++ Text.decimal span.start.line ++ " (column " ++ Text.decimal span.start.column ++
    ") through line " ++ Text.decimal span.stop.line ++ " (column " ++
    Text.decimal (span.stop.column - 1) ++ ")"

/-- The lines that show a fault of a pattern.  The lines of a pattern that has several are numbered
and set off by dividers. -/
def showLines (fault : Fault) (pattern : List Char) : List String :=
  let lines := Text.linesOf pattern
  if pattern.contains '\n' then
    let count := lines.length + if pattern.getLast? = some '\n' then 1 else 0
    let width := (Text.decimal count).length
    let divider := String.ofList (List.replicate 79 '~')
    let shown := lines.zipIdx.flatMap fun (line, index) =>
      let label := Text.padLeft width ' ' (Text.decimal (index + 1)) ++ ": "
      fault.showLine label (index + 1) line
    let long := fault.spans.filter fun span => span.start.line != span.stop.line
    divider :: shown ++ divider :: long.map describeLines
  else
    lines.flatMap (fault.showLine "    " 1)

/-- A fault of a pattern as it is reported. -/
def report (fault : Fault) (pattern : List Char) : String :=
  "\n".intercalate
    ("regex parse error:" :: fault.showLines pattern ++ ["error: " ++ fault.kind.message])

end Fault

end Relocation.Pattern
