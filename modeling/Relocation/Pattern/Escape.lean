import Relocation.Pattern.Fault
import Relocation.Pattern.Tree

/-!
# Escapes

A backslash gives the characters behind it another meaning.  A pattern is written between braces, so
it holds no closing brace of its own: forms that would end with one are never complete.
-/

namespace Relocation.Pattern

/-- What an escape, or any other single sign of a pattern, stands for. -/
inductive Sign where
  | literal (character : Literal)
  | dot (span : Span)
  | assertion (span : Span) (ofWord : Bool)
  | shorthand (span : Span) (negated : Bool)
  | property (span : Span)
  deriving DecidableEq, Repr

/-- The span of a sign. -/
def Sign.span : Sign → Span
  | literal character => character.span
  | dot span => span
  | assertion span _ => span
  | shorthand span _ => span
  | property span => span

/-- The sign as a pattern. -/
def Sign.node : Sign → Node
  | literal character => .literal character
  | dot span => .dot span
  | assertion span ofWord => .assertion span ofWord
  | shorthand span negated => .shorthand span negated
  | property span => .property span

/-! ### Characters by their codes -/

/-- Reads hexadecimal digits, as many as asked for, into `value`. -/
def readHexDigits : Nat → Nat → Cursor → Except Fault (Nat × Cursor)
  | 0, value, cursor => .ok (value, cursor)
  | count + 1, value, cursor =>
    match cursor.rest with
    | [] => Fault.raise cursor.here .escapeUnfinished
    | c :: _ =>
      match Text.Radix.hexadecimal.digit? c with
      | some digit => readHexDigits count (value * 16 + digit) cursor.advance
      | none => Fault.raise cursor.mark .notAHexDigit

/-- What is wrong with hexadecimal digits behind an opening brace, of which at most `count` follow.
The brace is never closed. -/
def bracedDigitsFault (brace : Position) : Nat → Cursor → Fault
  | 0, cursor => ⟨.escapeUnfinished, cursor.since brace, none⟩
  | count + 1, cursor =>
    match cursor.rest with
    | [] => ⟨.escapeUnfinished, cursor.since brace, none⟩
    | c :: _ =>
      match Text.Radix.hexadecimal.digit? c with
      | some _ => bracedDigitsFault brace count cursor.advance
      | none => ⟨.notAHexDigit, cursor.mark, none⟩

/-- The number of digits that follow a letter. -/
def hexDigitCount (letter : Char) : Nat :=
  if letter = 'x' then 2 else if letter = 'u' then 4 else 8

/-- The number is the code of a character. -/
def isScalar (n : Nat) : Bool :=
  n < 0xD800 || (0xE000 ≤ n && n ≤ 0x10FFFF)

/-- Reads a character by its code.  The cursor stands at the letter behind the backslash. -/
def readCode (start : Position) (letter : Char) (cursor : Cursor) :
    Except Fault (Sign × Cursor) := do
  let cursor := cursor.advance
  match cursor.rest with
  | [] => Fault.raise cursor.here .escapeUnfinished
  | '\x7b' :: rest => .error (bracedDigitsFault cursor.position rest.length cursor.advance)
  | _ =>
    let digits := cursor.position
    let (code, cursor) ← readHexDigits (hexDigitCount letter) 0 cursor
    if isScalar code then
      return (.literal ⟨cursor.since start, Char.ofNat code, letter == 'x'⟩, cursor)
    else Fault.raise (cursor.since digits) .notAScalar

/-! ### Properties -/

/-- Reads the name of a property.  The cursor stands at the letter behind the backslash. -/
def readProperty (start : Position) (cursor : Cursor) : Except Fault (Sign × Cursor) :=
  let cursor := cursor.advance
  match cursor.rest with
  | [] => Fault.raise cursor.here .escapeUnfinished
  | '\x7b' :: _ => Fault.raise cursor.last.here .escapeUnfinished
  | '\\' :: _ => Fault.raise cursor.mark .propertyEscape
  | _ =>
    let cursor := cursor.advance
    .ok (.property (cursor.since start), cursor)

/-! ### Word boundaries -/

/-- The character may stand in the name of a kind of word boundary. -/
def namesBoundary (c : Char) : Bool :=
  c.isAlpha || c == '-'

/-- The cursor behind the name of a kind of word boundary.  The name takes at most `count`
characters. -/
def passBoundaryName : Nat → Cursor → Cursor
  | 0, cursor => cursor
  | count + 1, cursor =>
    match cursor.rest with
    | [] => cursor
    | c :: _ => if namesBoundary c then passBoundaryName count cursor.advance else cursor

/-- Looks at what follows a word boundary.  A brace begins the name of a kind of boundary, which is
never closed, or a repetition. -/
def checkBoundary (start : Position) (cursor : Cursor) : Except Fault Unit :=
  match cursor.rest with
  | '\x7b' :: rest =>
    let inner := cursor.advance
    match inner.rest with
    | [] => Fault.raise (inner.since start) .boundaryUnfinished
    | c :: _ =>
      if namesBoundary c then
        Fault.raise ((passBoundaryName rest.length inner).since cursor.position) .boundaryUnclosed
      else .ok ()
  | _ => .ok ()

/-! ### All escapes -/

/-- The character has a meaning of its own in patterns. -/
def isSpecial (c : Char) : Bool :=
  "\\.+*?()|[]\x7b\x7d^$#&-~".toList.contains c

/-- A backslash in front of the character leaves it as it is. -/
def standsForItself (c : Char) : Bool :=
  isSpecial c || (c.toNat < 128 && !c.isAlphanum && c != '<' && c != '>')

/-- The control character that a letter behind a backslash stands for. -/
def controlOf? : Char → Option Char
  | 'a' => some '\x07'
  | 'f' => some '\x0c'
  | 't' => some '\t'
  | 'n' => some '\n'
  | 'r' => some '\r'
  | 'v' => some '\x0b'
  | _ => none

/-- Reads an escape.  The cursor stands at the backslash. -/
def readEscape (cursor : Cursor) : Except Fault (Sign × Cursor) :=
  let start := cursor.position
  let cursor := cursor.next
  match cursor.rest with
  | [] => Fault.raise (cursor.since start) .escapeUnfinished
  | c :: _ =>
    let behind := cursor.next
    let span := behind.since start
    if c.isDigit then Fault.raise span .backreference
    else if c ∈ ['x', 'u', 'U'] then readCode start c cursor
    else if c ∈ ['p', 'P'] then readProperty start cursor
    else if c ∈ ['d', 's', 'w'] then .ok (.shorthand span false, behind)
    else if c ∈ ['D', 'S', 'W'] then .ok (.shorthand span true, behind)
    else if standsForItself c then .ok (.literal ⟨span, c, false⟩, behind)
    else if c ∈ ['A', 'z'] then .ok (.assertion span false, behind)
    else if c ∈ ['B', '<', '>'] then .ok (.assertion span true, behind)
    else if c = 'b' then do
      checkBoundary start behind
      return (.assertion span true, behind)
    else
      match controlOf? c with
      | some control => .ok (.literal ⟨span, control, false⟩, behind)
      | none => Fault.raise span .escapeUnknown

end Relocation.Pattern
