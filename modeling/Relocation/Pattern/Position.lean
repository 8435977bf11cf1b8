import Relocation.Text.Blank

/-!
# Places in a pattern

A pattern is read from left to right.  A cursor knows what is left to read and where that begins,
counted in lines and columns, so that a fault can be pointed at.
-/

namespace Relocation.Pattern

/-- A place in a pattern, in front of a character or at the end. -/
structure Position where
  /-- Characters in front of it. -/
  index : Nat
  /-- Lines are counted from 1. -/
  line : Nat
  /-- Columns are counted from 1. -/
  column : Nat
  deriving DecidableEq, Repr

namespace Position

/-- The place in front of a pattern. -/
def first : Position :=
  ⟨0, 1, 1⟩

/-- The place behind a character. -/
def behind (position : Position) (c : Char) : Position :=
  if c = '\n' then ⟨position.index + 1, position.line + 1, 1⟩
  else ⟨position.index + 1, position.line, position.column + 1⟩

end Position

/-- A part of a pattern, by the places where it begins and ends. -/
structure Span where
  start : Position
  stop : Position
  deriving DecidableEq, Repr

/-- What is left to read of a pattern. -/
structure Cursor where
  position : Position
  rest : List Char
  /-- Blanks and comments between the parts of the pattern count for nothing. -/
  loose : Bool
  deriving DecidableEq, Repr

namespace Cursor

/-- The cursor in front of a pattern. -/
def ofText (text : List Char) : Cursor :=
  ⟨.first, text, false⟩

/-- The pattern has been read. -/
def atEnd (cursor : Cursor) : Bool :=
  cursor.rest.isEmpty

/-! ### Parts -/

/-- The empty part at the cursor. -/
def here (cursor : Cursor) : Span :=
  ⟨cursor.position, cursor.position⟩

/-- The character at the cursor. -/
def mark (cursor : Cursor) : Span :=
  match cursor.rest with
  | [] => cursor.here
  | c :: _ => ⟨cursor.position, cursor.position.behind c⟩

/-- The part from an earlier place up to the cursor. -/
def since (cursor : Cursor) (start : Position) : Span :=
  ⟨start, cursor.position⟩

/-! ### Moving -/

/-- The cursor behind the next character. -/
def next (cursor : Cursor) : Cursor :=
  match cursor.rest with
  | [] => cursor
  | c :: rest => { cursor with position := cursor.position.behind c, rest }

/-- The cursor behind everything. -/
def last (cursor : Cursor) : Cursor :=
  { cursor with position := cursor.rest.foldl Position.behind cursor.position, rest := [] }

/-- Skips blanks and comments.  A comment reaches from a number sign to the end of its line. -/
def skipFrom (inComment : Bool) (position : Position) : List Char → Position × List Char
  | [] => (position, [])
  | c :: rest =>
    if inComment then skipFrom (c != '\n') (position.behind c) rest
    else if Text.isBlank c then skipFrom false (position.behind c) rest
    else if c = '#' then skipFrom true (position.behind c) rest
    else (position, c :: rest)

/-- The cursor behind blanks and comments, where they count for nothing. -/
def skip (cursor : Cursor) : Cursor :=
  if cursor.loose then
    let (position, rest) := skipFrom false cursor.position cursor.rest
    { cursor with position, rest }
  else cursor

/-- The cursor behind the next character and the blanks and comments that follow it. -/
def advance (cursor : Cursor) : Cursor :=
  cursor.next.skip

/-- The cursor behind a text, if that text comes next. -/
def accept? (cursor : Cursor) : List Char → Option Cursor
  | [] => some cursor
  | c :: text => if cursor.rest.head? = some c then cursor.next.accept? text else none

/-! ### Looking ahead -/

/-- The character behind the next one. -/
def ahead? (cursor : Cursor) : Option Char :=
  cursor.rest[1]?

/-- The character behind the next one.  Where blanks count for nothing, blanks and the sign that
begins a comment are passed over, unless nothing else follows. -/
def aheadPastBlanks? (cursor : Cursor) : Option Char :=
  if cursor.loose then
    let following := cursor.rest.drop 1
    let content :=
      match following.dropWhile Text.isBlank with
      | '#' :: comment => comment.dropWhile Text.isBlank
      | text => text
    content.head? <|> following.head?
  else cursor.ahead?

end Cursor

end Relocation.Pattern
