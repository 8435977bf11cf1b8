import Relocation.Pattern.Bracket
import Relocation.Pattern.Group

/-!
# Reading a pattern

A pattern is a choice of sequences.  A sequence consists of characters, escapes, sets, groups and
their repetitions.  What is still open is kept on a stack, so that groups may be nested to any depth
while the pattern is read.
-/

namespace Relocation.Pattern

/-- A sequence that is being read: where it begins, and its parts, the last one first. -/
structure Sequence where
  start : Position
  parts : List Node

namespace Sequence

/-- The sequence without parts at a cursor. -/
def emptyAt (cursor : Cursor) : Sequence :=
  ⟨cursor.position, []⟩

/-- The sequence with one part more. -/
def push (sequence : Sequence) (part : Node) : Sequence :=
  { sequence with parts := part :: sequence.parts }

/-- The sequence as a pattern that ends at `stop`. -/
def toNode (sequence : Sequence) (stop : Position) : Node :=
  match sequence.parts with
  | [] => .empty ⟨sequence.start, stop⟩
  | [part] => part
  | parts => .sequence ⟨sequence.start, stop⟩ parts.reverse

end Sequence

/-- Something that is still open. -/
inductive Frame where
  /-- A group, with the sequence it stands in and the treatment of blanks there. -/
  | group (outer : Sequence) (parenthesis : Span) (items : List FlagItem) (loose : Bool)
  /-- A choice, with its branches, the last one first. -/
  | choice (start : Position) (branches : List Node)

/-- How far the reading of a pattern has come. -/
structure Reader where
  cursor : Cursor
  frames : List Frame
  sequence : Sequence
  names : List GroupName

namespace Reader

/-- The reader in front of a pattern. -/
def ofText (text : List Char) : Reader :=
  ⟨.ofText text, [], .emptyAt (.ofText text), []⟩

/-- The reader behind a part that was read. -/
def push (reader : Reader) (part : Node) (cursor : Cursor) : Reader :=
  { reader with cursor, sequence := reader.sequence.push part }

/-! ### Groups and choices -/

/-- Takes an opening parenthesis. -/
def openGroup (reader : Reader) : Except Fault Reader := do
  let (opening, cursor) ← readOpening reader.names reader.cursor
  match opening with
  | .flags span items =>
    let loose := (flagState .loose true items).getD cursor.loose
    return reader.push (.flags span items) { cursor with loose }
  | .group parenthesis items name =>
    let loose := (flagState .loose true items).getD cursor.loose
    return { cursor := { cursor with loose }
             frames := .group reader.sequence parenthesis items cursor.loose :: reader.frames
             sequence := .emptyAt cursor
             names := reader.names ++ name.toList }

/-- Takes a bar between two branches. -/
def nextBranch (reader : Reader) : Reader :=
  let branch := reader.sequence.toNode reader.cursor.position
  let cursor := reader.cursor.next
  let frames :=
    match reader.frames with
    | .choice start branches :: frames => .choice start (branch :: branches) :: frames
    | frames => .choice reader.sequence.start [branch] :: frames
  { reader with cursor, frames, sequence := .emptyAt cursor }

/-- What has been read of the innermost group or of the whole pattern, and what is open around
it. -/
def finishBody (reader : Reader) : Node × List Frame :=
  let stop := reader.cursor.position
  let branch := reader.sequence.toNode stop
  match reader.frames with
  | .choice start branches :: frames => (.choice ⟨start, stop⟩ (branch :: branches).reverse, frames)
  | frames => (branch, frames)

/-- Takes a closing parenthesis. -/
def closeGroup (reader : Reader) : Except Fault Reader :=
  match reader.finishBody with
  | (body, .group outer parenthesis items loose :: frames) =>
    let cursor := { reader.cursor.next with loose }
    let node := Node.group (cursor.since parenthesis.start) items body
    .ok { reader with cursor, frames, sequence := outer.push node }
  | _ => Fault.raise reader.cursor.mark .groupUnopened

/-- The whole pattern, when all of it has been read. -/
def finish (reader : Reader) : Except Fault Node :=
  match reader.finishBody with
  | (_, .group _ parenthesis _ _ :: _) => Fault.raise parenthesis .groupUnclosed
  | (body, _) => .ok body

/-! ### Repetitions -/

/-- The part that a repetition is about, and the sequence in front of it. -/
def takeRepeated (reader : Reader) : Except Fault (Node × Sequence) :=
  match reader.sequence.parts with
  | [] | .empty _ :: _ | .flags _ _ :: _ => Fault.raise reader.cursor.here .nothingToRepeat
  | part :: parts => .ok (part, { reader.sequence with parts })

/-- Takes the sign of a repetition, and a question mark behind it. -/
def repeatLast (reader : Reader) : Except Fault Reader := do
  let (part, sequence) ← reader.takeRepeated
  let cursor := reader.cursor.next
  let cursor := if cursor.rest.head? = some '?' then cursor.next else cursor
  return { reader with
    cursor, sequence := sequence.push (.repetition (cursor.since part.span.start) part) }

/-- The counts of repetitions are below this number. -/
def countBound : Nat := UInt32.size

/-- Reads the digits of a count, which are at most `count`. -/
def readCountDigits : Nat → List Char → Cursor → List Char × Cursor
  | 0, digits, cursor => (digits, cursor)
  | count + 1, digits, cursor =>
    match cursor.rest with
    | [] => (digits, cursor)
    | c :: _ =>
      if c.isDigit then readCountDigits count (digits ++ [c]) cursor.advance else (digits, cursor)

/-- The cursor behind blanks, which are passed by `move`.  There are at most `count`. -/
def passBlanks (move : Cursor → Cursor) : Nat → Cursor → Cursor
  | 0, cursor => cursor
  | count + 1, cursor =>
    match cursor.rest with
    | [] => cursor
    | c :: _ => if Text.isBlank c then passBlanks move count (move cursor) else cursor

/-- What is wrong with a repetition whose count stands behind a brace.  A pattern holds no closing
brace, so a count is never complete. -/
def countFault (reader : Reader) : Fault :=
  let brace := reader.cursor.position
  let size := reader.cursor.rest.length
  let cursor := reader.cursor.advance
  let first := passBlanks Cursor.next size cursor
  let (digits, behind) := readCountDigits size [] first
  let span := behind.since first.position
  let last := passBlanks Cursor.advance size behind
  if cursor.atEnd then ⟨.countUnclosed, cursor.since brace, none⟩
  else if last.atEnd then ⟨.countUnclosed, last.since brace, none⟩
  else if digits.isEmpty then ⟨.countMissing, span, none⟩
  else
    match Text.readDigits .decimal countBound 0 digits with
    | .ok _ => ⟨.countUnclosed, last.since brace, none⟩
    | .error _ => ⟨.countTooLarge, span, none⟩

/-! ### The whole pattern -/

/-- Reads a sign: an escape, a dot, an anchor, or a character that stands for itself. -/
def readSign (cursor : Cursor) : Except Fault (Sign × Cursor) :=
  match cursor.rest with
  | '\\' :: _ => readEscape cursor
  | '.' :: _ => .ok (.dot cursor.mark, cursor.next)
  | '^' :: _ | '$' :: _ => .ok (.assertion cursor.mark false, cursor.next)
  | c :: _ => .ok (.literal ⟨cursor.mark, c, false⟩, cursor.next)
  | [] => Fault.raise cursor.here .escapeUnfinished

/-- Reads the next thing in a pattern. -/
def step (reader : Reader) : Except Fault Reader := do
  match reader.cursor.rest with
  | '(' :: _ => reader.openGroup
  | ')' :: _ => reader.closeGroup
  | '|' :: _ => return reader.nextBranch
  | '[' :: _ =>
    let (set, cursor) ← readSet reader.cursor
    return reader.push set cursor
  | '?' :: _ | '*' :: _ | '+' :: _ => reader.repeatLast
  | '\x7b' :: _ =>
    let _ ← reader.takeRepeated
    .error reader.countFault
  | _ =>
    let (sign, cursor) ← readSign reader.cursor
    return reader.push sign.node cursor

/-- Reads the rest of a pattern, which takes at most `count` characters. -/
def run : Nat → Reader → Except Fault Node
  | 0, reader => reader.finish
  | count + 1, reader => do
    let reader := { reader with cursor := reader.cursor.skip }
    if reader.cursor.atEnd then reader.finish else run count (← reader.step)

end Reader

/-- Reads a pattern. -/
def read (text : List Char) : Except Fault Node :=
  (Reader.ofText text).run (text.length + 1)

end Relocation.Pattern
