import Relocation.Pattern.Fault
import Relocation.Pattern.Tree
import Relocation.Text.Alphanumeric

/-!
# The openings of groups

An opening parenthesis begins a group.  A question mark behind it leads in a name or flags for the
group.  Flags that are closed at once hold for what follows them, and make no group.
-/

namespace Relocation.Pattern

/-! ### Flags -/

/-- The flag of a letter. -/
def Flag.ofLetter? : Char → Option Flag
  | 'i' => some ignoreCase
  | 'm' => some multiLine
  | 's' => some dotMatchesAll
  | 'U' => some swapGreed
  | 'u' => some characters
  | 'R' => some carriageReturns
  | 'x' => some loose
  | _ => none

/-- Reads a flag or a minus sign. -/
def readFlagItem (cursor : Cursor) : Except Fault FlagItem :=
  match cursor.rest with
  | [] => Fault.raise cursor.here .flagsUnfinished
  | '-' :: _ => .ok ⟨cursor.mark, none⟩
  | c :: _ =>
    match Flag.ofLetter? c with
    | some flag => .ok ⟨cursor.mark, some flag⟩
    | none => Fault.raise cursor.mark .flagUnknown

/-- The flags with one more.  Nothing is said twice. -/
def addFlag (items : List FlagItem) (item : FlagItem) : Except Fault (List FlagItem) :=
  match items.find? (·.flag == item.flag) with
  | none => .ok (items ++ [item])
  | some earlier =>
    let kind := if item.flag.isNone then FaultKind.minusRepeated else .flagRepeated
    .error ⟨kind, item.span, some earlier.span⟩

/-- Reads flags up to a colon or a closing parenthesis.  They take at most `count` characters. -/
def readFlags : Nat → List FlagItem → Cursor → Except Fault (List FlagItem × Cursor)
  | 0, _, cursor => Fault.raise cursor.here .flagsUnfinished
  | count + 1, items, cursor =>
    match cursor.rest with
    | ':' :: _ | ')' :: _ =>
      match items.getLast? with
      | some ⟨span, none⟩ => Fault.raise span .danglingMinus
      | _ => .ok (items, cursor)
    | _ => do
      let items ← addFlag items (← readFlagItem cursor)
      readFlags count items cursor.next

/-! ### Names -/

/-- A name of a group, and where it stands. -/
structure GroupName where
  span : Span
  text : List Char
  deriving DecidableEq, Repr

/-- The name of a group may begin with the character. -/
def startsName (c : Char) : Bool :=
  c == '_' || Text.isLetter c

/-- The character may stand in the name of a group, behind its first one. -/
def continuesName (c : Char) : Bool :=
  ['_', '.', '[', ']'].contains c || Text.isAlphanumeric c

/-- Reads the characters of a name, which takes at most `count`, up to the mark that closes it. -/
def readNameText : Nat → List Char → Cursor → Except Fault (List Char × Cursor)
  | 0, _, cursor => Fault.raise cursor.here .nameUnclosed
  | count + 1, text, cursor =>
    match cursor.rest with
    | [] => Fault.raise cursor.here .nameUnclosed
    | '>' :: _ => .ok (text, cursor)
    | c :: _ =>
      if if text.isEmpty then startsName c else continuesName c then
        readNameText count (text ++ [c]) cursor.next
      else Fault.raise cursor.mark .nameCharacter

/-- Reads the name of a group and the mark that closes it.  No name is used twice. -/
def readGroupName (names : List GroupName) (cursor : Cursor) :
    Except Fault (GroupName × Cursor) := do
  let start := cursor.position
  let (text, cursor) ← readNameText (cursor.rest.length + 1) [] cursor
  let span := cursor.since start
  if text.isEmpty then Fault.raise ⟨start, start⟩ .nameEmpty
  else
    match names.find? (·.text == text) with
    | some earlier => .error ⟨.nameRepeated, span, some earlier.span⟩
    | none => return (⟨span, text⟩, cursor.next)

/-! ### Openings -/

/-- What an opening parenthesis begins. -/
inductive Opening where
  /-- A group that may have flags or a name. -/
  | group (span : Span) (items : List FlagItem) (name : Option GroupName)
  /-- Flags for what follows. -/
  | flags (span : Span) (items : List FlagItem)
  deriving DecidableEq, Repr

/-- The marks of groups that look around, which are not allowed. -/
def lookAroundMarks : List String :=
  ["?=", "?!", "?<=", "?<!"]

/-- Reads flags and what they belong to.  The cursor stands behind the question mark, and `mark` is
the empty part in front of it. -/
def readFlagOpening (parenthesis mark : Span) (cursor : Cursor) :
    Except Fault (Opening × Cursor) := do
  if cursor.atEnd then Fault.raise parenthesis .groupUnclosed
  else
    let (items, cursor) ← readFlags (cursor.rest.length + 1) [] cursor
    let behind := cursor.next
    if cursor.rest.head? = some ':' then return (.group parenthesis items none, behind)
    else if items.isEmpty then Fault.raise mark .nothingToRepeat
    else return (.flags (behind.since parenthesis.start) items, behind)

/-- Reads an opening parenthesis with what belongs to it. -/
def readOpening (names : List GroupName) (cursor : Cursor) : Except Fault (Opening × Cursor) :=
  let parenthesis := cursor.mark
  let cursor := cursor.advance
  match lookAroundMarks.findSome? fun mark => cursor.accept? mark.toList with
  | some behind => Fault.raise (behind.since parenthesis.start) .lookAround
  | none =>
    match cursor.accept? "?P<".toList <|> cursor.accept? "?<".toList with
    | some behind => do
      let (name, behind) ← readGroupName names behind
      return (.group parenthesis [] (some name), behind)
    | none =>
      match cursor.accept? ['?'] with
      | some behind => readFlagOpening parenthesis cursor.here behind
      | none => .ok (.group parenthesis [] none, cursor)

end Relocation.Pattern
