import Relocation.Pattern.Escape

/-!
# Sets between brackets

A set is a list of characters, ranges, named sets and further sets in brackets.  Lists can be
combined by `&&`, `--` and `~~`, all from left to right.  A closing bracket that comes first, and
any hyphens that come first, stand for themselves.

Sets are read with a stack of what is still open, so that brackets may be nested to any depth.
-/

namespace Relocation.Pattern

/-- The items of a list that is being read, the last one first. -/
structure ItemList where
  span : Span
  items : List CharSet

namespace ItemList

/-- The list without items at a cursor. -/
def emptyAt (cursor : Cursor) : ItemList :=
  ⟨cursor.here, []⟩

/-- The list with one item more. -/
def push (list : ItemList) (item : CharSet) : ItemList :=
  ⟨⟨if list.items.isEmpty then item.span.start else list.span.start, item.span.stop⟩,
   item :: list.items⟩

/-- The list as a set. -/
def toSet (list : ItemList) : CharSet :=
  match list.items with
  | [] => .empty list.span
  | [item] => item
  | items => .union list.span items.reverse

end ItemList

/-- Something that is still open. -/
inductive SetFrame where
  /-- A bracket, with the list it stands in. -/
  | bracket (outer : ItemList) (span : Span) (negated : Bool)
  /-- An operator, with the set to its left. -/
  | operator (operator : SetOperator) (left : CharSet)

/-- How far the reading of a set has come. -/
structure SetReader where
  cursor : Cursor
  frames : List SetFrame
  list : ItemList

/-! ### Opening and closing -/

/-- Reads hyphens that come first, of which there are at most `count`. -/
def readHyphens (start : Position) : Nat → ItemList → Cursor → Except Fault (ItemList × Cursor)
  | 0, list, cursor => .ok (list, cursor)
  | count + 1, list, cursor =>
    match cursor.rest with
    | '-' :: _ =>
      let behind := cursor.advance
      if behind.atEnd then Fault.raise ⟨start, start⟩ .setUnclosed
      else readHyphens start count (list.push (.single ⟨cursor.mark, '-', false⟩)) behind
    | _ => .ok (list, cursor)

/-- Reads an opening bracket with what belongs to it: a circumflex, and the characters that stand
for themselves because they come first. -/
def SetReader.open (reader : SetReader) : Except Fault SetReader := do
  let start := reader.cursor.position
  let cursor := reader.cursor.advance
  let negated := cursor.rest.head? == some '^'
  let cursor := if negated then cursor.advance else cursor
  if cursor.atEnd then Fault.raise (cursor.since start) .setUnclosed
  else
    let (list, cursor) ← readHyphens start cursor.rest.length (.emptyAt cursor) cursor
    let (list, cursor) :=
      if list.items.isEmpty && cursor.rest.head? == some ']' then
        (list.push (.single ⟨cursor.mark, ']', false⟩), cursor.advance)
      else (list, cursor)
    if cursor.atEnd then Fault.raise (cursor.since start) .setUnclosed
    else return ⟨cursor, .bracket reader.list (cursor.since start) negated :: reader.frames, list⟩

/-- What is said when the pattern ends within brackets. -/
def SetReader.unclosed {α : Type} (reader : SetReader) : Except Fault α :=
  let brackets := reader.frames.filterMap fun
    | .bracket _ span _ => some span
    | .operator _ _ => none
  Fault.raise (brackets.headD reader.cursor.here) .setUnclosed

/-- Combines a set with what stands in front of the operator to its left, if there is one. -/
def combineLeft (frames : List SetFrame) (right : CharSet) : List SetFrame × CharSet :=
  match frames with
  | .operator operator left :: frames =>
    (frames, .combined ⟨left.span.start, right.span.stop⟩ operator left right)
  | frames => (frames, right)

/-- Takes an operator of two characters. -/
def SetReader.operate (reader : SetReader) (operator : SetOperator) : SetReader :=
  let (frames, left) := combineLeft reader.frames reader.list.toSet
  let cursor := reader.cursor.next.next
  ⟨cursor, .operator operator left :: frames, .emptyAt cursor⟩

/-! ### Items -/

/-- The names of sets of ASCII characters. -/
def setNames : List String :=
  ["alnum", "alpha", "ascii", "blank", "cntrl", "digit", "graph", "lower", "print", "punct",
   "space", "upper", "word", "xdigit"]

/-- Reads a named set, written `[:name:]` or `[:^name:]`, if there is one. -/
def readNamedSet? (cursor : Cursor) : Option (CharSet × Cursor) := do
  let inner ← cursor.accept? "[:".toList
  let negated := inner.rest.head? == some '^'
  let inner := if negated then inner.next else inner
  let name := inner.rest.takeWhile (· != ':')
  let behind ← inner.accept? (name ++ ":]".toList)
  if setNames.contains (String.ofList name) then
    some (.named (behind.since cursor.position) negated, behind)
  else none

/-- Reads a character or an escape. -/
def readSetSign (cursor : Cursor) : Except Fault (Sign × Cursor) :=
  match cursor.rest with
  | [] => Fault.raise cursor.here .setUnclosed
  | '\\' :: _ => readEscape cursor
  | c :: _ => .ok (.literal ⟨cursor.mark, c, false⟩, cursor.next)

/-- The sign as an item of a set. -/
def Sign.toSet : Sign → Except Fault CharSet
  | literal character => .ok (.single character)
  | shorthand span negated => .ok (.shorthand span negated)
  | property span => .ok (.property span)
  | sign => Fault.raise sign.span .setEscape

/-- The sign as a bound of a range. -/
def Sign.toBound : Sign → Except Fault Literal
  | literal character => .ok character
  | sign => Fault.raise sign.span .rangeBound

/-- Reads a character, an escape, or a range.  A hyphen makes a range unless a closing bracket or
another hyphen follows it. -/
def SetReader.readItem (reader : SetReader) : Except Fault SetReader := do
  let (first, cursor) ← readSetSign reader.cursor
  let cursor := cursor.skip
  if cursor.atEnd then reader.unclosed
  else if cursor.rest.head? != some '-' || cursor.aheadPastBlanks? == some ']' ||
      cursor.aheadPastBlanks? == some '-' then
    return { reader with cursor, list := reader.list.push (← first.toSet) }
  else
    let cursor := cursor.advance
    if cursor.atEnd then reader.unclosed
    else
      let (last, cursor) ← readSetSign cursor
      let span : Span := ⟨first.span.start, last.span.stop⟩
      let first ← first.toBound
      let last ← last.toBound
      if last.char < first.char then Fault.raise span .rangeReversed
      else return { reader with cursor, list := reader.list.push (.range span first last) }

/-! ### Whole sets -/

/-- Takes a closing bracket.  The result is the set, if it was the outermost bracket. -/
def SetReader.close (reader : SetReader) : Except Fault (SetReader ⊕ Node × Cursor) :=
  let (frames, body) := combineLeft reader.frames reader.list.toSet
  let cursor := reader.cursor.next
  match frames with
  | [.bracket _ span negated] => .ok (.inr (.set (cursor.since span.start) negated body, cursor))
  | .bracket outer span negated :: frames =>
    let item := CharSet.bracketed (cursor.since span.start) negated body
    .ok (.inl ⟨cursor, frames, outer.push item⟩)
  | _ => reader.unclosed

/-- Reads the next thing in a set. -/
def SetReader.step (reader : SetReader) : Except Fault (SetReader ⊕ Node × Cursor) :=
  match reader.cursor.rest, reader.cursor.ahead? with
  | '[' :: _, _ =>
    match readNamedSet? reader.cursor with
    | some (item, cursor) => .ok (.inl { reader with cursor, list := reader.list.push item })
    | none => .inl <$> reader.open
  | ']' :: _, _ => reader.close
  | '&' :: _, some '&' => .ok (.inl (reader.operate .intersection))
  | '-' :: _, some '-' => .ok (.inl (reader.operate .difference))
  | '~' :: _, some '~' => .ok (.inl (reader.operate .symmetricDifference))
  | _, _ => .inl <$> reader.readItem

/-- Reads the rest of a set, which takes at most `count` characters. -/
def SetReader.run : Nat → SetReader → Except Fault (Node × Cursor)
  | 0, reader => reader.unclosed
  | count + 1, reader => do
    let reader := { reader with cursor := reader.cursor.skip }
    if reader.cursor.atEnd then reader.unclosed
    else
      match ← reader.step with
      | .inl reader => reader.run count
      | .inr result => return result

/-- Reads a set.  The cursor stands at the opening bracket. -/
def readSet (cursor : Cursor) : Except Fault (Node × Cursor) := do
  let reader ← SetReader.open ⟨cursor, [], .emptyAt cursor⟩
  reader.run cursor.rest.length

end Relocation.Pattern
