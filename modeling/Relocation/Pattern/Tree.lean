import Relocation.Pattern.Position

/-!
# Patterns as trees

The parts of a pattern, each with its span.  What a pattern matches is not kept, only what is needed
to tell whether it can be used: how its parts are nested, and which characters they ask for.
-/

namespace Relocation.Pattern

/-- A single character of a pattern. -/
structure Literal where
  span : Span
  char : Char
  /-- It is written as the two hexadecimal digits of a byte. -/
  ofByte : Bool
  deriving DecidableEq, Repr

/-- A flag that changes how a pattern is understood. -/
inductive Flag where
  | ignoreCase
  | multiLine
  | dotMatchesAll
  | swapGreed
  | characters
  | carriageReturns
  | loose
  deriving DecidableEq, Repr

/-- A flag in a list of flags, or the minus sign in front of the flags that are turned off. -/
structure FlagItem where
  span : Span
  flag : Option Flag
  deriving DecidableEq, Repr

/-- What a list of flags says of a flag: that it is on, that it is off, or nothing. -/
def flagState (flag : Flag) : Bool → List FlagItem → Option Bool
  | _, [] => none
  | on, item :: items =>
    match item.flag with
    | none => flagState flag false items
    | some other => if other = flag then some on else flagState flag on items

/-- How two sets are combined. -/
inductive SetOperator where
  | intersection
  | difference
  | symmetricDifference
  deriving DecidableEq, Repr

/-- A set of characters, written between brackets. -/
inductive CharSet where
  | empty (span : Span)
  | single (character : Literal)
  | range (span : Span) (first last : Literal)
  /-- A named set of ASCII characters. -/
  | named (span : Span) (negated : Bool)
  /-- A set with a one-letter escape, such as that of all digits. -/
  | shorthand (span : Span) (negated : Bool)
  /-- The characters with a Unicode property. -/
  | property (span : Span)
  /-- A set between brackets of its own. -/
  | bracketed (span : Span) (negated : Bool) (body : CharSet)
  | union (span : Span) (items : List CharSet)
  | combined (span : Span) (operator : SetOperator) (left right : CharSet)

/-- The span of a set. -/
def CharSet.span : CharSet → Span
  | empty span => span
  | single character => character.span
  | range span _ _ => span
  | named span _ => span
  | shorthand span _ => span
  | property span => span
  | bracketed span _ _ => span
  | union span _ => span
  | combined span _ _ _ => span

/-- A pattern. -/
inductive Node where
  | empty (span : Span)
  /-- Flags for what follows. -/
  | flags (span : Span) (items : List FlagItem)
  | literal (character : Literal)
  | dot (span : Span)
  /-- A condition on the place of a match.  Some conditions are about the bounds of words. -/
  | assertion (span : Span) (ofWord : Bool)
  /-- A set with a one-letter escape, such as that of all digits. -/
  | shorthand (span : Span) (negated : Bool)
  /-- The characters with a Unicode property. -/
  | property (span : Span)
  /-- A set between brackets. -/
  | set (span : Span) (negated : Bool) (body : CharSet)
  | repetition (span : Span) (body : Node)
  /-- A group, with flags for what is in it. -/
  | group (span : Span) (items : List FlagItem) (body : Node)
  | choice (span : Span) (branches : List Node)
  | sequence (span : Span) (parts : List Node)

/-- The span of a pattern. -/
def Node.span : Node → Span
  | empty span => span
  | flags span _ => span
  | literal character => character.span
  | dot span => span
  | assertion span _ => span
  | shorthand span _ => span
  | property span => span
  | set span _ _ => span
  | repetition span _ => span
  | group span _ _ => span
  | choice span _ => span
  | sequence span _ => span

end Relocation.Pattern
