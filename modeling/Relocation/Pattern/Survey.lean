import Relocation.Pattern.Fault
import Relocation.Pattern.Tree

/-!
# What a pattern asks for

Patterns are matched without tables of characters: sets such as that of all digits, Unicode
properties and the ignoring of case are not known beyond ASCII.  Where the flags restrict a pattern
to bytes, only ASCII is allowed, since what is matched has to be text.

A survey walks over a pattern from left to right and meets the first thing that is asked for in
vain.  It also notes whether the bounds of words beyond ASCII are asked for.
-/

namespace Relocation.Pattern

/-! ### Modes -/

/-- How a pattern is understood at some place. -/
structure Mode where
  ignoreCase : Bool
  /-- The pattern is about characters, and not about bytes. -/
  characters : Bool
  deriving DecidableEq, Repr

namespace Mode

/-- The mode at the beginning of a pattern. -/
def initial : Mode :=
  ⟨false, true⟩

/-- The mode after flags. -/
def apply (mode : Mode) (items : List FlagItem) : Mode :=
  ⟨(flagState .ignoreCase true items).getD mode.ignoreCase,
   (flagState .characters true items).getD mode.characters⟩

/-- Case is to be ignored beyond ASCII. -/
def foldsCharacters (mode : Mode) : Bool :=
  mode.characters && mode.ignoreCase

end Mode

/-- The code of the character is one of ASCII. -/
def isAscii (c : Char) : Bool :=
  c.toNat < 128

/-- Looks at a character.  A byte has to be one of ASCII. -/
def Literal.checkByte (character : Literal) : Except Fault Unit :=
  if character.ofByte && !isAscii character.char then Fault.raise character.span .notText
  else .ok ()

/-! ### Sets -/

/-- How much of the characters a set holds. -/
inductive Extent where
  | nothing
  | everything
  /-- Neither is known to be the case. -/
  | some
  deriving DecidableEq, Repr

namespace Extent

/-- The characters outside a set. -/
def complement : Extent → Extent
  | nothing => everything
  | everything => nothing
  | some => some

/-- The characters of two sets taken together. -/
def join : Extent → Extent → Extent
  | nothing, b => b
  | a, nothing => a
  | everything, everything => everything
  | _, _ => some

/-- The characters of two sets combined. -/
def combine (operator : SetOperator) (a b : Extent) : Extent :=
  match operator, a, b with
  | .intersection, nothing, _ => nothing
  | .intersection, _, nothing => nothing
  | .intersection, everything, everything => everything
  | .difference, nothing, _ => nothing
  | .difference, a, nothing => a
  | .difference, everything, everything => nothing
  | .symmetricDifference, nothing, b => b
  | .symmetricDifference, a, nothing => a
  | .symmetricDifference, everything, everything => nothing
  | _, _, _ => some

end Extent

/-- Looks whether the case of the characters of a set can be ignored, if that is asked for. -/
def checkCase (mode : Mode) (span : Span) (extent : Extent) : Except Fault Unit :=
  if mode.foldsCharacters && extent == .some then Fault.raise span .unknownCase else .ok ()

/-- The extent of a set between brackets. -/
def closeSet (mode : Mode) (span : Span) (negated : Bool) (body : Extent) :
    Except Fault Extent := do
  checkCase mode span body
  if !negated then return body
  else if mode.characters then return body.complement
  else Fault.raise span .notText

/-- Looks at a character of a set.  Without characters, only bytes are allowed. -/
def Literal.checkItem (mode : Mode) (character : Literal) : Except Fault Unit := do
  if !mode.characters then
    character.checkByte
    if !isAscii character.char then Fault.raise character.span .charactersNotAllowed

/-- Looks at a set with a one-letter escape. -/
def checkShorthand (mode : Mode) (span : Span) (negated : Bool) : Except Fault Unit :=
  if mode.characters then Fault.raise span .unknownSet
  else if negated then Fault.raise span .notText
  else .ok ()

/-- What is wrong with a Unicode property. -/
def propertyFault (mode : Mode) : FaultKind :=
  if mode.characters then .unknownProperty else .charactersNotAllowed

mutual

/-- Surveys a set. -/
def CharSet.survey (mode : Mode) : CharSet → Except Fault Extent
  | .empty _ => .ok .nothing
  | .single character => do
    character.checkItem mode
    return .some
  | .range _ first last => do
    first.checkItem mode
    last.checkItem mode
    return .some
  | .named span negated => closeSet mode span negated .some
  | .shorthand span negated => do
    checkShorthand mode span negated
    return .some
  | .property span => Fault.raise span (propertyFault mode)
  | .bracketed span negated body => do closeSet mode span negated (← body.survey mode)
  | .union _ items => surveyItems mode items
  | .combined _ operator left right => do
    let leftExtent ← left.survey mode
    let rightExtent ← right.survey mode
    checkCase mode right.span rightExtent
    checkCase mode left.span leftExtent
    return leftExtent.combine operator rightExtent

/-- Surveys sets, one after the other, and takes them together. -/
def surveyItems (mode : Mode) : List CharSet → Except Fault Extent
  | [] => .ok .nothing
  | item :: items => do
    let extent ← item.survey mode
    return extent.join (← surveyItems mode items)

end

/-! ### Patterns -/

/-- What a survey has found. -/
structure Findings where
  /-- The mode behind what was surveyed. -/
  mode : Mode
  /-- The bounds of words beyond ASCII are asked for. -/
  wordBounds : Bool
  deriving DecidableEq, Repr

namespace Findings

/-- What is known in front of a pattern. -/
def initial : Findings :=
  ⟨.initial, false⟩

end Findings

/-- Looks at a character outside of sets. -/
def Literal.checkPart (mode : Mode) (character : Literal) : Except Fault Unit :=
  if mode.foldsCharacters then Fault.raise character.span .unknownCase
  else if mode.characters then .ok ()
  else character.checkByte

mutual

/-- Surveys a pattern. -/
def Node.survey (findings : Findings) : Node → Except Fault Findings
  | .empty _ => .ok findings
  | .flags _ items => .ok { findings with mode := findings.mode.apply items }
  | .literal character => do
    character.checkPart findings.mode
    return findings
  | .dot span => if findings.mode.characters then .ok findings else Fault.raise span .notText
  | .assertion _ ofWord =>
    let wordBounds := findings.wordBounds || (ofWord && findings.mode.characters)
    .ok { findings with wordBounds }
  | .shorthand span negated => do
    checkShorthand findings.mode span negated
    return findings
  | .property span => Fault.raise span (propertyFault findings.mode)
  | .set span negated body => do
    let _ ← closeSet findings.mode span negated (← body.survey findings.mode)
    return findings
  | .repetition _ body => body.survey findings
  | .group _ items body => do
    let inner ← body.survey { findings with mode := findings.mode.apply items }
    return { inner with mode := findings.mode }
  | .choice _ branches => surveyParts findings branches
  | .sequence _ parts => surveyParts findings parts

/-- Surveys patterns, one after the other. -/
def surveyParts (findings : Findings) : List Node → Except Fault Findings
  | [] => .ok findings
  | part :: parts => do surveyParts (← part.survey findings) parts

end

end Relocation.Pattern
