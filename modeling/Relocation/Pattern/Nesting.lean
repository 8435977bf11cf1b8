import Relocation.Pattern.Fault
import Relocation.Pattern.Tree

/-!
# The nesting of patterns

Parts of a pattern that have parts of their own are nested up to a limit.  Of several parts beyond
it the first one is at fault.
-/

namespace Relocation.Pattern

/-- Looks whether a part may be nested in `depth` others. -/
def enter (depth : Nat) (span : Span) : Except Fault Unit :=
  if depth < nestingLimit then .ok () else Fault.raise span .nestedTooDeep

mutual

/-- Looks at the nesting of a set that is nested in `depth` others. -/
def CharSet.checkNesting (depth : Nat) : CharSet → Except Fault Unit
  | .bracketed span _ body => do
    enter depth span
    body.checkNesting (depth + 1)
  | .union span items => do
    enter depth span
    checkItemNesting (depth + 1) items
  | .combined span _ left right => do
    enter depth span
    left.checkNesting (depth + 1)
    right.checkNesting (depth + 1)
  | _ => .ok ()

/-- Looks at the nesting of sets, one after the other. -/
def checkItemNesting (depth : Nat) : List CharSet → Except Fault Unit
  | [] => .ok ()
  | item :: items => do
    item.checkNesting depth
    checkItemNesting depth items

end

mutual

/-- Looks at the nesting of a pattern that is nested in `depth` others. -/
def Node.checkNesting (depth : Nat) : Node → Except Fault Unit
  | .set span _ body => do
    enter depth span
    body.checkNesting (depth + 1)
  | .repetition span body => do
    enter depth span
    body.checkNesting (depth + 1)
  | .group span _ body => do
    enter depth span
    body.checkNesting (depth + 1)
  | .choice span branches => do
    enter depth span
    checkPartNesting (depth + 1) branches
  | .sequence span parts => do
    enter depth span
    checkPartNesting (depth + 1) parts
  | _ => .ok ()

/-- Looks at the nesting of patterns, one after the other. -/
def checkPartNesting (depth : Nat) : List Node → Except Fault Unit
  | [] => .ok ()
  | part :: parts => do
    part.checkNesting depth
    checkPartNesting depth parts

end

end Relocation.Pattern
