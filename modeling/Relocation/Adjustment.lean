import Relocation.Text.Address

/-!
# Adjustments

The distance between the address a region was assembled at and the address it was loaded at.  It is
a magnitude with a direction, so that one value serves fields of every width.
-/

namespace Relocation

/-- How far, and in which direction, addresses move. -/
inductive Adjustment where
  /-- Towards higher addresses. -/
  | up (distance : Doubleword)
  /-- Towards lower addresses. -/
  | down (distance : Doubleword)
  deriving DecidableEq, Repr

namespace Adjustment

/-- The adjustment that takes `origin` to `target`. -/
def between (origin target : Doubleword) : Adjustment :=
  if origin ≤ target then up (target - origin) else down (origin - target)

/-- The distance, whatever the direction. -/
def magnitude : Adjustment → Doubleword
  | up d => d
  | down d => d

/-- Nothing moves. -/
def isNull (a : Adjustment) : Bool :=
  a.magnitude == 0

/-- Moves the part of `value` that `mask` selects, wrapping around inside the mask.  The bits
outside the mask come back cleared. -/
def applyMasked (a : Adjustment) (value mask : Doubleword) : Doubleword :=
  match a with
  | up d => ((value &&& mask) + d) &&& mask
  | down d => ((value &&& mask) - d) &&& mask

/-- The adjustment as log lines show it. -/
def render : Adjustment → String
  | up d => s!"Add({Text.decimal d.toNat})"
  | down d => s!"Subtract({Text.decimal d.toNat})"

end Adjustment

end Relocation
