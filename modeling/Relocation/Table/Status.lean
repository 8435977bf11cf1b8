import Relocation.Storage

/-!
# Table status

A relocation table records in itself how far its relocation has come, so that it is used once.  The
status is one byte of flags: the leftmost bit says that relocation has started, the next one that it
has completed.
-/

namespace Relocation

/-- How far the relocation of a table has come. -/
inductive Status where
  | notStarted
  | inProgress
  | completed
  deriving DecidableEq, Repr

namespace Status

/-- The flag of a relocation that has started. -/
def startedFlag : UInt8 := 0x80

/-- The flag of a relocation that has completed. -/
def completedFlag : UInt8 := 0x40

/-- The status a flag byte stands for. -/
def ofFlags (flags : UInt8) : Status :=
  if flags &&& completedFlag ≠ 0 then completed
  else if flags &&& startedFlag ≠ 0 then inProgress
  else notStarted

/-- The flag byte of a status. -/
def flags : Status → UInt8
  | notStarted => 0
  | inProgress => startedFlag
  | completed => startedFlag ||| completedFlag

/-- A flag byte with no bits but the two flags. -/
def PlainFlags (flags : UInt8) : Prop :=
  flags &&& ~~~(startedFlag ||| completedFlag) = 0

instance (flags : UInt8) : Decidable (PlainFlags flags) :=
  inferInstanceAs (Decidable (_ = _))

/-- The status as reports name it. -/
def render : Status → String
  | notStarted => "NotStarted"
  | inProgress => "InProgress"
  | completed => "Completed"

@[simp] theorem ofFlags_flags (status : Status) : ofFlags status.flags = status := by
  cases status <;> rfl

end Status

end Relocation
