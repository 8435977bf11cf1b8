import Relocation.Run.Relocate

/-!
# Dispositions

What a starting program does once it has asked for its relocation: branch to the transfer address,
go on where it is, or halt.
-/

namespace Relocation

/-- What the caller of a relocation does next. -/
inductive Disposition where
  /-- Branch to this address. -/
  | transfer (address : Doubleword)
  /-- Go on behind the call. -/
  | proceed
  /-- Stop: there is nobody to report to. -/
  | halt (refusal : Refusal)
  deriving DecidableEq, Repr

namespace Disposition

/-- What follows from the outcome of a relocation. -/
def ofOutcome : Except Refusal Completion → Disposition
  | .error refusal => halt refusal
  | .ok completion =>
    match completion.transferAddress with
    | some address => transfer address
    | none => proceed

/-- The return code behind a disposition. -/
def returnCode : Disposition → Nat
  | transfer _ => 0
  | proceed => 4
  | halt refusal => refusal.returnCode

/-- The program goes on. -/
def isSuccess : Disposition → Bool
  | halt _ => false
  | _ => true

end Disposition

/-- The disposition that follows from a relocation. -/
def Run.disposition (run : Run) : Disposition :=
  Disposition.ofOutcome run.outcome

/-- Relocates a region on behalf of a starting program.  A mask without registers is as good as
none. -/
def invoke (mode : AddressingMode) (region : Region) (table : Doubleword) (saveArea : SaveArea)
    (mask : Option RegisterMask) : Checked Run :=
  relocate mode region table saveArea (mask.filter fun m => !m.isEmpty)

end Relocation
