import Relocation.Journal
import Relocation.Run.Disposition

/-!
# Journal lines of a relocation

What the journal says about a relocation, read off the record of the run.
-/

namespace Relocation

/-- The source of the lines of a relocation. -/
def Run.journalSource : String := "satk::relocator"

/-- A change of a value. -/
def renderChange (before after : Doubleword) : String :=
  Text.hexAddress before ++ " -> " ++ Text.hexAddress after

/-- The line of a patch. -/
def Patch.line (patch : Patch) : Line :=
  ⟨.trace, Run.journalSource,
    "entry " ++ Text.decimal patch.index ++ ": displacement " ++
      Text.hexAddress patch.entry.displacement ++ " length " ++
      Text.decimal patch.entry.length.toNat ++ ": " ++ renderChange patch.before patch.after⟩

/-- The line of an adjusted register. -/
def RegisterChange.line (change : RegisterChange) : Line :=
  ⟨.trace, Run.journalSource,
    "R" ++ Text.decimal change.register ++ ": " ++ renderChange change.before change.after⟩

/-- The line of a relocation that begins to check the entries of a table. -/
def Survey.line (found : Survey) (region : Region) (table : Doubleword) : Line :=
  ⟨.debug, Run.journalSource,
    "relocating table at " ++ Text.hexAddress table ++ ": assembled base " ++
      Text.hexAddress found.header.assembledBase ++ ", new base " ++ Text.hexAddress region.base ++
      ", adjustment " ++ (found.adjustment region).render⟩

/-- The line of a relocation that has completed. -/
def Completion.line (completion : Completion) : Line :=
  let transfer := match completion.transferAddress with
    | some address => "Some(" ++ Text.lowerHex address.toNat ++ ")"
    | none => "None"
  ⟨.debug, Run.journalSource,
    "relocation complete: " ++ Text.decimal completion.entriesPatched ++ " entries, " ++
      Text.decimal completion.registersPatched ++ " registers, transfer " ++ transfer⟩

/-- The line of a disposition. -/
def Disposition.line (disposition : Disposition) : Line :=
  match disposition with
  | .halt refusal =>
    ⟨.error, "satk::invoker",
      "relocation failed with code " ++ Text.decimal refusal.returnCode ++ ": " ++
        refusal.message⟩
  | _ =>
    ⟨.info, "satk::invoker",
      "relocation succeeded with code " ++ Text.decimal disposition.returnCode⟩

/-- The lines of a relocation by the table at address `table`. -/
def Run.lines (run : Run) (table : Doubleword) : List Line :=
  (run.found.map (·.line run.region table)).toList ++
    (run.patches.map Patch.line ++
    (run.registerChanges.map RegisterChange.line ++
    (match run.outcome with
      | .ok completion => [completion.line]
      | .error _ => []) ++
    [run.disposition.line]))

end Relocation
