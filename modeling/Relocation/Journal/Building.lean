import Relocation.Journal
import Relocation.Table.Draft

/-!
# Journal lines of a draft

What the journal says about a table that is being built.
-/

namespace Relocation.Draft

/-- The source of the lines below. -/
def journalSource : String := "satk::builder"

/-- The line of a table that was opened. -/
def openingLines (draft : Draft) : List Line :=
  match draft.state with
  | .opened table =>
    [⟨.debug, journalSource,
      "opened " ++ draft.mode.render ++ " relocation table at base " ++
        Text.hexAddress draft.assembledBase ++ ": " ++ Text.decimal table.codec.entrySize ++
        "-byte entries, displacement limit " ++ Text.hexAddress table.codec.maxDisplacement⟩]
  | _ => []

/-- The line of a field that is described by its low-order bytes only. -/
def narrowingLines (draft : Draft) (constant : AddressConstant) : List Line :=
  match draft.state, requestedField constant with
  | .opened _, .ok field =>
    if draft.mode.narrows field then
      [⟨.warn, "satk::arch::amode24",
        "narrowing 4-byte address at displacement " ++ Text.hexAddress field.displacement ++
          " to its low 3 bytes"⟩]
    else []
  | _, _ => []

/-- The lines of an address constant that is handed to the draft. -/
def addingLines (draft : Draft) (constant : AddressConstant) : Checked (List Line) := do
  let narrowing := draft.narrowingLines constant
  match draft.state with
  | .opened table =>
    match ← draft.pack table constant with
    | .error _ => return narrowing
    | .ok (entry, packed) =>
      return narrowing ++
        [⟨.trace, journalSource,
          "entry " ++ Text.decimal (table.entries.length / table.codec.entrySize) ++ ": '" ++
            constant.label.name ++ "' length " ++ Text.decimal entry.length.toNat ++
            " displacement " ++ Text.hexAddress entry.displacement ++ " packed " ++
            Text.hexAddress packed⟩]
  | _ => return narrowing

/-- The line of a table that was closed. -/
def closingLine (table : BuiltTable) : Line :=
  ⟨.debug, journalSource,
    "closed relocation table at " ++ Text.hexAddress table.address ++ ": " ++
      Text.decimal table.entryCount ++ " entries, " ++ Text.decimal table.length ++ " bytes"⟩

end Relocation.Draft
