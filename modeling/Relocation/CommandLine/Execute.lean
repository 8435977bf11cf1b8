import Relocation.CommandLine.Files
import Relocation.CommandLine.Options
import Relocation.CommandLine.Report
import Relocation.Image
import Relocation.Journal.Building
import Relocation.Journal.Running
import Relocation.Listing

/-!
# Running commands

Each command is a computation on bytes between a file that is read and a file that is written.  The
commands are written over an arbitrary way of accessing files.
-/

namespace Relocation.CommandLine

/-- Journal lines, as something printed. -/
def journal (lines : List Line) : List Printed :=
  lines.map .journal

/-- Goes on with the value of a checked computation. -/
def unlessChecked {α : Type} (value : Checked α) (next : α → Execution) : Execution :=
  match value with
  | .ok a => next a
  | .error _ => .stopped

/-! ### Building -/

/-- Hands address constants to a draft one after the other, up to the first that is refused. -/
def addConstants : Draft → List AddressConstant → Checked (List Line × Except Report Draft)
  | draft, [] => .ok ([], .ok draft)
  | draft, constant :: rest => do
    let lines ← draft.addingLines constant
    match ← draft.addEntry constant with
    | (.error e, _) =>
      return (lines,
        .error ⟨"failed to add address constant " ++ constant.label.name, [e.message]⟩)
    | (.ok _, draft) =>
      let (more, result) ← addConstants draft rest
      return (lines ++ more, result)

/-- The table and the image of a region, with the journal lines of the way there. -/
def BuildOptions.assemble (options : BuildOptions) (data : Storage) :
    Checked (List Line × Except Report (BuiltTable × Storage)) := do
  let region : Region := ⟨options.base, data⟩
  match (Draft.ofRegion options.mode region).openTable options.entrySize
      options.transferAddress with
  | (.error e, _) => return ([], .error (.bare e.message))
  | (.ok (), draft) =>
    let (lines, added) ← addConstants draft options.constants
    let lines := draft.openingLines ++ lines
    match added with
    | .error report => return (lines, .error report)
    | .ok draft =>
      match ← draft.closeTable .append with
      | (.error e, _) => return (lines, .error (.bare e.message))
      | (.ok table, _) =>
        let lines := lines ++ [Draft.closingLine table]
        match ← region.withTable table with
        | .error e => return (lines, .error (.bare e.message))
        | .ok image => return (lines, .ok (table, image))

/-- What `build` says when it is done. -/
def BuildOptions.done (options : BuildOptions) (table : BuiltTable) (image : Storage) :
    Execution :=
  .done
    [.journal ⟨.debug, "satk::writer",
      "wrote " ++ Text.decimal image.length ++ " bytes to " ++ options.output⟩,
     .text ("Built " ++ options.mode.render ++ " relocation table with " ++
      Text.decimal table.entryCount ++ " entries at " ++ Text.reportAddress table.address ++
      " in " ++ options.output)]

/-- Runs `build`. -/
def BuildOptions.execute {m : Type → Type} [Monad m] (options : BuildOptions)
    (files : FileAccess m) : m Execution := do
  match ← files.read options.region with
  | .error cause => return .failed ⟨"failed to read " ++ options.region, [cause]⟩
  | .ok data =>
    match options.assemble data with
    | .error _ => return .stopped
    | .ok (lines, .error report) => return (Execution.failed report).printing (journal lines)
    | .ok (lines, .ok (table, image)) =>
      let execution ← do
        match ← files.write options.output image with
        | .error cause => pure (Execution.failed ⟨"failed to write " ++ options.output, [cause]⟩)
        | .ok () => pure (options.done table image)
      return execution.printing (journal lines)

/-! ### Relocating -/

/-- The address of a table once an image assembled at `base` is loaded at `newBase`. -/
def movedTable (base table newBase : Doubleword) : Except Report Doubleword :=
  match table.sub? base with
  | none => .error (.bare "table address is below the image base")
  | some offset =>
    match newBase.add? offset with
    | none => .error (.bare "new base plus table offset overflows")
    | some moved => .ok moved

/-- The save area with registers set, one after the other. -/
def saveRegisters (area : SaveArea) (registers : List (Nat × Doubleword)) : Checked SaveArea :=
  registers.foldlM (fun area (register, value) => area.set register value) area

/-- The lines that show registers of a save area. -/
def showRegisters (area : SaveArea) (registers : List (Nat × Doubleword)) :
    Checked (List Printed) :=
  registers.mapM fun (register, _) => do
    return .text ("R" ++ Text.decimal register ++ " = " ++
      Text.reportAddress (← area.get register))

/-- The relocation of an image. -/
def RelocateOptions.relocate (options : RelocateOptions) (table : Doubleword) (image : Storage) :
    Checked Run := do
  let area ← saveRegisters .clear options.registers
  invoke options.mode ⟨options.newBase, image⟩ table area options.mask

/-- What `relocate` says of a relocation. -/
def RelocateOptions.conclude (options : RelocateOptions) (run : Run) : Execution :=
  unlessChecked (showRegisters run.saveArea options.registers) fun registers =>
    Execution.printing registers <|
      let moved := "Relocated " ++ options.output ++ " to " ++ Text.reportAddress options.newBase
      match run.disposition with
      | .transfer address =>
        .done [.text (moved ++ ", transfer to " ++ Text.reportAddress address)]
      | .proceed => .done [.text moved]
      | .halt refusal =>
        .failed (.bare ("relocation failed (code " ++ Text.decimal refusal.returnCode ++ "): " ++
          refusal.message))

/-- Brings the image to the file it is relocated in. -/
def RelocateOptions.prepare {m : Type → Type} [Monad m] (options : RelocateOptions)
    (files : FileAccess m) : m (Except Report Storage) := do
  let copied ←
    if samePath options.image options.output then pure (.ok ())
    else files.copy options.image options.output
  match copied with
  | .error cause =>
    return .error ⟨"failed to copy " ++ options.image ++ " to " ++ options.output, [cause]⟩
  | .ok () =>
    match ← files.read options.output with
    | .error cause => return .error ⟨"failed to open " ++ options.output, [cause]⟩
    | .ok image => return .ok image

/-- Runs `relocate`. -/
def RelocateOptions.execute {m : Type → Type} [Monad m] (options : RelocateOptions)
    (files : FileAccess m) : m Execution := do
  match movedTable options.base options.table options.newBase with
  | .error report => return .failed report
  | .ok table =>
    match ← options.prepare files with
    | .error report => return .failed report
    | .ok image =>
      match options.relocate table image with
      | .error _ => return .stopped
      | .ok run =>
        let execution ← do
          match ← files.write options.output run.region.data with
          | .error cause => pure (Execution.failed ⟨"failed to flush relocated image", [cause]⟩)
          | .ok () => pure (options.conclude run)
        return execution.printing (journal (run.lines table))

/-! ### Dumping -/

/-- Text lines, as something printed. -/
def text (lines : List String) : List Printed :=
  lines.map .text

/-- What `dump` says of an image. -/
def DumpOptions.list (options : DumpOptions) (image : Storage) : Execution :=
  unlessChecked (Region.list ⟨options.base, image⟩ options.table) fun
    | .error fault => .failed (.bare (fault.message options.table))
    | .ok listing =>
      Execution.printing (text (listing.header.report options.table)) <|
        match listing.entries with
        | .error fault => .failed (.bare fault.message)
        | .ok entries => .done (text entries.report)

/-- Runs `dump`. -/
def DumpOptions.execute {m : Type → Type} [Monad m] (options : DumpOptions)
    (files : FileAccess m) : m Execution := do
  match ← files.view options.image with
  | .error (.opening cause) => return .failed ⟨"failed to open " ++ options.image, [cause]⟩
  | .error (.mapping cause) => return .failed (.bare cause)
  | .ok image => return options.list image

/-! ### The process -/

/-- Runs a command. -/
def Command.execute {m : Type → Type} [Monad m] (command : Command) (files : FileAccess m) :
    m Execution :=
  match command with
  | .build options => options.execute files
  | .relocate options => options.execute files
  | .dump options => options.execute files

/-- What the version is asked for by. -/
def versionText : String := "satk 0.1.0"

/-- How the command is used, in short. -/
def helpText : List String :=
  ["Usage: satk [--log-level <LEVEL>] <build|relocate|dump|help> [OPTIONS]",
   "",
   "  build     --region <FILE> --base <ADDR> [--amode 24|31|64] [--entry-size 2|3|4]",
   "            [--transfer <ADDR>] [--adcon <ADDR[:FORMAT|:LEN[+DISP]]>...] [-o <FILE>]",
   "  relocate  --image <FILE> --base <ADDR> --table <ADDR> --new-base <ADDR>",
   "            [--amode 24|31|64] [--mask <HEX4>] [--register <N=VALUE>]... [-o <FILE>]",
   "  dump      --image <FILE> --base <ADDR> --table <ADDR>"]

/-- What becomes of arguments that are not a command. -/
def UsageError.result : UsageError → ProcessResult
  | .helpRequested => ⟨0, helpText, []⟩
  | .versionRequested => ⟨0, [versionText], []⟩
  | .invalidValue message => ⟨2, [], ["error: " ++ message]⟩
  | _ => ⟨2, [], "error: the arguments are not understood" :: helpText⟩

/-- Runs the process with the given arguments. -/
def runProcess {m : Type → Type} [Monad m] (files : FileAccess m) (arguments : List String) :
    m ProcessResult := do
  match parse arguments with
  | .error e => return UsageError.result e
  | .ok invocation =>
    match Filter.parse invocation.logLevel with
    | .error e => return (FilterError.ending e).result []
    | .ok filter => return (← invocation.command.execute files).result filter

end Relocation.CommandLine
