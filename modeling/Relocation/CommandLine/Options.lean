import Relocation.AddressConstant
import Relocation.CommandLine.Scan
import Relocation.Registers

/-!
# Commands and their options

The command line has three subcommands: `build` makes a relocation table for a region and appends
it, `relocate` moves an image to a new base, and `dump` prints a table.  The log level may be given
before or behind the subcommand.
-/

namespace Relocation.CommandLine

/-- What `build` is asked to do. -/
structure BuildOptions where
  /-- File that holds the region. -/
  region : String
  base : Doubleword
  mode : AddressingMode
  entrySize : UInt8
  transferAddress : Option Doubleword
  constants : List AddressConstant
  /-- File the image goes to. -/
  output : String
  deriving DecidableEq, Repr

/-- What `relocate` is asked to do. -/
structure RelocateOptions where
  /-- File that holds the image. -/
  image : String
  base : Doubleword
  /-- Assembled address of the table. -/
  table : Doubleword
  newBase : Doubleword
  mode : AddressingMode
  mask : Option RegisterMask
  /-- Saved registers, in the order given. -/
  registers : List (Nat × Doubleword)
  /-- File the relocated image goes to. -/
  output : String
  deriving DecidableEq, Repr

/-- What `dump` is asked to do. -/
structure DumpOptions where
  /-- File that holds the image. -/
  image : String
  base : Doubleword
  table : Doubleword
  deriving DecidableEq, Repr

/-- A subcommand with its options. -/
inductive Command where
  | build (options : BuildOptions)
  | relocate (options : RelocateOptions)
  | dump (options : DumpOptions)
  deriving DecidableEq, Repr

/-- A whole command line. -/
structure Invocation where
  logLevel : String
  command : Command
  deriving DecidableEq, Repr

/-! ### Values -/

/-- Reads a file name, which is not empty. -/
def readPath (text : String) : Except UsageError String :=
  if text.isEmpty then .error .missingValue else .ok text

/-- Reads an address. -/
def readAddress (text : String) : Except UsageError Doubleword :=
  match Text.parseAddress text with
  | .ok address => .ok address
  | .error e => .error (.invalidValue ("invalid address '" ++ text ++ "': " ++ e.message))

/-- Reads an addressing mode. -/
def readMode (text : String) : Except UsageError AddressingMode :=
  match AddressingMode.parse? text with
  | some mode => .ok mode
  | none => .error (.invalidValue (AddressingMode.unsupported text))

/-- Reads a number from 0 to 255. -/
def readByte (text : String) : Except UsageError UInt8 :=
  match Text.readInteger 64 text.toList with
  | .error e => .error (.invalidValue e.message)
  | .ok n =>
    if 0 ≤ n ∧ n ≤ 255 then .ok (UInt8.ofNat n.toNat)
    else
      let sign := if n < 0 then "-" else ""
      .error (.invalidValue (sign ++ Text.decimal n.natAbs ++ " is not in 0..=255"))

/-- Reads an address constant. -/
def readConstant (text : String) : Except UsageError AddressConstant :=
  match AddressConstant.parse text with
  | .ok constant => .ok constant
  | .error e => .error (.invalidValue e.message)

/-- Reads a register mask. -/
def readMask (text : String) : Except UsageError RegisterMask :=
  match RegisterMask.parse? text with
  | some mask => .ok mask
  | none => .error (.invalidValue (RegisterMask.malformed text))

/-- Reads `N=VALUE`.  The register number may have any number of letters `R` in front. -/
def readRegister (text : String) : Except UsageError (Nat × Doubleword) :=
  match Text.splitAtFirst '=' text.toList with
  | none => .error (.invalidValue ("expected N=VALUE, got '" ++ text ++ "'"))
  | some (name, value) =>
    match Text.readNatural .decimal UInt64.size (name.dropWhile fun c => c == 'R' || c == 'r') with
    | .error _ => .error (.invalidValue ("invalid register '" ++ String.ofList name ++ "'"))
    | .ok number =>
      if 15 < number then
        .error (.invalidValue ("register " ++ Text.decimal number ++ " out of range 0-15"))
      else do
        return (number, ← readAddress (String.ofList value))

/-! ### Forms -/

/-- An option that is given once and takes one value. -/
def single {σ α : Type} (name : String) (letter : Option Char) (read : String → Except UsageError α)
    (set : α → σ → σ) : OptionSpec σ where
  name := name
  letter := letter
  arity := .one
  repeatable := false
  store text form := (set · form) <$> read text

/-- An option that may be given more than once. -/
def collecting {σ α : Type} (name : String) (arity : Arity) (read : String → Except UsageError α)
    (add : α → σ → σ) : OptionSpec σ where
  name := name
  letter := none
  arity := arity
  repeatable := true
  store text form := (add · form) <$> read text

/-- A form together with the log level, which every level of the command line takes. -/
structure WithLogLevel (σ : Type) where
  form : σ
  logLevel : Option String

/-- The log level, which may be any text. -/
def logLevelOption (σ : Type) : OptionSpec (WithLogLevel σ) :=
  single "log-level" none .ok fun text form => { form with logLevel := some text }

/-- The level of a subcommand with the given options. -/
def subcommandLevel {σ : Type} (options : List (OptionSpec σ)) : Level (WithLogLevel σ) where
  options := logLevelOption σ :: options.map fun option =>
    { option with
      store := fun text whole => ({ whole with form := · }) <$> option.store text whole.form }
  subcommands := []
  tellsVersion := false

/-- The form of `build`. -/
structure BuildForm where
  region : Option String
  base : Option Doubleword
  mode : AddressingMode
  entrySize : UInt8
  transferAddress : Option Doubleword
  constants : List AddressConstant
  output : String

namespace BuildForm

/-- The form with nothing but the defaults filled in. -/
def blank : BuildForm :=
  ⟨none, none, .bits31, 4, none, [], "region.rel"⟩

/-- The options of `build`. -/
def options : List (OptionSpec BuildForm) :=
  [single "region" none readPath fun path form => { form with region := some path },
   single "base" none readAddress fun address form => { form with base := some address },
   single "amode" none readMode fun mode form => { form with mode },
   single "entry-size" none readByte fun entrySize form => { form with entrySize },
   single "transfer" none readAddress fun address form =>
     { form with transferAddress := some address },
   collecting "adcon" .many readConstant fun constant form =>
     { form with constants := form.constants ++ [constant] },
   single "output" (some 'o') readPath fun output form => { form with output }]

/-- The command, if all that is required was given. -/
def finish (form : BuildForm) : Except UsageError Command :=
  match form.region, form.base with
  | some region, some base =>
    .ok (.build ⟨region, base, form.mode, form.entrySize, form.transferAddress, form.constants,
      form.output⟩)
  | _, _ => .error .missingOption

end BuildForm

/-- The form of `relocate`. -/
structure RelocateForm where
  image : Option String
  base : Option Doubleword
  table : Option Doubleword
  newBase : Option Doubleword
  mode : AddressingMode
  mask : Option RegisterMask
  registers : List (Nat × Doubleword)
  output : String

namespace RelocateForm

/-- The form with nothing but the defaults filled in. -/
def blank : RelocateForm :=
  ⟨none, none, none, none, .bits31, none, [], "region.bin"⟩

/-- The options of `relocate`. -/
def options : List (OptionSpec RelocateForm) :=
  [single "image" none readPath fun path form => { form with image := some path },
   single "base" none readAddress fun address form => { form with base := some address },
   single "table" none readAddress fun address form => { form with table := some address },
   single "new-base" none readAddress fun address form => { form with newBase := some address },
   single "amode" none readMode fun mode form => { form with mode },
   single "mask" none readMask fun mask form => { form with mask := some mask },
   collecting "register" .one readRegister fun register form =>
     { form with registers := form.registers ++ [register] },
   single "output" (some 'o') readPath fun output form => { form with output }]

/-- The command, if all that is required was given. -/
def finish (form : RelocateForm) : Except UsageError Command :=
  match form.image, form.base, form.table, form.newBase with
  | some image, some base, some table, some newBase =>
    .ok (.relocate ⟨image, base, table, newBase, form.mode, form.mask, form.registers,
      form.output⟩)
  | _, _, _, _ => .error .missingOption

end RelocateForm

/-- The form of `dump`. -/
structure DumpForm where
  image : Option String
  base : Option Doubleword
  table : Option Doubleword

namespace DumpForm

/-- The form with nothing filled in. -/
def blank : DumpForm :=
  ⟨none, none, none⟩

/-- The options of `dump`. -/
def options : List (OptionSpec DumpForm) :=
  [single "image" none readPath fun path form => { form with image := some path },
   single "base" none readAddress fun address form => { form with base := some address },
   single "table" none readAddress fun address form => { form with table := some address }]

/-- The command, if all that is required was given. -/
def finish (form : DumpForm) : Except UsageError Command :=
  match form.image, form.base, form.table with
  | some image, some base, some table => .ok (.dump ⟨image, base, table⟩)
  | _, _, _ => .error .missingOption

end DumpForm

/-! ### The command line -/

/-- The level in front of the subcommand. -/
def topLevel : Level (WithLogLevel Unit) where
  options := [logLevelOption Unit]
  subcommands := ["build", "relocate", "dump", "help"]
  tellsVersion := true

/-- Reads the options of a subcommand. -/
def parseSubcommand {σ : Type} (options : List (OptionSpec σ)) (blank : σ)
    (finish : σ → Except UsageError Command) (arguments : List String) :
    Except UsageError (Command × Option String) := do
  let (scan, _) ← (subcommandLevel options).scanArguments (.start ⟨blank, none⟩) arguments
  let scan ← scan.settle
  return (← finish scan.form.form, scan.form.logLevel)

/-- Reads what follows `help`: the names of a subcommand and of its subcommands. -/
def parseHelp : List String → UsageError
  | [] => .helpRequested
  | [name] => if topLevel.subcommands.contains name then .helpRequested else .unknownSubcommand
  | _ => .unknownSubcommand

/-- Reads a whole command line.  The log level behind the subcommand wins over the one in front. -/
def parse (arguments : List String) : Except UsageError Invocation := do
  let (scan, subcommand) ← topLevel.scanArguments (.start ⟨(), none⟩) arguments
  match subcommand with
  | none =>
    let scan ← scan.settle
    .error (if scan.given.isEmpty then .nothingGiven else .missingSubcommand)
  | some (name, rest) =>
    let (command, logLevel) ← match name with
      | "build" => parseSubcommand BuildForm.options BuildForm.blank BuildForm.finish rest
      | "relocate" =>
        parseSubcommand RelocateForm.options RelocateForm.blank RelocateForm.finish rest
      | "dump" => parseSubcommand DumpForm.options DumpForm.blank DumpForm.finish rest
      | _ => .error (parseHelp rest)
    let scan ← scan.settle
    return ⟨((logLevel <|> scan.form.logLevel).getD "info"), command⟩

end Relocation.CommandLine
