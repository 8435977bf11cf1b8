import Relocation.CommandLine.UsageError
import Relocation.Text.Split

/-!
# Scanning arguments

Options are written `--name value`, `--name=value`, `-n value`, `-nvalue` or `-n=value`.  An option
whose value stands in an argument of its own stays pending until the next option begins or the
arguments end; only then are its values stored.  So an argument that is not understood is reported
before a bad value of the option in front of it, unless that value was attached.

A level of the command line is a set of options, and possibly of subcommands.  What the options say
is collected in a value of type `σ`, the form to be filled in.
-/

namespace Relocation.CommandLine

/-- How many values an option takes each time it is given. -/
inductive Arity where
  | one
  /-- At least one. -/
  | many
  deriving DecidableEq, Repr

/-- An option of a level. -/
structure OptionSpec (σ : Type) where
  /-- The name behind two hyphens. -/
  name : String
  /-- The letter behind one hyphen. -/
  letter : Option Char
  arity : Arity
  /-- The option may be given more than once. -/
  repeatable : Bool
  /-- Fills a value into the form. -/
  store : String → σ → Except UsageError σ

/-- The options and subcommands at one place of the command line. -/
structure Level (σ : Type) where
  options : List (OptionSpec σ)
  /-- Names of the subcommands. -/
  subcommands : List String
  /-- The version may be asked for here. -/
  tellsVersion : Bool

/-- An option whose values are still being collected. -/
structure Pending (σ : Type) where
  option : OptionSpec σ
  values : List String

/-- How far a scan has come. -/
structure Scan (σ : Type) where
  form : σ
  /-- Names of the options stored so far. -/
  given : List String
  pending : Option (Pending σ)
  /-- The next argument may be a value of the pending option. -/
  expecting : Bool

namespace Scan

variable {σ : Type}

/-- A scan at its start. -/
def start (form : σ) : Scan σ :=
  ⟨form, [], none, false⟩

/-- Stores the values of an option. -/
def enter (scan : Scan σ) (option : OptionSpec σ) (values : List String) :
    Except UsageError (Scan σ) :=
  if values.isEmpty then .error .missingValue
  else if !option.repeatable && scan.given.contains option.name then .error .repeatedOption
  else do
    let form ← values.foldlM (fun form value => option.store value form) scan.form
    return ⟨form, option.name :: scan.given, none, false⟩

/-- Stores the values of the pending option, if there is one. -/
def settle (scan : Scan σ) : Except UsageError (Scan σ) :=
  match scan.pending with
  | none => .ok { scan with expecting := false }
  | some pending => scan.enter pending.option pending.values

/-- Begins an option, with the value attached to it if there is one. -/
def begin (scan : Scan σ) (option : OptionSpec σ) (attached : Option String) :
    Except UsageError (Scan σ) := do
  let scan ← scan.settle
  match attached with
  | some value => scan.enter option [value]
  | none => return { scan with pending := some ⟨option, []⟩, expecting := true }

/-- Collects a value of the pending option. -/
def collect (scan : Scan σ) (pending : Pending σ) (value : String) : Scan σ :=
  { scan with
    pending := some { pending with values := pending.values ++ [value] }
    expecting := pending.option.arity == .many }

end Scan

/-! ### Arguments -/

/-- The form of an argument. -/
inductive Argument where
  /-- Two hyphens and nothing else: only plain arguments follow. -/
  | separator
  /-- `--name` or `--name=value`. -/
  | long (name : String) (attached : Option String)
  /-- `-n`, `-nvalue` or `-n=value`. -/
  | short (letter : Char) (attached : Option String)
  | plain
  deriving DecidableEq, Repr

/-- The text behind a letter that is not empty, without an equals sign in front. -/
def attachedToLetter : List Char → Option String
  | [] => none
  | '=' :: value => some (String.ofList value)
  | value => some (String.ofList value)

/-- The form of an argument.  A lone hyphen is plain. -/
def Argument.ofText (text : String) : Argument :=
  match text.toList with
  | ['-', '-'] => separator
  | '-' :: '-' :: rest =>
    match Text.splitAtFirst '=' rest with
    | some (name, value) => long (String.ofList name) (some (String.ofList value))
    | none => long (String.ofList rest) none
  | '-' :: letter :: rest => short letter (attachedToLetter rest)
  | _ => plain

namespace Level

variable {σ : Type}

/-- What is said of a plain argument that no option takes. -/
def stray (level : Level σ) : UsageError :=
  if level.subcommands.isEmpty then .unknownArgument else .unknownSubcommand

/-- What is said of an argument behind the separator.  A subcommand does not stand there. -/
def strayBehindSeparator (level : Level σ) (text : String) : UsageError :=
  if level.subcommands.contains text then .unknownArgument else level.stray

/-- Takes `--name` or `--name=value`. -/
def takeLong (level : Level σ) (scan : Scan σ) (name : String) (attached : Option String) :
    Except UsageError (Scan σ) :=
  match level.options.find? (·.name == name) with
  | some option => scan.begin option attached
  | none =>
    if name = "help" ∨ level.tellsVersion ∧ name = "version" then
      if attached.isSome then .error .unneededValue
      else do
        let _ ← scan.settle
        .error (if name = "help" then .helpRequested else .versionRequested)
    else
      .error .unknownArgument

/-- Takes `-n`, `-nvalue` or `-n=value`. -/
def takeShort (level : Level σ) (scan : Scan σ) (letter : Char) (attached : Option String) :
    Except UsageError (Scan σ) :=
  match level.options.find? (·.letter == some letter) with
  | some option => scan.begin option attached
  | none =>
    if letter = 'h' ∨ level.tellsVersion ∧ letter = 'V' then do
      let _ ← scan.settle
      .error (if letter = 'h' then .helpRequested else .versionRequested)
    else
      .error .unknownArgument

/-- Scans arguments up to a subcommand or to their end.  The result is the scan, whose last option
may still be pending, and the subcommand with the arguments behind it. -/
def scanArguments (level : Level σ) :
    Scan σ → List String → Except UsageError (Scan σ × Option (String × List String))
  | scan, [] => .ok (scan, none)
  | scan, text :: rest =>
    if !scan.expecting && level.subcommands.contains text then .ok (scan, some (text, rest))
    else
      match Argument.ofText text with
      | .separator =>
        match rest with
        | [] => .ok (scan, none)
        | next :: _ => .error (level.strayBehindSeparator next)
      | .long name attached => do
        level.scanArguments (← level.takeLong scan name attached) rest
      | .short letter attached => do
        level.scanArguments (← level.takeShort scan letter attached) rest
      | .plain =>
        match scan.expecting, scan.pending with
        | true, some pending => level.scanArguments (scan.collect pending text) rest
        | _, _ => .error level.stray

end Level

end Relocation.CommandLine
