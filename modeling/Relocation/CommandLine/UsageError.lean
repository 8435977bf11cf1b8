/-!
# Usage errors

What keeps a list of arguments from being a command.  Asking for help or for the version is among
them, since no command is run then either.
-/

namespace Relocation

/-- Why a list of arguments is not a command. -/
inductive UsageError where
  /-- There are no arguments at all. -/
  | nothingGiven
  | helpRequested
  | versionRequested
  | missingSubcommand
  | unknownSubcommand
  | unknownArgument
  /-- An option stands without its value, or with an empty one where that makes no sense. -/
  | missingValue
  /-- A value was attached to an option that takes none. -/
  | unneededValue
  /-- An option that may be given once is given twice. -/
  | repeatedOption
  /-- An option that has to be given is not. -/
  | missingOption
  /-- A value cannot be read, with the reason. -/
  | invalidValue (message : String)
  deriving DecidableEq, Repr

end Relocation
