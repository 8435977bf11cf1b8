import Relocation.Journal.Filter

/-!
# What a command prints

A command prints results and journal lines to its standard output, in the order in which they come
up.  When it fails, a report goes to standard error: what could not be done, and why.
-/

namespace Relocation.CommandLine

/-- Something a command prints. -/
inductive Printed where
  | text (line : String)
  /-- A journal line, which a filter may hold back. -/
  | journal (line : Line)
  deriving DecidableEq, Repr

/-- What could not be done, and the reasons behind it. -/
structure Report where
  summary : String
  causes : List String
  deriving DecidableEq, Repr

namespace Report

/-- A report that needs no reason. -/
def bare (summary : String) : Report :=
  ⟨summary, []⟩

/-- The lines of a reason: `label` in front of the first, `margin` in front of the others. -/
def indent (label margin cause : String) : List String :=
  match (Text.cutAt '\n' cause.toList).map String.ofList with
  | [] => [label]
  | first :: others => (label ++ first) :: others.map (margin ++ ·)

/-- The lines of the reasons.  Several of them are numbered. -/
def causeLines : List String → List String
  | [] => []
  | [cause] => "" :: "Caused by:" :: indent "    " "    " cause
  | causes =>
    "" :: "Caused by:" :: causes.zipIdx.flatMap fun (cause, index) =>
      indent (Text.padLeft 5 ' ' (Text.decimal index) ++ ": ") "       " cause

/-- The texts that a report prints. -/
def texts (report : Report) : List String :=
  ("Error: " ++ report.summary) :: causeLines report.causes

end Report

/-- How a command ended. -/
inductive Ending where
  | success
  | failure (report : Report)
  /-- A program check stopped it. -/
  | check
  deriving DecidableEq, Repr

/-- All that came of a command. -/
structure Execution where
  printed : List Printed
  ending : Ending
  deriving DecidableEq, Repr

namespace Execution

/-- The execution with something printed in front of it. -/
def printing (first : List Printed) (execution : Execution) : Execution :=
  { execution with printed := first ++ execution.printed }

/-- A command that succeeds after printing. -/
def done (printed : List Printed) : Execution :=
  ⟨printed, .success⟩

/-- A command that fails. -/
def failed (report : Report) : Execution :=
  ⟨[], .failure report⟩

/-- A command that a program check stops. -/
def stopped : Execution :=
  ⟨[], .check⟩

end Execution

/-- What becomes of a process whose filter cannot be read. -/
def FilterError.ending : FilterError → Ending
  | .level =>
    let cause := "error parsing level filter: expected one of \"off\", \"error\", \"warn\", " ++
      "\"info\", \"debug\", \"trace\", or a number 0-5"
    .failure ⟨"invalid log level", [cause, cause]⟩
  | .directive => .failure ⟨"invalid log level", ["invalid filter directive"]⟩
  | .cut => .check
  | .value text refusal =>
    let causes := refusal.causes text
    let outer := causes.take 1 |>.map fun cause => "invalid field filter: " ++ cause
    .failure ⟨"invalid log level", outer ++ causes⟩

/-- The streams and the exit code of a process.  A stream is a list of texts, each of which a line
feed follows. -/
structure ProcessResult where
  exit : Nat
  out : List String
  err : List String
  deriving DecidableEq, Repr

/-- The lines on standard output. -/
def ProcessResult.outLines (result : ProcessResult) : List String :=
  result.out.flatMap Text.lines

/-- The lines on standard error. -/
def ProcessResult.errLines (result : ProcessResult) : List String :=
  result.err.flatMap Text.lines

/-- What a filter leaves of the things a command prints. -/
def Printed.shown? (filter : Filter) : Printed → Option String
  | text line => some line
  | journal line => if filter.admits line then some line.render else none

/-- The process that prints `out` and ends. -/
def Ending.result (ending : Ending) (out : List String) : ProcessResult :=
  match ending with
  | .success => ⟨0, out, []⟩
  | .failure report => ⟨1, out, report.texts⟩
  | .check => ⟨101, out, []⟩

/-- The process that runs a command under a filter. -/
def Execution.result (execution : Execution) (filter : Filter) : ProcessResult :=
  execution.ending.result (execution.printed.filterMap (Printed.shown? filter))

end Relocation.CommandLine
