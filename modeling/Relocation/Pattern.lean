import Relocation.Pattern.Nesting
import Relocation.Pattern.Reader
import Relocation.Pattern.Survey

/-!
# Patterns

A pattern describes texts.  Journal filters use patterns for the values of fields.  Here it is only
decided whether a text is a pattern that can be used, and if not, why.
-/

namespace Relocation.Pattern

/-- Why a text is no pattern that can be used. -/
inductive Refusal where
  /-- A part of it is at fault. -/
  | fault (reason : Fault)
  /-- It asks for the bounds of words beyond ASCII. -/
  | wordBounds
  deriving DecidableEq, Repr

/-- What is said of a pattern that asks for the bounds of words. -/
def wordBoundsMessage : String :=
  "unsupported regex feature for DFAs: cannot build DFAs for regexes with Unicode word " ++
    "boundaries; switch to ASCII word boundaries, or heuristically enable Unicode word " ++
    "boundaries or use a different regex engine"

/-- What is said of a text that is no pattern, from the outermost cause to the innermost. -/
def Refusal.causes (text : List Char) : Refusal → List String
  | .fault reason => ["error building NFA", "error parsing regex", reason.report text]
  | .wordBounds => [wordBoundsMessage]

/-- Reads a pattern, and looks for what is asked for in vain. -/
def inspect (text : List Char) : Except Fault Findings := do
  let pattern ← read text
  pattern.checkNesting 0
  pattern.survey .initial

/-- Looks whether a text is a pattern that can be used. -/
def check (text : List Char) : Except Refusal Unit :=
  match inspect text with
  | .error fault => .error (.fault fault)
  | .ok findings => if findings.wordBounds then .error .wordBounds else .ok ()

end Relocation.Pattern
