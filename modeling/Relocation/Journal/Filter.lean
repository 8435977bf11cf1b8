import Relocation.Journal
import Relocation.Pattern
import Relocation.Text.Alphanumeric
import Relocation.Text.Blank
import Relocation.Text.Bytes
import Relocation.Text.Real
import Relocation.Text.Split

/-!
# Choosing journal lines

A filter is a list of directives, separated by commas.  A directive is one of

* `level`, about all lines,
* `source` or `source=level`, about the lines of all sources whose names begin like `source`,
* `[{field}]`, about the lines that carry a field of that name, or `[span]`, `[span{field}]` and
  `[{field=value}]`, about spans.  A source may stand in front of the bracket and `=level` behind.

Where no level is given, every level is meant.  The directive with the longest source decides about
a line, of two with the same source the one that names a field, and among equals the last one.  A
line that no directive is about is not chosen.  The only field of a line is its message.  There are
no spans, so a directive about spans chooses nothing.  The value of a field is a number or a
pattern.

The blanks around a directive count for nothing when its shape is made out, but the parts are then
taken from the directive as it was given, at the bytes where they were found without the blanks.  A
blank in front therefore moves every part, and a blank behind becomes part of what stands last.
-/

namespace Relocation

/-- Why a text is not a filter. -/
inductive FilterError where
  /-- A level is not one of the known ones. -/
  | level
  /-- A directive has none of the known shapes. -/
  | directive
  /-- A part of a directive would begin or end within a character. -/
  | cut
  /-- The value of a field is neither a number nor a pattern that can be used. -/
  | value (text : List Char) (refusal : Pattern.Refusal)
  deriving DecidableEq, Repr

/-- What a directive is about. -/
inductive Subject where
  /-- All lines. -/
  | lines
  /-- The lines that carry a field of the given name. -/
  | field (name : List Char)
  /-- Spans, which no line belongs to. -/
  | spans
  deriving DecidableEq, Repr

/-- The choice of the lines of some sources down to a rank. -/
structure Directive where
  /-- How the names of the governed sources begin.  A directive without one governs all. -/
  source : Option (List Char)
  subject : Subject
  /-- The highest rank that is chosen. -/
  rank : Nat
  deriving DecidableEq, Repr

namespace Directive

/-! ### Levels -/

/-- The rank that includes all lines. -/
def topRank : Nat :=
  Severity.trace.rank

/-- The rank of a level: a number from 0 to 5 or a name in letters of either case. -/
def rank? (text : List Char) : Option Nat :=
  match Text.readNatural .decimal (topRank + 1) text with
  | .ok n => some n
  | .error _ =>
    match String.ofList (text.map Char.toLower) with
    | "off" => some 0
    | "error" => some Severity.error.rank
    | "warn" => some Severity.warn.rank
    | "info" => some Severity.info.rank
    | "debug" => some Severity.debug.rank
    | "trace" => some Severity.trace.rank
    | _ => none

/-- Reads the level behind an equals sign.  No level means all lines. -/
def readRank (text : List Char) : Except FilterError Nat :=
  if text.isEmpty then .ok topRank
  else
    match rank? text with
    | some rank => .ok rank
    | none => .error .level

/-! ### Parts -/

/-- The part of a directive between two bytes. -/
def part (given : List Char) (start stop : Nat) : Except FilterError (List Char) :=
  match Text.betweenBytes? start stop given with
  | some text => .ok text
  | none => .error .cut

/-- The part of a directive from a byte on. -/
def lastPart (given : List Char) (start : Nat) : Except FilterError (List Char) :=
  match Text.fromByte? start given with
  | some text => .ok text
  | none => .error .cut

/-- The first of the given marks in a text that begins at byte `start`: the mark, the byte it stands
at, and the text behind it. -/
def findMark (marks : List Char) : Nat → List Char → Option (Char × Nat × List Char)
  | _, [] => none
  | start, c :: rest =>
    if c ∈ marks then some (c, start, rest) else findMark marks (start + c.utf8Size) rest

/-- A source may begin with the character. -/
def startsSource (c : Char) : Bool :=
  Text.isAlphanumeric c || c == '-' || c == ':' || c == '_'

/-- What the text between braces says a directive is about.  Fields have values in spans only. -/
def fieldSubject (field : List Char) : Subject :=
  if field.contains '=' then .spans else .field field

/-- Looks at the value of a field, if there is one.  It stands between the first equals sign and the
second. -/
def checkValue (field : List Char) : Except FilterError Unit :=
  match Text.cutAt '=' field with
  | _ :: value :: _ =>
    if Text.isReal value then .ok ()
    else
      match Pattern.check value with
      | .ok () => .ok ()
      | .error refusal => .error (.value value refusal)
  | _ => .ok ()

/-! ### Reading

The functions below take the directive as it was given, and the text that is left of it, without
blanks, with the byte where that text begins. -/

/-- Reads what follows a bracket: nothing, or a level. -/
def readTail (given : List Char) (source : Option (List Char)) (subject : Subject) (start : Nat) :
    List Char → Except FilterError Directive
  | [] => .ok ⟨source, subject, topRank⟩
  | '=' :: _ => do return ⟨source, subject, ← readRank (← lastPart given (start + 1))⟩
  | _ => .error .directive

/-- Reads what follows an opening brace: a field and the two closing marks. -/
def readBraces (given : List Char) (source : Option (List Char)) (ofSpan : Bool) (start : Nat)
    (text : List Char) : Except FilterError Directive :=
  match findMark ['\x7d'] start text with
  | none => .error .directive
  | some (_, stop, rest) => do
    let field ← part given start stop
    checkValue field
    match field, rest with
    | _ :: _, ']' :: rest =>
      readTail given source (if ofSpan then .spans else fieldSubject field) (stop + 2) rest
    | _, _ => .error .directive

/-- Reads what follows an opening bracket: the name of a span, a field in braces, or both. -/
def readBracket (given : List Char) (source : Option (List Char)) (start : Nat)
    (text : List Char) : Except FilterError Directive :=
  match findMark [']', '\x7b'] start text with
  | none => .error .directive
  | some (mark, stop, rest) => do
    let span ← part given start stop
    if mark = ']' then readTail given source .spans (stop + 1) rest
    else readBraces given source (!span.isEmpty) (stop + 1) rest

/-- The directive that is only a word: a level if it is one, else a source. -/
def ofWord (word : List Char) : Directive :=
  match rank? word with
  | some rank => ⟨none, .lines, rank⟩
  | none => ⟨some word, .lines, topRank⟩

/-- Reads a directive. -/
def read (given : List Char) : Except FilterError Directive :=
  match Text.trim given with
  | [] => .error .directive
  | '[' :: rest => readBracket given none 1 rest
  | c :: rest =>
    if startsSource c then
      match findMark ['=', '['] 0 (c :: rest) with
      | none => .ok (ofWord given)
      | some (mark, stop, rest) => do
        let source ← part given 0 stop
        if mark = '=' then return ⟨source, .lines, ← readRank (← lastPart given (stop + 1))⟩
        else readBracket given source (stop + 1) rest
    else
      .error .directive

/-! ### Deciding -/

/-- The name of the field that holds the message of a line. -/
def messageField : List Char := "message".toList

/-- The directive is about the lines of a source. -/
def governs (directive : Directive) (source : List Char) : Bool :=
  (directive.source.getD []).isPrefixOf source &&
    match directive.subject with
    | .lines => true
    | .field name => name == messageField
    | .spans => false

/-- How closely a directive names its sources, and how closely their lines. -/
def weight (directive : Directive) : Nat × Nat :=
  (match directive.source with
    | none => 0
    | some source => source.length + 1,
   match directive.subject with
    | .lines => 0
    | .field _ | .spans => 1)

/-- The directive names its lines more closely than another one. -/
def outweighs (a b : Directive) : Bool :=
  b.weight.1 < a.weight.1 || b.weight.1 == a.weight.1 && b.weight.2 < a.weight.2

end Directive

/-- A choice of journal lines. -/
structure Filter where
  directives : List Directive
  deriving DecidableEq, Repr

namespace Filter

/-- Reads a filter.  Nothing between two commas counts for nothing, and the filter without
directives chooses no line. -/
def parse (text : String) : Except FilterError Filter := do
  let parts := (Text.cutAt ',' text.toList).filter (!·.isEmpty)
  return ⟨← parts.mapM Directive.read⟩

/-- The directive that decides about the lines of a source. -/
def deciding? (filter : Filter) (source : List Char) : Option Directive :=
  (filter.directives.filter (·.governs source)).foldl
    (fun best directive =>
      match best with
      | none => some directive
      | some other => if other.outweighs directive then some other else some directive)
    none

/-- The line is chosen. -/
def admits (filter : Filter) (line : Line) : Bool :=
  match filter.deciding? line.source.toList with
  | some directive => line.severity.rank ≤ directive.rank
  | none => false

end Filter

end Relocation
