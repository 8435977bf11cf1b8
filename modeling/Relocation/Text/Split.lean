/-!
# Cutting text

Text is cut at a mark, which belongs to none of the pieces.  Lines are the pieces between line
feeds.
-/

namespace Relocation.Text

/-- The text before and behind the first `mark`, if there is one. -/
def splitAtFirst (mark : Char) : List Char → Option (List Char × List Char)
  | [] => none
  | c :: rest =>
    if c = mark then some ([], rest)
    else (splitAtFirst mark rest).map fun (before, behind) => (c :: before, behind)

/-- A text without the mark is not cut. -/
theorem splitAtFirst_of_not_mem {mark : Char} {text : List Char} (h : mark ∉ text) :
    splitAtFirst mark text = none := by
  induction text with
  | nil => rfl
  | cons c rest ih =>
    obtain ⟨hc, hrest⟩ := List.ne_and_not_mem_of_not_mem_cons h
    rw [splitAtFirst, if_neg hc.symm, ih hrest]
    rfl

/-- A text is cut at the first mark in it. -/
theorem splitAtFirst_append {mark : Char} {before : List Char} (h : mark ∉ before)
    (behind : List Char) :
    splitAtFirst mark (before ++ mark :: behind) = some (before, behind) := by
  induction before with
  | nil => simp [splitAtFirst]
  | cons c before ih =>
    obtain ⟨hc, hbefore⟩ := List.ne_and_not_mem_of_not_mem_cons h
    rw [List.cons_append, splitAtFirst, if_neg hc.symm, ih hbefore]
    rfl

/-- The pieces of the text between its marks. -/
def cutAt (mark : Char) : List Char → List (List Char)
  | [] => [[]]
  | c :: rest =>
    match cutAt mark rest with
    | [] => [[c]]
    | first :: others => if c = mark then [] :: first :: others else (c :: first) :: others

/-- The text without a carriage return at its end. -/
def dropReturn (text : List Char) : List Char :=
  if text.getLast? = some '\r' then text.dropLast else text

/-- The lines of a text that a line feed follows.  A carriage return in front of a line feed belongs
to the end of the line. -/
def lines (text : String) : List String :=
  (cutAt '\n' text.toList).map fun piece => String.ofList (dropReturn piece)

/-- The lines of a text.  What follows the last line feed is a line of its own if it is not
empty. -/
def linesOf (text : List Char) : List (List Char) :=
  let pieces := cutAt '\n' text
  pieces.dropLast.map dropReturn ++ (pieces.getLast?.toList.filter (!·.isEmpty))

end Relocation.Text
