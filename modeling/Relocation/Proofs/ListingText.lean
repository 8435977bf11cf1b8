import Relocation.Listing
import Relocation.Proofs.Numerals
import Relocation.Text.Split

/-!
# What the lines of a listing show

A listing prints one line for each entry.  This file says how such a line is read: its number stands
in brackets, right-aligned in four columns, and is followed by the width in decimal, the
displacement in hexadecimal and the number of length bits in decimal.  `Entry.ShownBy` is the form
of one line and `EntryListing.ShownBy` that of all of them.  Both speak of the characters and of
positional notation only, not of the way in which numbers are written.

The lines that are printed have this form (`EntryListing.shownBy_report`), and they can be read in
no other way: whatever list of entries they show is the list that was printed
(`EntryListing.ShownBy.unique`).
-/

namespace Relocation

namespace Text

/-! ### Digits in a line -/

/-- The characters are the digits of the number, at least one of them. -/
def Radix.Writes (radix : Radix) (digits : List Char) (n : Nat) : Prop :=
  digits ≠ [] ∧ radix.Denotes digits n

/-- Only digits are written. -/
lemma Radix.Writes.not_mem {radix : Radix} {digits : List Char} {n : Nat} {c : Char}
    (h : radix.Writes digits n) (hc : radix.digit? c = none) : c ∉ digits := by
  intro hmem
  obtain ⟨d, hd⟩ := h.2.exists_isDigit hmem
  exact Radix.digit?_eq_none_iff.mp hc d hd

/-- No blank is written. -/
lemma Radix.Writes.blank_not_mem {radix : Radix} {digits : List Char} {n : Nat}
    (h : radix.Writes digits n) : ' ' ∉ digits :=
  h.not_mem (by cases radix <;> decide)

/-- A number in decimal is written in decimal digits. -/
lemma exists_decimal_eq (n : Nat) :
    ∃ digits, decimal n = String.ofList digits ∧ Radix.decimal.Writes digits n :=
  ⟨_, rfl, numeral_ne_nil _ _ _, denotes_numeral (isDigit_lowerDigit .decimal) n⟩

/-- An address is reported in hexadecimal digits. -/
lemma exists_reportAddress_eq (address : Doubleword) :
    ∃ digits, reportAddress address = "0x" ++ String.ofList digits ∧
      Radix.hexadecimal.Writes digits address.toNat :=
  ⟨_, rfl, numeral_ne_nil _ _ _, denotes_numeral isDigit_upperDigit _⟩

/-- What stands in front of a label is known when the first character of the label is not in it. -/
lemma append_label_inj {mark : Char} {label front front' back back' : List Char}
    (hlabel : label.head? = some mark)
    (h : front ++ (label ++ back) = front' ++ (label ++ back'))
    (hfront : mark ∉ front) (hfront' : mark ∉ front') : front = front' ∧ back = back' := by
  obtain ⟨rest, rfl⟩ := List.head?_eq_some_iff.mp hlabel
  have hcut := splitAtFirst_append hfront (rest ++ back)
  have hcut' := splitAtFirst_append hfront' (rest ++ back')
  rw [List.cons_append, List.cons_append] at h
  rw [h, hcut', Option.some.injEq, Prod.mk.injEq] at hcut
  exact ⟨hcut.1.symm, List.append_cancel_left hcut.2.symm⟩

end Text

open Text

/-! ### One line -/

/-- The line shows this entry as number `index` of a table with this many length bits. -/
def Entry.ShownBy (entry : Entry) (lengthBits index : Nat) (line : String) : Prop :=
  ∃ number width displacement bits : List Char,
    line = "  [" ++ String.ofList (List.replicate (4 - number.length) ' ' ++ number) ++
      "] length " ++ String.ofList width ++ " displacement 0x" ++ String.ofList displacement ++
      " (" ++ String.ofList bits ++ " length bits)" ∧
    Radix.decimal.Writes number index ∧
    Radix.decimal.Writes width entry.length.toNat ∧
    Radix.hexadecimal.Writes displacement entry.displacement.toNat ∧
    Radix.decimal.Writes bits lengthBits

/-- The line that is printed for an entry shows it. -/
lemma Entry.shownBy_report (entry : Entry) (lengthBits index : Nat) :
    entry.ShownBy lengthBits index (entry.report lengthBits index) := by
  obtain ⟨number, hnumber, hindex⟩ := exists_decimal_eq index
  obtain ⟨width, hwidth, hlength⟩ := exists_decimal_eq entry.length.toNat
  obtain ⟨digits, hdigits, hdisplacement⟩ := exists_reportAddress_eq entry.displacement
  obtain ⟨bits, hbits, hlengthBits⟩ := exists_decimal_eq lengthBits
  refine ⟨number, width, digits, bits, ?_, hindex, hlength, hdisplacement, hlengthBits⟩
  rw [Entry.report, hnumber, hwidth, hdigits, hbits, padLeft, String.length_ofList,
    ← String.ofList_append]
  simp only [String.append_assoc]
  rfl

/-- No bracket stands in the column of the numbers. -/
lemma bracket_not_mem_column {number : List Char} {index : Nat}
    (h : Radix.decimal.Writes number index) (blanks : Nat) :
    ']' ∉ List.replicate blanks ' ' ++ number := by
  rw [List.mem_append, not_or]
  refine ⟨fun hmem => ?_, h.not_mem (by decide)⟩
  exact absurd (List.eq_of_mem_replicate hmem) (by decide)

/-- A line shows one entry only. -/
lemma Entry.ShownBy.unique {entry other : Entry} {lengthBits lengthBits' index index' : Nat}
    {line : String} (h : entry.ShownBy lengthBits index line)
    (h' : other.ShownBy lengthBits' index' line) : entry = other := by
  obtain ⟨number, width, digits, bits, rfl, hnumber, hwidth, hdigits, -⟩ := h
  obtain ⟨number', width', digits', bits', hline, hnumber', hwidth', hdigits', -⟩ := h'
  have hcolumn := bracket_not_mem_column hnumber (4 - number.length)
  have hcolumn' := bracket_not_mem_column hnumber' (4 - number'.length)
  generalize List.replicate (4 - number.length) ' ' ++ number = column at hline hcolumn
  generalize List.replicate (4 - number'.length) ' ' ++ number' = column' at hline hcolumn'
  have hchars := congrArg String.toList hline
  simp only [String.toList_append, String.toList_ofList, List.append_assoc] at hchars
  -- the first character of each label is no part of what stands in front of the label
  obtain ⟨-, hafterColumn⟩ :=
    append_label_inj (by rfl) (List.append_cancel_left hchars) hcolumn hcolumn'
  obtain ⟨rfl, hafterWidth⟩ :=
    append_label_inj (by rfl) hafterColumn hwidth.blank_not_mem hwidth'.blank_not_mem
  obtain ⟨rfl, -⟩ :=
    append_label_inj (by rfl) hafterWidth hdigits.blank_not_mem hdigits'.blank_not_mem
  have hlength : entry.length = other.length := UInt8.toNat_inj.mp (hwidth.2.unique hwidth'.2)
  have hdisplacement : entry.displacement = other.displacement :=
    UInt64.toNat_inj.mp (hdigits.2.unique hdigits'.2)
  cases entry
  cases other
  congr

/-! ### All lines -/

/-- The lines show the entries one after the other, the first of them as number zero. -/
def EntryListing.ShownBy (listing : EntryListing) (lines : List String) : Prop :=
  lines.length = listing.entries.length ∧
    ∀ (index : Nat) (entry : Entry) (line : String), listing.entries[index]? = some entry →
      lines[index]? = some line → entry.ShownBy listing.lengthBits index line

/-- The lines that are printed for the entries show them. -/
theorem EntryListing.shownBy_report (listing : EntryListing) :
    listing.ShownBy listing.report := by
  refine ⟨by simp [EntryListing.report], fun index entry line hentry hline => ?_⟩
  rw [EntryListing.report, List.getElem?_map, List.getElem?_zipIdx, hentry] at hline
  simp only [Option.map_some, Option.some.injEq] at hline
  rw [← hline, Nat.zero_add]
  exact entry.shownBy_report listing.lengthBits index

/-- Lines show one list of entries only. -/
theorem EntryListing.ShownBy.unique {listing other : EntryListing} {lines : List String}
    (h : listing.ShownBy lines) (h' : other.ShownBy lines) : listing.entries = other.entries := by
  apply List.ext_getElem (h.1.symm.trans h'.1)
  intro index hindex hindex'
  have hbound : index < lines.length := h.1 ▸ hindex
  have hline : lines[index]? = some lines[index] := List.getElem?_eq_getElem hbound
  exact (h.2 _ _ _ (List.getElem?_eq_getElem hindex) hline).unique
    (h'.2 _ _ _ (List.getElem?_eq_getElem hindex') hline)

end Relocation
