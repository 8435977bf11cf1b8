import Relocation.CommandLine.Options
import Relocation.Proofs.Numerals
import Mathlib.Data.List.TakeWhile

/-!
# Which texts are addresses

An address is read in three steps: the blanks around it are dropped, its beginning decides the radix,
and what is left is read as a numeral.  This file states the texts that are read, and the numbers
they stand for, as a grammar (`IsAddressText`).  The blanks around them are the business of `Trims`.
Of every other text `Announces` says what is left to scan, and the first fault in it is reported.

The main result is `address_text_exact`.  An address that was written in any of the usual ways
belongs to the grammar, so that it is read back wherever an address is asked for.
-/

namespace Relocation.Text

/-! ### Blanks -/

/-- The text is `core` with blanks around it, and `core` neither starts nor ends with a blank. -/
def Trims (text core : List Char) : Prop :=
  ∃ front back, text = front ++ (core ++ back) ∧ (∀ c ∈ front, isBlank c = true) ∧
    (∀ c ∈ back, isBlank c = true) ∧ (∀ c ∈ core.head?, isBlank c = false) ∧
    ∀ c ∈ core.getLast?, isBlank c = false

/-- Dropping blanks stops at the first other character. -/
lemma dropWhile_blanks_append {front rest : List Char} (hfront : ∀ c ∈ front, isBlank c = true)
    (hhead : ∀ c ∈ rest.head?, isBlank c = false) : (front ++ rest).dropWhile isBlank = rest := by
  rw [List.dropWhile_append_of_pos hfront]
  cases rest with
  | nil => rfl
  | cons c rest => rw [List.dropWhile_cons_of_neg (by simpa using hhead c rfl)]

/-- What follows the dropped blanks does not start with one. -/
lemma not_blank_of_mem_head?_dropWhile (text : List Char) {c : Char}
    (h : c ∈ (text.dropWhile isBlank).head?) : isBlank c = false := by
  have hhead := List.head?_dropWhile_not isBlank text
  rw [Option.mem_def.mp h] at hhead
  exact hhead

/-- Trimming drops the blanks at both ends. -/
lemma trims_trim (text : List Char) : Trims text (trim text) := by
  have hcore : trim text ++ ((text.dropWhile isBlank).reverse.takeWhile isBlank).reverse =
      text.dropWhile isBlank := by
    rw [trim, ← List.reverse_append, List.takeWhile_append_dropWhile, List.reverse_reverse]
  refine ⟨text.takeWhile isBlank, ((text.dropWhile isBlank).reverse.takeWhile isBlank).reverse,
    ?_, fun c hc => List.mem_takeWhile_imp hc, ?_, ?_, ?_⟩
  · rw [hcore, List.takeWhile_append_dropWhile]
  · intro c hc
    exact List.mem_takeWhile_imp (List.mem_reverse.mp hc)
  · intro c hc
    apply not_blank_of_mem_head?_dropWhile text
    rw [← hcore, List.head?_append, Option.mem_def.mp hc]
    rfl
  · intro c hc
    rw [trim, List.getLast?_reverse] at hc
    exact not_blank_of_mem_head?_dropWhile _ hc

/-- The trimmed text is all that is left without blanks. -/
lemma Trims.trim_eq {text core : List Char} (h : Trims text core) : trim text = core := by
  obtain ⟨front, back, rfl, hfront, hback, hhead, hlast⟩ := h
  have hback' : ∀ c ∈ back.reverse, isBlank c = true :=
    fun c hc => hback c (List.mem_reverse.mp hc)
  have hlast' : ∀ c ∈ core.reverse.head?, isBlank c = false := by
    rwa [List.head?_reverse]
  by_cases hcore : core = []
  · subst hcore
    have hall : ∀ c ∈ front ++ back, isBlank c = true := List.forall_mem_append.mpr ⟨hfront, hback⟩
    rw [trim, List.nil_append, List.dropWhile_eq_nil_iff.mpr hall]
    rfl
  · have hhead' : ∀ c ∈ (core ++ back).head?, isBlank c = false := by
      rwa [List.head?_append_of_ne_nil _ hcore]
    rw [trim, dropWhile_blanks_append hfront hhead', List.reverse_append,
      dropWhile_blanks_append hback' hlast', List.reverse_reverse]

/-- A text has one trimmed form. -/
lemma exists_trims_iff {text : List Char} {P : List Char → Prop} :
    (∃ core, Trims text core ∧ P core) ↔ P (trim text) := by
  constructor
  · rintro ⟨core, hcore, h⟩
    rwa [hcore.trim_eq]
  · exact fun h => ⟨_, trims_trim text, h⟩

/-- Blanks around a text that has none are what trimming drops. -/
lemma trims_append {front core back : List Char} (hfront : ∀ c ∈ front, isBlank c = true)
    (hcore : ∀ c ∈ core, isBlank c = false) (hback : ∀ c ∈ back, isBlank c = true) :
    Trims (front ++ (core ++ back)) core :=
  ⟨front, back, rfl, hfront, hback, fun c hc => hcore c (List.mem_of_mem_head? hc),
    fun c hc => hcore c (List.mem_of_mem_getLast? hc)⟩

/-! ### The grammar -/

/-- The text stands for the number. -/
inductive IsAddressText : List Char → Nat → Prop
  /-- A decimal numeral stands for what it denotes. -/
  | decimal {text : List Char} {n : Nat} (numeral : Radix.decimal.IsNumeral text n) :
      IsAddressText text n
  /-- So does a hexadecimal numeral behind a zero and the letter x in either case. -/
  | hexadecimal {mark : Char} {text : List Char} {n : Nat} (marked : mark = 'x' ∨ mark = 'X')
      (numeral : Radix.hexadecimal.IsNumeral text n) : IsAddressText ('0' :: mark :: text) n

/-- The beginning of the text announces the radix of a numeral, and this is what is left of it. -/
inductive Announces : List Char → Radix → List Char → Prop
  | hexadecimal {mark : Char} {rest : List Char} (marked : mark = 'x' ∨ mark = 'X') :
      Announces ('0' :: mark :: rest) .hexadecimal rest
  | decimal {text : List Char}
      (unmarked : ∀ mark rest, text = '0' :: mark :: rest → mark ≠ 'x' ∧ mark ≠ 'X') :
      Announces text .decimal text

/-- A text with the mark of the other radix is no decimal numeral. -/
lemma not_isNumeral_marked {mark : Char} {rest : List Char} {n : Nat}
    (h : mark = 'x' ∨ mark = 'X') : ¬ Radix.decimal.IsNumeral ('0' :: mark :: rest) n := by
  have hmark : Radix.decimal.digit? mark = none := by
    rcases h with rfl | rfl <;> decide
  rintro ⟨digits, -, htext | htext, hdenotes⟩
  · subst htext
    obtain ⟨d, hd⟩ := hdenotes.exists_isDigit (List.mem_cons_of_mem '0' List.mem_cons_self)
    exact Radix.digit?_eq_none_iff.mp hmark d hd
  · cases htext

section Announcing

variable {text core rest : List Char} {radix : Radix}

/-- Every text announces a radix. -/
lemma exists_announces (text : List Char) : ∃ radix rest, Announces text radix rest := by
  by_cases h : ∃ mark rest, text = '0' :: mark :: rest ∧ (mark = 'x' ∨ mark = 'X')
  · obtain ⟨mark, rest, rfl, hmark⟩ := h
    exact ⟨_, _, Announces.hexadecimal hmark⟩
  · refine ⟨_, _, Announces.decimal fun mark rest htext => ?_⟩
    exact not_or.mp fun hmark => h ⟨mark, rest, htext, hmark⟩

/-- A text belongs to the grammar when what is left of it is a numeral of the radix. -/
lemma Announces.isAddressText_iff (h : Announces core radix rest) {n : Nat} :
    IsAddressText core n ↔ radix.IsNumeral rest n := by
  cases h with
  | hexadecimal marked =>
    refine ⟨fun htext => ?_, IsAddressText.hexadecimal marked⟩
    cases htext with
    | decimal numeral => exact absurd numeral (not_isNumeral_marked marked)
    | hexadecimal _ numeral => exact numeral
  | decimal unmarked =>
    refine ⟨fun htext => ?_, IsAddressText.decimal⟩
    cases htext with
    | decimal numeral => exact numeral
    | @hexadecimal mark text _ marked _ =>
      exact absurd marked (not_or.mpr (unmarked mark text rfl))

/-- What is left is read in the radix that was announced. -/
lemma readAddress_eq (h : Announces (trim text) radix rest) :
    readAddress text = UInt64.ofNat <$> readNatural radix UInt64.size rest := by
  unfold readAddress
  generalize trim text = core at h
  cases h with
  | hexadecimal marked => rcases marked with rfl | rfl <;> rfl
  | decimal unmarked =>
    split
    · exact absurd rfl (unmarked _ _ rfl).1
    · exact absurd rfl (unmarked _ _ rfl).2
    · rfl

end Announcing

/-! ### Reading an address -/

/-- A text is read as an address when it stands for it. -/
theorem readAddress_eq_ok_iff {text : List Char} {v : Doubleword} :
    readAddress text = .ok v ↔ IsAddressText (trim text) v.toNat := by
  obtain ⟨radix, rest, hannounces⟩ := exists_announces (trim text)
  rw [readAddress_eq hannounces, hannounces.isAddressText_iff]
  constructor
  · intro h
    cases hread : readNatural radix UInt64.size rest with
    | error e =>
      rw [hread] at h
      cases h
    | ok n =>
      obtain ⟨hnumeral, hlt⟩ := (readNatural_eq_ok_iff (by decide)).mp hread
      rw [hread] at h
      cases h
      rwa [UInt64.toNat_ofNat_of_lt' hlt]
  · intro h
    rw [(readNatural_eq_ok_iff (by decide)).mpr ⟨h, v.toNat_lt⟩]
    exact congrArg Except.ok UInt64.ofNat_toNat

/-- The error of a text that is no address is decided by what is left behind its beginning. -/
theorem readAddress_eq_error_iff {text : List Char} {e : NumeralError} :
    readAddress text = .error e ↔ ∃ radix rest, Announces (trim text) radix rest ∧
      (rest = [] ∧ e = .empty ∨ rest ≠ [] ∧ radix.FirstFault UInt64.size (unsigned rest) e) := by
  have herror : ∀ {radix rest}, Announces (trim text) radix rest →
      (readAddress text = .error e ↔
        rest = [] ∧ e = .empty ∨ rest ≠ [] ∧ radix.FirstFault UInt64.size (unsigned rest) e) := by
    intro radix rest h
    rw [readAddress_eq h, ← readNatural_eq_error_iff (by decide)]
    cases readNatural radix UInt64.size rest <;> simp [Functor.map, Except.map]
  constructor
  · intro h
    obtain ⟨radix, rest, hannounces⟩ := exists_announces (trim text)
    exact ⟨radix, rest, hannounces, (herror hannounces).mp h⟩
  · rintro ⟨radix, rest, hannounces, h⟩
    exact (herror hannounces).mpr h

/-! ### Written addresses -/

/-- The characters of a numeral are digits, but for the sign. -/
lemma Radix.IsNumeral.isDigit_or_plus {radix : Radix} {text : List Char} {n : Nat}
    (h : radix.IsNumeral text n) {c : Char} (hc : c ∈ text) :
    (∃ d, radix.IsDigit c d) ∨ c = '+' := by
  obtain ⟨digits, -, rfl | rfl, hdenotes⟩ := h
  · exact Or.inl (hdenotes.exists_isDigit hc)
  · rcases List.mem_cons.mp hc with rfl | hc
    · exact Or.inr rfl
    · exact Or.inl (hdenotes.exists_isDigit hc)

/-- There is no blank in a numeral. -/
lemma Radix.IsNumeral.not_blank {radix : Radix} {text : List Char} {n : Nat}
    (h : radix.IsNumeral text n) {c : Char} (hc : c ∈ text) : isBlank c = false := by
  have halphabets : ∀ alphabet ∈ radix.alphabets, (alphabet.all fun c => !isBlank c) = true := by
    cases radix <;> decide
  rcases h.isDigit_or_plus hc with ⟨d, alphabet, halphabet, hd⟩ | rfl
  · have hblank := List.all_eq_true.mp (halphabets alphabet halphabet) c (List.mem_of_getElem? hd)
    rwa [Bool.not_eq_true'] at hblank
  · decide

/-- There is no blank in a text that stands for a number. -/
lemma IsAddressText.not_blank {text : List Char} {n : Nat} (h : IsAddressText text n) {c : Char}
    (hc : c ∈ text) : isBlank c = false := by
  cases h with
  | decimal numeral => exact numeral.not_blank hc
  | hexadecimal marked numeral =>
    rcases List.mem_cons.mp hc with rfl | hc
    · decide
    rcases List.mem_cons.mp hc with rfl | hc
    · rcases marked with rfl | rfl <;> decide
    · exact numeral.not_blank hc

/-- The three ways in which addresses are written stand for them. -/
lemma isAddressText_of_written {v : Doubleword} {written : String}
    (h : written ∈ [decimal v.toNat, hexAddress v, reportAddress v]) :
    IsAddressText written.toList v.toNat := by
  have hprefixed : ∀ digits : List Char, Radix.hexadecimal.IsNumeral digits v.toNat →
      IsAddressText ("0x" ++ String.ofList digits).toList v.toNat := by
    intro digits hdigits
    have htext : ("0x" ++ String.ofList digits).toList = '0' :: 'x' :: digits := by simp
    rw [htext]
    exact IsAddressText.hexadecimal (Or.inl rfl) hdigits
  simp only [List.mem_cons, List.not_mem_nil, or_false] at h
  rcases h with rfl | rfl | rfl
  · rw [decimal, String.toList_ofList]
    exact IsAddressText.decimal (isNumeral_numeral (isDigit_lowerDigit _) _)
  · exact hprefixed _ (isNumeral_numeral (isDigit_lowerDigit _) _)
  · exact hprefixed _ (isNumeral_numeral isDigit_upperDigit _)

/-- An address is read back when it was written with nothing but blanks around it. -/
lemma parseAddress_append {v : Doubleword} {front written back : String}
    (hfront : ∀ c ∈ front.toList, isBlank c = true)
    (hwritten : IsAddressText written.toList v.toNat)
    (hback : ∀ c ∈ back.toList, isBlank c = true) :
    parseAddress (front ++ written ++ back) = .ok v := by
  have htrims := trims_append hfront (fun c hc => hwritten.not_blank hc) hback
  rw [parseAddress, String.toList_append, String.toList_append, List.append_assoc,
    readAddress_eq_ok_iff, htrims.trim_eq]
  exact hwritten

/-- A text is read as an address exactly when, without the blanks around it, it stands for this
address.  Every other text is refused: one of which nothing is left for being empty, and the rest for
the first fault, from left to right.  So an address that was written in decimal or in hexadecimal, as
reports and messages show it, is read back, also when it is the value of an option. -/
theorem address_text_exact :
    (∀ text v, parseAddress text = .ok v ↔
      ∃ core, Trims text.toList core ∧ IsAddressText core v.toNat) ∧
    (∀ text, parseAddress text = .error .empty ↔
      ∃ core, Trims text.toList core ∧ ∃ radix, Announces core radix []) ∧
    (∀ text e, e ≠ .empty → (parseAddress text = .error e ↔
      ∃ core, Trims text.toList core ∧ ∃ radix rest, Announces core radix rest ∧ rest ≠ [] ∧
        radix.FirstFault UInt64.size (unsigned rest) e)) ∧
    ∀ v : Doubleword, ∀ written ∈ [decimal v.toNat, hexAddress v, reportAddress v],
      ∀ front back : String, (∀ c ∈ front.toList, isBlank c = true) →
        (∀ c ∈ back.toList, isBlank c = true) →
        parseAddress (front ++ written ++ back) = .ok v ∧
          CommandLine.readAddress (front ++ written ++ back) = .ok v := by
  refine ⟨fun text v => ?_, fun text => ?_, fun text e he => ?_, ?_⟩
  · rw [exists_trims_iff]
    exact readAddress_eq_ok_iff
  · rw [exists_trims_iff, parseAddress, readAddress_eq_error_iff]
    constructor
    · rintro ⟨radix, rest, hannounces, ⟨rfl, -⟩ | ⟨-, hfault⟩⟩
      · exact ⟨radix, hannounces⟩
      · exact absurd rfl hfault.ne_empty
    · rintro ⟨radix, hannounces⟩
      exact ⟨radix, [], hannounces, Or.inl ⟨rfl, rfl⟩⟩
  · rw [exists_trims_iff, parseAddress, readAddress_eq_error_iff]
    simp only [he, and_false, false_or]
  · intro v written hwritten front back hfront hback
    have hread := parseAddress_append hfront (isAddressText_of_written hwritten) hback
    refine ⟨hread, ?_⟩
    rw [CommandLine.readAddress, hread]

/-- Zeros and a sign may stand in front of the digits, but a sign alone is no numeral.  The highest
address of a report is read back out of blanks. -/
theorem address_text_exact_signed :
    parseAddress " 0X+00f" = .ok 15 ∧
    NumeralError.invalidDigit ≠ .empty ∧ parseAddress "+\n" = .error .invalidDigit ∧
    (∀ c ∈ "\t".toList, isBlank c = true) ∧ (∀ c ∈ "\u3000".toList, isBlank c = true) ∧
    CommandLine.readAddress ("\t" ++ reportAddress 0xFFFFFFFFFFFFFFFF ++ "\u3000") =
      .ok 0xFFFFFFFFFFFFFFFF := by
  have hdenotes : Radix.hexadecimal.Denotes ['0', '0', 'f'] 15 :=
    ⟨[15, 0, 0], .cons (by decide) (.cons (by decide) (.cons (by decide) .nil)), by decide⟩
  have hsign : Radix.decimal.FirstFault UInt64.size (unsigned ['+']) .invalidDigit :=
    Radix.FirstFault.invalidDigit (Radix.denotes_nil_iff.mpr rfl) (by decide)
      Radix.decimal.not_isDigit_plus
  have htab : ∀ c ∈ "\t".toList, isBlank c = true := List.all_eq_true.mp (by decide)
  have hwide : ∀ c ∈ "\u3000".toList, isBlank c = true := List.all_eq_true.mp (by decide)
  refine ⟨?_, by decide, ?_, htab, hwide, ?_⟩
  · refine (address_text_exact.1 _ _).mpr ⟨['0', 'X', '+', '0', '0', 'f'], ?_, ?_⟩
    · exact ⟨[' '], [], rfl, by simp [isBlank]⟩
    · exact IsAddressText.hexadecimal (Or.inr rfl) ⟨_, by decide, Or.inr rfl, hdenotes⟩
  · refine (address_text_exact.2.2.1 _ _ (by decide)).mpr ⟨['+'], ?_, .decimal, ['+'], ?_, ?_⟩
    · exact ⟨[], ['\n'], rfl, by simp [isBlank]⟩
    · exact Announces.decimal nofun
    · exact ⟨by decide, hsign⟩
  · exact (address_text_exact.2.2.2 _ _ (by simp) _ _ htab hwide).2

end Relocation.Text
