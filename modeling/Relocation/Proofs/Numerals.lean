import Relocation.Text.Numeral
import Mathlib.Data.List.Forall2
import Mathlib.Data.Nat.Digits.Defs
import Mathlib.Tactic

/-!
# Reading numerals

A numeral is read from left to right into a value that has to stay below a bound, and the first
character at which that fails decides the answer.  This file states the answer without the scan.
`Radix.Denotes` is positional notation, `Radix.FirstFault` says where a string of characters goes
wrong, and every string either denotes a number below the bound or has a first fault
(`Radix.denotes_or_firstFault`).  The reader agrees with both (`readDigits_eq_ok_iff`,
`readDigits_eq_error_iff`), also when there is a sign to pass over (`readNatural_eq_ok_iff`).

Numbers that were written denote themselves (`denotes_numeral`).
-/

namespace Relocation.Text

namespace Radix

/-! ### Digits -/

/-- The digits of a radix in the order of their values, once for each way of writing them. -/
def alphabets : Radix → List (List Char)
  | decimal => [['0', '1', '2', '3', '4', '5', '6', '7', '8', '9']]
  | hexadecimal =>
    [['0', '1', '2', '3', '4', '5', '6', '7', '8', '9', 'a', 'b', 'c', 'd', 'e', 'f'],
      ['0', '1', '2', '3', '4', '5', '6', '7', '8', '9', 'A', 'B', 'C', 'D', 'E', 'F']]

/-- The character is a digit of this value. -/
def IsDigit (radix : Radix) (c : Char) (value : Nat) : Prop :=
  ∃ alphabet ∈ radix.alphabets, alphabet[value]? = some c

instance (radix : Radix) (c : Char) (value : Nat) : Decidable (radix.IsDigit c value) :=
  inferInstanceAs (Decidable (∃ alphabet ∈ radix.alphabets, alphabet[value]? = some c))

/-- A digit is less than the number of digits. -/
lemma IsDigit.lt_base {radix : Radix} {c : Char} {value : Nat} (h : radix.IsDigit c value) :
    value < radix.base := by
  have hlength : ∀ alphabet ∈ radix.alphabets, alphabet.length = radix.base := by
    cases radix <;> decide
  obtain ⟨alphabet, halphabet, hvalue⟩ := h
  rw [← hlength alphabet halphabet]
  exact (List.getElem?_eq_some_iff.mp hvalue).1

/-- A character between two others, counted from the first. -/
lemma exists_eq_ofNat_add {first last c : Char} (h : first ≤ c ∧ c ≤ last) :
    ∃ k ≤ last.toNat - first.toNat,
      c.toNat - first.toNat = k ∧ c = Char.ofNat (first.toNat + k) := by
  have hfirst : first.toNat ≤ c.toNat := UInt32.le_iff_toNat_le.mp (Char.le_def.mp h.1)
  have hlast : c.toNat ≤ last.toNat := UInt32.le_iff_toNat_le.mp (Char.le_def.mp h.2)
  refine ⟨_, Nat.sub_le_sub_right hlast _, rfl, ?_⟩
  rw [Nat.add_sub_cancel' hfirst, Char.ofNat_toNat]

/-- A character that has a value is the digit of this value. -/
lemma isDigit_of_digit? {radix : Radix} {c : Char} {value : Nat}
    (h : radix.digit? c = some value) : radix.IsDigit c value := by
  have hfigures : ∀ k ≤ 9, radix.IsDigit (Char.ofNat ('0'.toNat + k)) k := by
    cases radix <;> decide
  have hlower : ∀ k ≤ 5, hexadecimal.IsDigit (Char.ofNat ('a'.toNat + k)) (k + 10) := by decide
  have hupper : ∀ k ≤ 5, hexadecimal.IsDigit (Char.ofNat ('A'.toNat + k)) (k + 10) := by decide
  unfold digit? at h
  split at h
  · rename_i hrange
    obtain ⟨k, hle, hk, hc⟩ := exists_eq_ofNat_add hrange
    cases h
    rw [hk, hc]
    exact hfigures _ hle
  split at h
  · rename_i hrange
    obtain ⟨rfl, hrange⟩ := hrange
    obtain ⟨k, hle, hk, hc⟩ := exists_eq_ofNat_add hrange
    cases h
    rw [hk, hc]
    exact hlower _ hle
  split at h
  · rename_i hrange
    obtain ⟨rfl, hrange⟩ := hrange
    obtain ⟨k, hle, hk, hc⟩ := exists_eq_ofNat_add hrange
    cases h
    rw [hk, hc]
    exact hupper _ hle
  · cases h

/-- The value of a character is its place among the digits. -/
theorem digit?_eq_some_iff {radix : Radix} {c : Char} {value : Nat} :
    radix.digit? c = some value ↔ radix.IsDigit c value := by
  refine ⟨isDigit_of_digit?, fun h => ?_⟩
  have hall : ∀ alphabet ∈ radix.alphabets, ∀ place < radix.base,
      alphabet[place]?.bind radix.digit? = some place := by
    cases radix <;> decide
  have hlt := h.lt_base
  obtain ⟨alphabet, halphabet, hplace⟩ := h
  have hvalue := hall alphabet halphabet value hlt
  rwa [hplace, Option.bind_some] at hvalue

/-- A character has no value when it is no digit. -/
lemma digit?_eq_none_iff {radix : Radix} {c : Char} :
    radix.digit? c = none ↔ ∀ value, ¬ radix.IsDigit c value := by
  rw [Option.eq_none_iff_forall_ne_some]
  simp only [ne_eq, digit?_eq_some_iff]

/-! ### Positional notation -/

/-- The characters are digits and denote the number, the last of them counting the units. -/
def Denotes (radix : Radix) (digits : List Char) (n : Nat) : Prop :=
  ∃ values, List.Forall₂ radix.IsDigit digits.reverse values ∧ n = Nat.ofDigits radix.base values

section Notation

variable {radix : Radix} {digits front back : List Char} {c : Char} {m n d : Nat}

/-- No digits denote zero. -/
lemma denotes_nil_iff : radix.Denotes [] n ↔ n = 0 := by
  simp [Denotes]

/-- Another digit at the end multiplies by the radix and adds its value. -/
lemma denotes_concat_iff :
    radix.Denotes (digits ++ [c]) n ↔
      ∃ m d, radix.Denotes digits m ∧ radix.IsDigit c d ∧ n = m * radix.base + d := by
  unfold Denotes
  rw [List.reverse_append, List.reverse_singleton, List.singleton_append]
  simp only [List.forall₂_cons_left_iff]
  constructor
  · rintro ⟨-, ⟨d, values, hd, hvalues, rfl⟩, rfl⟩
    refine ⟨_, d, ⟨values, hvalues, rfl⟩, hd, ?_⟩
    rw [Nat.ofDigits_cons, Nat.add_comm, Nat.mul_comm]
  · rintro ⟨-, d, ⟨values, hvalues, rfl⟩, hd, rfl⟩
    refine ⟨d :: values, ⟨d, values, hd, hvalues, rfl⟩, ?_⟩
    rw [Nat.ofDigits_cons, Nat.add_comm, Nat.mul_comm]

/-- All characters of a numeral are digits. -/
lemma Denotes.exists_isDigit (h : radix.Denotes digits n) (hc : c ∈ digits) :
    ∃ d, radix.IsDigit c d := by
  obtain ⟨values, hvalues, -⟩ := h
  obtain ⟨i, hi, rfl⟩ := List.mem_iff_getElem.mp (List.mem_reverse.mpr hc)
  exact ⟨_, (List.forall₂_iff_get.mp hvalues).2 i hi (hvalues.length_eq ▸ hi)⟩

end Notation

/-! ### The first fault -/

/-- Read from left to right, the characters go wrong like this.  What stands in front of the fault
denotes a number below the bound, so that nothing went wrong there. -/
inductive FirstFault (radix : Radix) (bound : Nat) : List Char → NumeralError → Prop
  /-- A character is no digit. -/
  | invalidDigit {front back : List Char} {c : Char} {m : Nat} (denotes : radix.Denotes front m)
      (below : m < bound) (nodigit : ∀ d, ¬ radix.IsDigit c d) :
      FirstFault radix bound (front ++ c :: back) .invalidDigit
  /-- A digit takes the value to the bound or past it. -/
  | tooLarge {front back : List Char} {c : Char} {m d : Nat} (denotes : radix.Denotes front m)
      (below : m < bound) (digit : radix.IsDigit c d) (beyond : bound ≤ m * radix.base + d) :
      FirstFault radix bound (front ++ c :: back) .tooLarge

section Faults

variable {radix : Radix} {bound : Nat}

/-- A fault needs a character. -/
lemma FirstFault.ne_empty {text : List Char} {e : NumeralError} (h : radix.FirstFault bound text e) :
    e ≠ .empty := by
  cases h <;> decide

/-- What follows does not change the first fault. -/
lemma FirstFault.append {text : List Char} {e : NumeralError} (h : radix.FirstFault bound text e)
    (more : List Char) : radix.FirstFault bound (text ++ more) e := by
  cases h with
  | invalidDigit denotes below nodigit =>
    rw [List.append_assoc, List.cons_append]
    exact FirstFault.invalidDigit denotes below nodigit
  | tooLarge denotes below digit beyond =>
    rw [List.append_assoc, List.cons_append]
    exact FirstFault.tooLarge denotes below digit beyond

/-- Characters denote a number below the bound, or there is a first fault in them.  The induction
takes characters away at the end: the last one matters only if all is well in front of it. -/
theorem denotes_or_firstFault (hbound : 0 < bound) (text : List Char) :
    (∃ n, radix.Denotes text n ∧ n < bound) ∨ ∃ e, radix.FirstFault bound text e := by
  induction text using List.reverseRecOn with
  | nil => exact Or.inl ⟨0, denotes_nil_iff.mpr rfl, hbound⟩
  | append_singleton text c ih =>
    rcases ih with ⟨m, hm, hbelow⟩ | ⟨e, hfault⟩
    · cases hdigit : radix.digit? c with
      | none =>
        exact Or.inr ⟨_, FirstFault.invalidDigit hm hbelow (digit?_eq_none_iff.mp hdigit)⟩
      | some d =>
        rw [digit?_eq_some_iff] at hdigit
        rcases Nat.lt_or_ge (m * radix.base + d) bound with hlt | hge
        · exact Or.inl ⟨_, denotes_concat_iff.mpr ⟨m, d, hm, hdigit, rfl⟩, hlt⟩
        · exact Or.inr ⟨_, FirstFault.tooLarge hm hbelow hdigit hge⟩
    · exact Or.inr ⟨e, hfault.append [c]⟩

end Faults

end Radix

/-! ### Reading digits -/

section Reading

variable {radix : Radix} {bound : Nat} {text : List Char}

/-- Digits that denote a number below the bound are taken in, and reading goes on with the number.
None of the numbers on the way is larger. -/
lemma readDigits_append {front : List Char} {m : Nat} (hfront : radix.Denotes front m)
    (hbelow : m < bound) (rest : List Char) :
    readDigits radix bound 0 (front ++ rest) = readDigits radix bound m rest := by
  induction front using List.reverseRecOn generalizing m rest with
  | nil =>
    obtain rfl := Radix.denotes_nil_iff.mp hfront
    rfl
  | append_singleton front c ih =>
    obtain ⟨m, d, hm, hd, rfl⟩ := Radix.denotes_concat_iff.mp hfront
    have hle : m ≤ m * radix.base := Nat.le_mul_of_pos_right m (by have := radix.one_lt_base; omega)
    rw [List.append_assoc, List.singleton_append, ih hm (by omega), readDigits,
      Radix.digit?_eq_some_iff.mpr hd]
    exact if_pos hbelow

/-- A number is read when the text denotes it and it is below the bound. -/
lemma readDigits_of_denotes {n : Nat} (h : radix.Denotes text n) (hbelow : n < bound) :
    readDigits radix bound 0 text = .ok n := by
  rw [← List.append_nil text, readDigits_append h hbelow]
  rfl

/-- Digits denote one number only. -/
lemma Radix.Denotes.unique {m n : Nat} (hm : radix.Denotes text m) (hn : radix.Denotes text n) :
    m = n := by
  have hmlt : m < m + n + 1 := by omega
  have hnlt : n < m + n + 1 := by omega
  exact Except.ok.inj ((readDigits_of_denotes hm hmlt).symm.trans (readDigits_of_denotes hn hnlt))

/-- The first fault of a text is reported. -/
lemma readDigits_of_firstFault {e : NumeralError} (h : radix.FirstFault bound text e) :
    readDigits radix bound 0 text = .error e := by
  cases h with
  | invalidDigit denotes below nodigit =>
    rw [readDigits_append denotes below, readDigits, Radix.digit?_eq_none_iff.mpr nodigit]
  | tooLarge denotes below digit beyond =>
    rw [readDigits_append denotes below, readDigits, Radix.digit?_eq_some_iff.mpr digit]
    exact if_neg (Nat.not_lt.mpr beyond)

/-- A number is read exactly when the text denotes it and it is below the bound. -/
theorem readDigits_eq_ok_iff (hbound : 0 < bound) {n : Nat} :
    readDigits radix bound 0 text = .ok n ↔ radix.Denotes text n ∧ n < bound := by
  refine ⟨fun h => ?_, fun h => readDigits_of_denotes h.1 h.2⟩
  rcases radix.denotes_or_firstFault hbound text with ⟨m, hm, hbelow⟩ | ⟨e, hfault⟩
  · rw [readDigits_of_denotes hm hbelow] at h
    cases h
    exact ⟨hm, hbelow⟩
  · rw [readDigits_of_firstFault hfault] at h
    cases h

/-- An error is reported exactly when it is the first fault of the text. -/
theorem readDigits_eq_error_iff (hbound : 0 < bound) {e : NumeralError} :
    readDigits radix bound 0 text = .error e ↔ radix.FirstFault bound text e := by
  refine ⟨fun h => ?_, readDigits_of_firstFault⟩
  rcases radix.denotes_or_firstFault hbound text with ⟨m, hm, hbelow⟩ | ⟨e', hfault⟩
  · rw [readDigits_of_denotes hm hbelow] at h
    cases h
  · rw [readDigits_of_firstFault hfault] at h
    cases h
    exact hfault

end Reading

/-! ### Signs -/

/-- The text is a numeral of the number: one or more digits, with at most one plus sign in front. -/
def Radix.IsNumeral (radix : Radix) (text : List Char) (n : Nat) : Prop :=
  ∃ digits, digits ≠ [] ∧ (text = digits ∨ text = '+' :: digits) ∧ radix.Denotes digits n

/-- The text without the plus sign in front of it, which stays if there is nothing else. -/
def unsigned : List Char → List Char
  | '+' :: c :: rest => c :: rest
  | text => text

/-- A plus sign is no digit. -/
lemma Radix.not_isDigit_plus (radix : Radix) (d : Nat) : ¬ radix.IsDigit '+' d := by
  have hnone : radix.digit? '+' = none := by cases radix <;> decide
  exact Radix.digit?_eq_none_iff.mp hnone d

section Signs

variable {radix : Radix} {bound : Nat} {text : List Char}

/-- At most one sign is taken away. -/
lemma eq_unsigned_or (text : List Char) : text = unsigned text ∨ text = '+' :: unsigned text := by
  unfold unsigned
  split
  · exact Or.inr rfl
  · exact Or.inl rfl

/-- Something is left of a text. -/
lemma unsigned_ne_nil (h : text ≠ []) : unsigned text ≠ [] := by
  unfold unsigned
  split
  · exact List.cons_ne_nil _ _
  · exact h

/-- A sign in front of something is taken away. -/
lemma unsigned_plus {digits : List Char} (h : digits ≠ []) : unsigned ('+' :: digits) = digits := by
  obtain ⟨c, rest, rfl⟩ := List.exists_cons_of_ne_nil h
  rfl

/-- From digits nothing is taken away. -/
lemma unsigned_of_denotes {n : Nat} (h : radix.Denotes text n) : unsigned text = text := by
  unfold unsigned
  split
  · obtain ⟨d, hd⟩ := h.exists_isDigit List.mem_cons_self
    exact absurd hd (radix.not_isDigit_plus d)
  · rfl

/-- A text that is not empty is read as digits, without its sign. -/
lemma readNatural_eq (radix : Radix) (bound : Nat) (h : text ≠ []) :
    readNatural radix bound text = readDigits radix bound 0 (unsigned text) := by
  have hplus : radix.digit? '+' = none := Radix.digit?_eq_none_iff.mpr radix.not_isDigit_plus
  unfold readNatural
  split
  · exact absurd rfl h
  · simp [unsigned, readDigits, hplus]
  · rename_i digits hne
    rw [unsigned_plus hne]
  · rename_i hnil hlone hsigned
    unfold unsigned
    split
    · exact absurd rfl (hsigned _)
    · rfl

/-- A number is read exactly from its numerals, if it is below the bound. -/
theorem readNatural_eq_ok_iff (hbound : 0 < bound) {n : Nat} :
    readNatural radix bound text = .ok n ↔ radix.IsNumeral text n ∧ n < bound := by
  constructor
  · intro h
    have hne : text ≠ [] := by
      rintro rfl
      cases h
    rw [readNatural_eq radix bound hne, readDigits_eq_ok_iff hbound] at h
    exact ⟨⟨unsigned text, unsigned_ne_nil hne, eq_unsigned_or text, h.1⟩, h.2⟩
  · rintro ⟨⟨digits, hne, htext, hdenotes⟩, hbelow⟩
    have hunsigned : text ≠ [] ∧ unsigned text = digits := by
      rcases htext with rfl | rfl
      · exact ⟨hne, unsigned_of_denotes hdenotes⟩
      · exact ⟨List.cons_ne_nil _ _, unsigned_plus hne⟩
    rw [readNatural_eq radix bound hunsigned.1, hunsigned.2]
    exact readDigits_of_denotes hdenotes hbelow

/-- A text without characters is an error of its own, and otherwise the first fault behind the sign
is the error. -/
theorem readNatural_eq_error_iff (hbound : 0 < bound) {e : NumeralError} :
    readNatural radix bound text = .error e ↔
      text = [] ∧ e = .empty ∨ text ≠ [] ∧ radix.FirstFault bound (unsigned text) e := by
  by_cases hnil : text = []
  · subst hnil
    simp [readNatural, eq_comm]
  · rw [readNatural_eq radix bound hnil, readDigits_eq_error_iff hbound]
    simp [hnil]

end Signs

/-! ### Writing -/

/-- A number that is written denotes itself. -/
theorem denotes_numeral {radix : Radix} {digit : Nat → Char}
    (hdigit : ∀ d < radix.base, radix.IsDigit (digit d) d) (n : Nat) :
    radix.Denotes (numeral radix digit n) n := by
  fun_induction numeral radix digit n with
  | case1 n hlt =>
    have hzero : radix.Denotes [] 0 := Radix.denotes_nil_iff.mpr rfl
    rw [← List.nil_append [digit n]]
    exact Radix.denotes_concat_iff.mpr ⟨0, n, hzero, hdigit n hlt, by omega⟩
  | case2 n hge ih =>
    have hlast : n % radix.base < radix.base := Nat.mod_lt _ (by have := radix.one_lt_base; omega)
    exact Radix.denotes_concat_iff.mpr ⟨_, _, ih, hdigit _ hlast, (Nat.div_add_mod' _ _).symm⟩

/-- A number is written with at least one digit. -/
lemma numeral_ne_nil (radix : Radix) (digit : Nat → Char) (n : Nat) :
    numeral radix digit n ≠ [] := by
  unfold numeral
  split
  · exact List.cons_ne_nil _ _
  · exact List.append_ne_nil_of_right_ne_nil _ (List.cons_ne_nil _ _)

/-- A number that is written is a numeral of itself. -/
lemma isNumeral_numeral {radix : Radix} {digit : Nat → Char}
    (hdigit : ∀ d < radix.base, radix.IsDigit (digit d) d) (n : Nat) :
    radix.IsNumeral (numeral radix digit n) n :=
  ⟨_, numeral_ne_nil radix digit n, Or.inl rfl, denotes_numeral hdigit n⟩

/-- In lower case every value below the radix has its digit. -/
lemma isDigit_lowerDigit (radix : Radix) : ∀ d < radix.base, radix.IsDigit (lowerDigit d) d := by
  cases radix <;> decide

/-- In upper case every value below sixteen has its digit. -/
lemma isDigit_upperDigit : ∀ d < Radix.hexadecimal.base,
    Radix.hexadecimal.IsDigit (upperDigit d) d := by
  decide

end Relocation.Text
