import Relocation.AddressConstant
import Relocation.Proofs.AddressText

/-!
# Which texts are address constants

An address constant is written `ADDR`, `ADDR:FORMAT`, `ADDR:LEN` or `ADDR:LEN+DISP`.  The reader
cuts the text at its first colon and what follows at its first plus sign, and the character behind
the colon decides how the field is read.  This file states the same as a grammar, without the order
of the steps: `AddressConstant.IsExtentText` for widths and displacements, and
`AddressConstant.IsConstantText` for whole constants.  Outside the grammar there are the texts that
ask for a format which does not exist (`AddressConstant.NamesUnknownFormat`), and the rest.

The main result is `AddressConstant.constant_text_exact`: the three kinds of texts are those with a
constant, with an unknown format and with a malformed constant for an answer.
-/

namespace Relocation

namespace Text

/-! ### Digits at the start of a text -/

/-- The text starts with a decimal digit. -/
def StartsWithDigit (text : List Char) : Prop :=
  ∃ c rest, text = c :: rest ∧ '0' ≤ c ∧ c ≤ '9'

/-- The test for a digit at the start of a text. -/
lemma any_isDigit_head?_iff {text : List Char} :
    text.head?.any Char.isDigit = true ↔ StartsWithDigit text := by
  cases text with
  | nil => simp [StartsWithDigit]
  | cons c rest =>
    simp only [StartsWithDigit, List.head?_cons, Option.any_some, Char.isDigit, Bool.and_eq_true,
      decide_eq_true_eq, List.cons.injEq]
    constructor
    · rintro ⟨hlow, hhigh⟩
      exact ⟨c, rest, ⟨rfl, rfl⟩, hlow, hhigh⟩
    · rintro ⟨_, _, ⟨rfl, rfl⟩, hlow, hhigh⟩
      exact ⟨hlow, hhigh⟩

instance (text : List Char) : Decidable (StartsWithDigit text) :=
  decidable_of_iff _ any_isDigit_head?_iff

/-- The decimal digits are the characters from zero to nine. -/
lemma Radix.IsDigit.decimal_range {c : Char} {d : Nat} (h : Radix.decimal.IsDigit c d) :
    '0' ≤ c ∧ c ≤ '9' := by
  rw [← Radix.digit?_eq_some_iff, Radix.digit?] at h
  by_contra hrange
  simp [hrange] at h

/-- Decimal digits start with a digit, if there are any. -/
lemma startsWithDigit_append {digits : List Char} {n : Nat} (hne : digits ≠ [])
    (h : Radix.decimal.Denotes digits n) (rest : List Char) : StartsWithDigit (digits ++ rest) := by
  obtain ⟨c, others, rfl⟩ := List.exists_cons_of_ne_nil hne
  obtain ⟨d, hd⟩ := h.exists_isDigit List.mem_cons_self
  exact ⟨c, others ++ rest, rfl, hd.decimal_range⟩

/-! ### Numerals without a sign -/

/-- A plus sign is no part of digits. -/
lemma plus_not_mem_of_denotes {radix : Radix} {digits : List Char} {n : Nat}
    (h : radix.Denotes digits n) : '+' ∉ digits := by
  intro hmem
  obtain ⟨d, hd⟩ := h.exists_isDigit hmem
  exact radix.not_isDigit_plus d hd

/-- Without a sign a number below the bound is read exactly from its digits. -/
lemma readNatural_eq_ok_iff_denotes {radix : Radix} {bound : Nat} {text : List Char} {n : Nat}
    (hbound : 0 < bound) (hplus : '+' ∉ text) :
    readNatural radix bound text = .ok n ↔
      text ≠ [] ∧ radix.Denotes text n ∧ n < bound := by
  rw [readNatural_eq_ok_iff hbound]
  constructor
  · rintro ⟨⟨digits, hne, rfl | rfl, hdenotes⟩, hlt⟩
    · exact ⟨hne, hdenotes, hlt⟩
    · exact absurd List.mem_cons_self hplus
  · rintro ⟨hne, hdenotes, hlt⟩
    exact ⟨⟨text, hne, Or.inl rfl, hdenotes⟩, hlt⟩

/-! ### Addresses as parts of a text -/

/-- There is no colon in a numeral. -/
lemma Radix.IsNumeral.colon_not_mem {radix : Radix} {text : List Char} {n : Nat}
    (h : radix.IsNumeral text n) : ':' ∉ text := by
  intro hmem
  have hnone : radix.digit? ':' = none := by cases radix <;> decide
  rcases h.isDigit_or_plus hmem with ⟨d, hd⟩ | hplus
  · exact Radix.digit?_eq_none_iff.mp hnone d hd
  · exact absurd hplus (by decide)

/-- There is no colon in a text that stands for a number. -/
lemma IsAddressText.colon_not_mem {text : List Char} {n : Nat} (h : IsAddressText text n) :
    ':' ∉ text := by
  cases h with
  | decimal numeral => exact numeral.colon_not_mem
  | hexadecimal marked numeral =>
    rcases marked with rfl | rfl <;> simpa using numeral.colon_not_mem

/-- A text that stands for an address is read as this address. -/
lemma IsAddressText.readAddress_eq {text : List Char} {v : Doubleword}
    (h : IsAddressText text v.toNat) : readAddress text = .ok v := by
  have htrims : Trims ([] ++ (text ++ [])) text :=
    trims_append (by simp) (fun c hc => h.not_blank hc) (by simp)
  rw [List.nil_append, List.append_nil] at htrims
  rw [readAddress_eq_ok_iff, htrims.trim_eq]
  exact h

end Text

/-! ### Format names -/

/-- The two texts are the same but for the case of ASCII letters. -/
def EqualUpToCase (text text' : List Char) : Prop :=
  text.map Char.toLower = text'.map Char.toLower

instance (text text' : List Char) : Decidable (EqualUpToCase text text') :=
  inferInstanceAs (Decidable (_ = _))

namespace BlockFormat

/-- Every format is in the catalogue. -/
lemma mem_catalogue (format : BlockFormat) : format ∈ catalogue := by
  cases format <;> decide

/-- The names of the catalogue are in lower case. -/
lemma map_toLower_name (format : BlockFormat) :
    format.name.toList.map Char.toLower = format.name.toList := by
  cases format <;> decide

/-- No two formats have the same name. -/
lemma name_toList_injective {format format' : BlockFormat}
    (h : format.name.toList = format'.name.toList) : format = format' := by
  revert h
  cases format <;> cases format' <;> decide

/-- A format is found by its name in either case. -/
theorem ofName?_eq_some_iff {text : List Char} {format : BlockFormat} :
    ofName? text = some format ↔ EqualUpToCase text format.name.toList := by
  rw [EqualUpToCase, map_toLower_name]
  constructor
  · intro h
    simpa using List.find?_some h
  · intro h
    cases hfind : ofName? text with
    | none =>
      have hnone := List.find?_eq_none.mp hfind format (mem_catalogue format)
      simp [h] at hnone
    | some found =>
      have hfound : text.map Char.toLower = found.name.toList := by
        simpa using List.find?_some hfind
      rw [name_toList_injective (hfound.symm.trans h)]

end BlockFormat

namespace AddressConstant

open Text

/-! ### The grammar -/

/-- The text is a width, or a width and a displacement with a plus sign between them. -/
inductive IsExtentText : List Char → FieldRequest → Prop
  | width {digits : List Char} {length : UInt8} (present : digits ≠ [])
      (denotes : Radix.decimal.Denotes digits length.toNat) :
      IsExtentText digits (.explicit length 0)
  | displaced {digits rest : List Char} {length : UInt8} {displacement : Doubleword}
      (present : digits ≠ []) (denotes : Radix.decimal.Denotes digits length.toNat)
      (read : readAddress rest = .ok displacement) :
      IsExtentText (digits ++ '+' :: rest) (.explicit length displacement)

/-- The text is an address, alone or with a colon and a field behind it.  The first character of the
field decides what it is. -/
inductive IsConstantText : List Char → AddressConstant → Prop
  | bare {place : List Char} {address : Doubleword} (uncut : ':' ∉ place)
      (read : readAddress place = .ok address) :
      IsConstantText place ⟨.ofAddress address, .explicit 4 0⟩
  | extent {place field : List Char} {address : Doubleword} {request : FieldRequest}
      (uncut : ':' ∉ place) (read : readAddress place = .ok address)
      (digit : StartsWithDigit field) (extent : IsExtentText field request) :
      IsConstantText (place ++ ':' :: field) ⟨.ofAddress address, request⟩
  | format {place field : List Char} {address : Doubleword} {format : BlockFormat}
      (uncut : ':' ∉ place) (read : readAddress place = .ok address)
      (nodigit : ¬ StartsWithDigit field) (named : EqualUpToCase field format.name.toList) :
      IsConstantText (place ++ ':' :: field) ⟨.ofAddress address, .ofFormat format⟩

/-- The text is an address with a field behind it that could name a format, but names none. -/
def NamesUnknownFormat (text name : List Char) : Prop :=
  ∃ place address, text = place ++ ':' :: name ∧ ':' ∉ place ∧ readAddress place = .ok address ∧
    ¬ StartsWithDigit name ∧ ∀ format : BlockFormat, ¬ EqualUpToCase name format.name.toList

/-! ### Reading the field -/

/-- An extent is read exactly from the texts for it. -/
theorem readExtent_eq_some_iff {field : List Char} {request : FieldRequest} :
    readExtent field = some request ↔ IsExtentText field request := by
  unfold readExtent
  constructor
  · intro h
    by_cases hplus : '+' ∈ field
    · obtain ⟨digits, rest, rfl, hdigits⟩ := List.eq_append_cons_of_mem hplus
      rw [splitAtFirst_append hdigits] at h
      cases hrest : readAddress rest with
      | error e => simp [hrest] at h
      | ok displacement =>
        cases hlength : readNatural .decimal 256 digits with
        | error e => simp [hrest, hlength] at h
        | ok n =>
          obtain ⟨hne, hdenotes, hlt⟩ :=
            (readNatural_eq_ok_iff_denotes (by decide) hdigits).mp hlength
          simp only [hrest, hlength, Option.some_inj] at h
          subst h
          refine IsExtentText.displaced hne ?_ hrest
          rwa [UInt8.toNat_ofNat_of_lt' hlt]
    · rw [splitAtFirst_of_not_mem hplus] at h
      cases hlength : readNatural .decimal 256 field with
      | error e => simp [hlength] at h
      | ok n =>
        obtain ⟨hne, hdenotes, hlt⟩ :=
          (readNatural_eq_ok_iff_denotes (by decide) hplus).mp hlength
        simp only [hlength, Option.some_inj] at h
        subst h
        refine IsExtentText.width hne ?_
        rwa [UInt8.toNat_ofNat_of_lt' hlt]
  · intro h
    cases h with
    | @width digits length present denotes =>
      have hplus := plus_not_mem_of_denotes denotes
      have hlength := (readNatural_eq_ok_iff_denotes (by decide) hplus).mpr
        ⟨present, denotes, length.toNat_lt⟩
      simp [splitAtFirst_of_not_mem hplus, hlength]
    | @displaced digits rest length displacement present denotes read =>
      have hplus := plus_not_mem_of_denotes denotes
      have hlength := (readNatural_eq_ok_iff_denotes (by decide) hplus).mpr
        ⟨present, denotes, length.toNat_lt⟩
      simp [splitAtFirst_append hplus, hlength, read]

section Fields

variable {text : String} {field : List Char}

/-- A field that starts with a digit is read as an extent. -/
lemma readField_of_digit (h : StartsWithDigit field) :
    readField text field = (readExtent field).elim (.error (.malformedConstant text)) .ok := by
  rw [readField, if_pos (any_isDigit_head?_iff.mpr h)]
  cases readExtent field <;> rfl

/-- Any other field is read as the name of a format. -/
lemma readField_of_no_digit (h : ¬ StartsWithDigit field) :
    readField text field = (BlockFormat.ofName? field).elim
      (.error (.unknownFormat (String.ofList field))) fun format => .ok (.ofFormat format) := by
  rw [readField, if_neg fun hdigit => h (any_isDigit_head?_iff.mp hdigit)]
  cases BlockFormat.ofName? field <;> rfl

end Fields

/-! ### Reading the whole text -/

section Parsing

variable {text : String} {place field : List Char} {address : Doubleword}

/-- A text without a colon is read as an address. -/
lemma parse_of_uncut (h : ':' ∉ text.toList) :
    parse text = (readAddress text.toList).toOption.elim (.error (.malformedConstant text))
      fun address => .ok ⟨.ofAddress address, .explicit 4 0⟩ := by
  unfold parse
  rw [splitAtFirst_of_not_mem h]
  dsimp only
  cases readAddress text.toList <;> rfl

/-- A text with a colon is read as an address and a field. -/
lemma parse_of_cut (htext : text.toList = place ++ ':' :: field) (h : ':' ∉ place) :
    parse text = (readAddress place).toOption.elim (.error (.malformedConstant text))
      fun address => (readField text field).map (⟨.ofAddress address, ·⟩) := by
  unfold parse
  rw [htext, splitAtFirst_append h]
  dsimp only
  cases readAddress place <;> rfl

/-- The texts of the grammar are read. -/
lemma IsConstantText.parse_eq {constant : AddressConstant}
    (h : IsConstantText text.toList constant) : parse text = .ok constant := by
  generalize htext : text.toList = chars at h
  cases h with
  | bare uncut read =>
    subst htext
    rw [parse_of_uncut uncut, read]
    rfl
  | extent uncut read digit extent =>
    rw [parse_of_cut htext uncut, read, readField_of_digit digit, readExtent_eq_some_iff.mpr extent]
    rfl
  | format uncut read nodigit named =>
    rw [parse_of_cut htext uncut, read, readField_of_no_digit nodigit,
      BlockFormat.ofName?_eq_some_iff.mpr named]
    rfl

/-- A format that does not exist is reported as it was written. -/
lemma NamesUnknownFormat.parse_eq {name : List Char} (h : NamesUnknownFormat text.toList name) :
    parse text = .error (.unknownFormat (String.ofList name)) := by
  obtain ⟨place, address, htext, uncut, read, nodigit, hunknown⟩ := h
  have hnone : BlockFormat.ofName? name = none := by
    rw [Option.eq_none_iff_forall_ne_some]
    intro format hformat
    exact hunknown format (BlockFormat.ofName?_eq_some_iff.mp hformat)
  rw [parse_of_cut htext uncut, read, readField_of_no_digit nodigit, hnone]
  rfl

/-- A text belongs to the grammar, asks for an unknown format or is malformed.  The cases are those
of the reader: the two cuts, the first character behind the colon, and the parts. -/
lemma parse_cases (text : String) :
    (∃ constant, IsConstantText text.toList constant) ∨
      (∃ name, NamesUnknownFormat text.toList name) ∨
      parse text = .error (.malformedConstant text) := by
  by_cases hcolon : ':' ∈ text.toList
  · obtain ⟨place, field, htext, uncut⟩ := List.eq_append_cons_of_mem hcolon
    cases read : readAddress place with
    | error e =>
      right; right
      rw [parse_of_cut htext uncut, read]
      rfl
    | ok address =>
      rw [htext]
      by_cases digit : StartsWithDigit field
      · cases hextent : readExtent field with
        | none =>
          right; right
          rw [parse_of_cut htext uncut, read, readField_of_digit digit, hextent]
          rfl
        | some request =>
          exact Or.inl ⟨_, .extent uncut read digit (readExtent_eq_some_iff.mp hextent)⟩
      · by_cases hnamed : ∃ format : BlockFormat, EqualUpToCase field format.name.toList
        · obtain ⟨format, named⟩ := hnamed
          exact Or.inl ⟨_, .format uncut read digit named⟩
        · right; left
          exact ⟨field, place, address, rfl, uncut, read, digit, not_exists.mp hnamed⟩
  · cases read : readAddress text.toList with
    | error e =>
      right; right
      rw [parse_of_uncut hcolon, read]
      rfl
    | ok address => exact Or.inl ⟨_, .bare hcolon read⟩

/-- What there is to say about a text. -/
inductive Judges (text : String) : Except BuildError AddressConstant → Prop
  | constant {constant : AddressConstant} (text_of : IsConstantText text.toList constant) :
      Judges text (.ok constant)
  | unknownFormat {name : List Char} (names : NamesUnknownFormat text.toList name) :
      Judges text (.error (.unknownFormat (String.ofList name)))
  | malformed (noconstant : ∀ constant, ¬ IsConstantText text.toList constant)
      (noname : ∀ name, ¬ NamesUnknownFormat text.toList name) :
      Judges text (.error (.malformedConstant text))

/-- The reader says of every text what there is to say. -/
theorem judges_parse (text : String) : Judges text (parse text) := by
  rcases parse_cases text with ⟨constant, hconstant⟩ | ⟨name, hname⟩ | hmalformed
  · rw [hconstant.parse_eq]
    exact Judges.constant hconstant
  · rw [hname.parse_eq]
    exact Judges.unknownFormat hname
  · rw [hmalformed]
    refine Judges.malformed ?_ ?_
    · intro constant hconstant
      simp [hconstant.parse_eq] at hmalformed
    · intro name hname
      simp [hname.parse_eq] at hmalformed

end Parsing

/-- An address with a width and a displacement behind it belongs to the grammar. -/
lemma isConstantText_written {address displacement : Doubleword} {place rest : String}
    (hplace : IsAddressText place.toList address.toNat)
    (hrest : IsAddressText rest.toList displacement.toNat) (length : UInt8) :
    IsConstantText (place ++ ":" ++ decimal length.toNat ++ "+" ++ rest).toList
      ⟨.ofAddress address, .explicit length displacement⟩ := by
  have htext : (place ++ ":" ++ decimal length.toNat ++ "+" ++ rest).toList =
      place.toList ++
        ':' :: (numeral .decimal lowerDigit length.toNat ++ '+' :: rest.toList) := by
    simp [decimal]
  have hpresent := numeral_ne_nil .decimal lowerDigit length.toNat
  have hdenotes := denotes_numeral (isDigit_lowerDigit .decimal) length.toNat
  rw [htext]
  exact .extent hplace.colon_not_mem hplace.readAddress_eq
    (startsWithDigit_append hpresent hdenotes _)
    (.displaced hpresent hdenotes hrest.readAddress_eq)

/-- A text is read as an address constant exactly when it belongs to the grammar.  It is refused for
its format exactly when its address can be read and the field behind the colon neither starts with a
digit nor names a format, and as a whole otherwise.  So an address, a width and a displacement that
are written into one text, the first and the last in decimal or in hexadecimal, are read back. -/
theorem constant_text_exact :
    (∀ text constant, parse text = .ok constant ↔ IsConstantText text.toList constant) ∧
    (∀ text name, parse text = .error (.unknownFormat name) ↔
      NamesUnknownFormat text.toList name.toList) ∧
    (∀ text whole, parse text = .error (.malformedConstant whole) ↔ whole = text ∧
      (∀ constant, ¬ IsConstantText text.toList constant) ∧
      ∀ name, ¬ NamesUnknownFormat text.toList name) ∧
    ∀ (address displacement : Doubleword) (length : UInt8),
      ∀ place ∈ [decimal address.toNat, hexAddress address, reportAddress address],
      ∀ rest ∈ [decimal displacement.toNat, hexAddress displacement, reportAddress displacement],
        parse (place ++ ":" ++ decimal length.toNat ++ "+" ++ rest) =
          .ok ⟨.ofAddress address, .explicit length displacement⟩ := by
  refine ⟨fun text constant => ⟨fun h => ?_, IsConstantText.parse_eq⟩,
    fun text name => ⟨fun h => ?_, fun h => ?_⟩, fun text whole => ⟨fun h => ?_, ?_⟩, ?_⟩
  · have hjudges := judges_parse text
    rw [h] at hjudges
    cases hjudges with
    | constant text_of => exact text_of
  · have hjudges := judges_parse text
    rw [h] at hjudges
    cases hjudges with
    | unknownFormat names => rwa [String.toList_ofList]
  · rw [h.parse_eq, String.ofList_toList]
  · have hjudges := judges_parse text
    rw [h] at hjudges
    cases hjudges with
    | malformed noconstant noname => exact ⟨rfl, noconstant, noname⟩
  · rintro ⟨rfl, noconstant, noname⟩
    rcases parse_cases whole with ⟨constant, hconstant⟩ | ⟨name, hname⟩ | hmalformed
    · exact absurd hconstant (noconstant constant)
    · exact absurd hname (noname name)
    · exact hmalformed
  · intro address displacement length place hplace rest hrest
    exact (isConstantText_written (isAddressText_of_written hplace)
      (isAddressText_of_written hrest) length).parse_eq

/-- The greatest width and the greatest displacement are read back.  A name that is only the
beginning of the names of formats is unknown. -/
theorem constant_text_exact_greatest :
    hexAddress 0x1040 ∈ [decimal (0x1040 : Doubleword).toNat, hexAddress 0x1040,
      reportAddress 0x1040] ∧
    decimal (0xFFFFFFFFFFFFFFFF : Doubleword).toNat ∈
      [decimal (0xFFFFFFFFFFFFFFFF : Doubleword).toNat, hexAddress 0xFFFFFFFFFFFFFFFF,
        reportAddress 0xFFFFFFFFFFFFFFFF] ∧
    parse (hexAddress 0x1040 ++ ":" ++ decimal (255 : UInt8).toNat ++ "+" ++
        decimal (0xFFFFFFFFFFFFFFFF : Doubleword).toNat) =
      .ok ⟨.ofAddress 0x1040, .explicit 255 0xFFFFFFFFFFFFFFFF⟩ ∧
    parse "4160:PSW" = .error (.unknownFormat "PSW") := by
  have hplace : hexAddress 0x1040 ∈ [decimal (0x1040 : Doubleword).toNat, hexAddress 0x1040,
      reportAddress 0x1040] := List.mem_cons_of_mem _ List.mem_cons_self
  obtain ⟨-, hunknown, -, hwritten⟩ := constant_text_exact
  refine ⟨hplace, List.mem_cons_self, hwritten _ _ _ _ hplace _ List.mem_cons_self, ?_⟩
  refine (hunknown _ _).mpr ⟨"4160".toList, 4160, by decide, by decide, by decide, by decide, ?_⟩
  intro format
  cases format <;> decide

end AddressConstant

end Relocation
