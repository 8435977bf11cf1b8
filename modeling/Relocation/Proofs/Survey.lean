import Relocation.Proofs.HeaderLayout
import Relocation.Run.Survey

/-!
# What a survey establishes

Everything a relocation relies on while it writes is established before, by `survey` and `scan`.
This file turns the two into statements.  `FoundHeader.Stands` says what it means that a header
stands at an address of a region, `Survey.Usable` what it means that a table may be used;
`headerAt_eq_ok_iff` and `survey_eq_ok_iff` say that these are exactly what the two functions test,
and `survey_of_headerAt` in which order a survey asks for the status, the width and the entry list.
`scan_cases` says that the scan either accepts every entry or reports the first one at fault.

None of the functions is ever stopped by a program check.
-/

namespace Relocation

/-! ### The header at an address -/

/-- The header stands at the address `table` of the region. -/
structure FoundHeader.Stands (located : FoundHeader) (region : Region) (table : Doubleword) :
    Prop where
  base_le : region.base ≤ table
  offset_eq : located.offset = (table - region.base).toNat
  /-- There is room for the mark. -/
  room : located.offset + 8 ≤ region.data.length
  marked : region.data.field located.offset 8 = Header.mark
  locate_eq : Header.locate (region.data.drop located.offset) =
    .ok (some (located.pointerSize, located.header))

section HeaderAt

variable {region : Region} {table : Doubleword}

/-- An address has an offset when the bytes from there on lie in the region. -/
lemma offset?_eq_some_iff {length offset : Nat} :
    region.offset? table length = some offset ↔
      region.base ≤ table ∧ offset = (table - region.base).toNat ∧
        offset + length ≤ region.data.length := by
  unfold Region.offset?
  split
  · rename_i h
    rw [Option.some_inj]
    constructor
    · rintro rfl
      exact ⟨h.1, rfl, h.2⟩
    · rintro ⟨-, rfl, -⟩
      rfl
  · rename_i h
    simp only [reduceCtorEq, false_iff]
    rintro ⟨hbase, rfl, hroom⟩
    exact h ⟨hbase, hroom⟩

/-- Reading the header at an offset with room for a mark. -/
lemma headerAt_of_offset {offset : Nat} (h : region.offset? table 8 = some offset) :
    region.headerAt table =
      if region.data.field offset 8 = Header.mark then do
        match ← Header.locate (region.data.drop offset) with
        | some (pointerSize, header) => return .ok ⟨offset, pointerSize, header⟩
        | none => return .error .malformed
      else .ok (.error .unmarked) := by
  obtain ⟨-, -, hroom⟩ := offset?_eq_some_iff.mp h
  have hfetch : Storage.fetch (region.data.drop offset) 0 8 = .ok (region.data.field offset 8) := by
    rw [Storage.fetch_eq (by simp; omega) le_rfl, Storage.field, Storage.part_drop, Nat.add_zero,
      ← Storage.field]
  unfold Region.headerAt
  rw [h]
  simp only [Storage.after_eq (by omega : offset ≤ region.data.length), Checked.ok_bind, hfetch]
  rfl

/-- A header is reported exactly where one stands. -/
theorem headerAt_eq_ok_iff {located : FoundHeader} :
    region.headerAt table = .ok (.ok located) ↔ located.Stands region table := by
  constructor
  · intro h
    cases hoffset : region.offset? table 8 with
    | none =>
      unfold Region.headerAt at h
      rw [hoffset] at h
      cases h
    | some offset =>
      obtain ⟨hbase, heq, hroom⟩ := offset?_eq_some_iff.mp hoffset
      rw [headerAt_of_offset hoffset] at h
      split at h
      · rename_i hmark
        obtain ⟨result, hlocate, h⟩ := Checked.bind_eq_ok_iff.mp h
        cases result with
        | none => cases h
        | some pair =>
          obtain ⟨pointerSize, header⟩ := pair
          cases h
          exact ⟨hbase, heq, hroom, hmark, hlocate⟩
      · cases h
  · rintro ⟨hbase, heq, hroom, hmark, hlocate⟩
    have hoffset : region.offset? table 8 = some located.offset :=
      offset?_eq_some_iff.mpr ⟨hbase, heq, hroom⟩
    rw [headerAt_of_offset hoffset, if_pos hmark, hlocate]
    rfl

/-- Looking for a header is never stopped. -/
lemma exists_headerAt (region : Region) (table : Doubleword) :
    ∃ result, region.headerAt table = .ok result := by
  cases hoffset : region.offset? table 8 with
  | none =>
    refine ⟨.error .outside, ?_⟩
    unfold Region.headerAt
    rw [hoffset]
  | some offset =>
    rw [headerAt_of_offset hoffset]
    split
    · rw [Header.locate_eq, Checked.ok_bind]
      split
      · exact ⟨_, rfl⟩
      · exact ⟨_, rfl⟩
    · exact ⟨_, rfl⟩

end HeaderAt

/-- The pointers of a header that stands in a region have four or eight bytes. -/
lemma FoundHeader.Stands.laid {located : FoundHeader} {region : Region} {table : Doubleword}
    (h : located.Stands region table) :
    Header.Laid (region.data.drop located.offset) located.pointerSize :=
  (Header.locate_eq_some_iff.mp h.locate_eq).2.1

/-- All of a header that stands in a region lies in the region. -/
lemma FoundHeader.Stands.size_le {located : FoundHeader} {region : Region} {table : Doubleword}
    (h : located.Stands region table) :
    located.offset + Header.size located.pointerSize ≤ region.data.length := by
  have hfits := h.laid.fits
  have hroom := h.room
  rw [List.length_drop] at hfits
  omega

/-- The entries of a header that stands in a region can be unpacked. -/
lemma FoundHeader.Stands.exists_codec {located : FoundHeader} {region : Region}
    {table : Doubleword} (h : located.Stands region table) :
    ∃ codec, located.header.codec? = some codec := by
  obtain ⟨-, hlaid, hview⟩ := Header.locate_eq_some_iff.mp h.locate_eq
  rw [hview]
  exact Option.isSome_iff_exists.mp hlaid.codec

/-- The entry list of a header that stands in a region is consistent. -/
lemma FoundHeader.Stands.consistent {located : FoundHeader} {region : Region}
    {table : Doubleword} (h : located.Stands region table) : located.header.Consistent := by
  obtain ⟨-, hlaid, hview⟩ := Header.locate_eq_some_iff.mp h.locate_eq
  rw [hview]
  exact hlaid.consistent

/-- The entry list of a header that stands in a region holds a whole number of entries. -/
lemma FoundHeader.Stands.whole {located : FoundHeader} {region : Region} {table : Doubleword}
    (h : located.Stands region table) :
    located.header.listLength % located.header.entrySize.toUInt64 = 0 := by
  obtain ⟨-, -, hend, hwhole⟩ := h.consistent
  rwa [Header.listLength, if_pos hend]

/-! ### Usable tables -/

/-- The table stands at the address `table` of the region and this mode may use it. -/
structure Survey.Usable (found : Survey) (mode : AddressingMode) (region : Region)
    (table : Doubleword) : Prop where
  stands : FoundHeader.Stands ⟨found.offset, found.pointerSize, found.header⟩ region table
  notStarted : found.header.status = .notStarted
  supported : found.pointerSize ≤ mode.pointerSize
  codec_eq : found.header.codec? = some found.codec
  base_le : found.header.assembledBase ≤ found.header.firstEntry
  listOffset_eq :
    found.listOffset = (found.header.firstEntry - found.header.assembledBase).toNat
  listLength_eq : found.listLength = found.header.listLength.toNat
  /-- The list holds a whole number of entries. -/
  whole : found.header.listLength % found.header.entrySize.toUInt64 = 0
  /-- The list lies in the region. -/
  inside : found.listOffset + found.listLength ≤ region.data.length

/-- The table of a header that was found, with its entry list. -/
def FoundHeader.toSurvey (located : FoundHeader) (codec : EntryCodec) : Survey where
  offset := located.offset
  pointerSize := located.pointerSize
  header := located.header
  codec := codec
  listOffset := (located.header.firstEntry - located.header.assembledBase).toNat
  listLength := located.header.listLength.toNat

/-- The entry list of a header that was found lies in the region. -/
def FoundHeader.ListInside (located : FoundHeader) (region : Region) : Prop :=
  region.ContainsOffset (located.header.firstEntry - located.header.assembledBase).toNat
    located.header.listLength.toNat

instance (located : FoundHeader) (region : Region) : Decidable (located.ListInside region) :=
  inferInstanceAs (Decidable (region.ContainsOffset _ _))

section Surveying

variable {mode : AddressingMode} {region : Region} {table : Doubleword}

/-- What a survey says of the table at an address when it asks neither for the status of the table
nor for the width of its pointers. -/
def surveyRegardless (region : Region) (table : Doubleword) : Checked (Except Refusal Survey) := do
  match ← region.headerAt table with
  | .error _ => return .error (.badTablePointer table)
  | .ok ⟨offset, pointerSize, header⟩ =>
    match header.codec?, header.firstEntry.sub? header.assembledBase with
    | some codec, some listOffset =>
      let rest ← header.listLength.remainder header.entrySize.toUInt64
      if rest = 0 ∧ region.ContainsOffset listOffset.toNat header.listLength.toNat then
        return .ok
          { offset, pointerSize, header, codec
            listOffset := listOffset.toNat
            listLength := header.listLength.toNat }
      else
        return .error (.badTablePointer table)
    | _, _ => return .error (.badTablePointer table)

/-- Once a header is found, a survey asks for its status, then for the width of its pointers. -/
lemma survey_of_headerAt {located : FoundHeader}
    (h : region.headerAt table = .ok (.ok located)) :
    survey mode region table =
      if located.header.status ≠ .notStarted then .ok (.error .alreadyRelocated)
      else if mode.pointerSize < located.pointerSize then
        .ok (.error (.addressTooWide located.pointerSize mode.pointerSize))
      else surveyRegardless region table := by
  unfold survey surveyRegardless
  rw [h]
  rfl

/-- Without a header there is no table to survey. -/
lemma survey_of_headerAt_error {fault : TableFault}
    (h : region.headerAt table = .ok (.error fault)) :
    survey mode region table = .ok (.error (.badTablePointer table)) := by
  unfold survey
  rw [h]
  rfl

/-- A table that was used before is turned down, whatever else is wrong with it. -/
lemma survey_of_used {located : FoundHeader} (h : region.headerAt table = .ok (.ok located))
    (hstatus : located.header.status ≠ .notStarted) :
    survey mode region table = .ok (.error .alreadyRelocated) := by
  rw [survey_of_headerAt h, if_pos hstatus]

/-- A header with a codec has an entry size to divide by. -/
lemma remainder_entrySize {header : Header} {codec : EntryCodec} (h : header.codec? = some codec)
    (value : Doubleword) :
    value.remainder header.entrySize.toUInt64 = .ok (value % header.entrySize.toUInt64) := by
  have hsize := (Header.codec?_eq_some_iff.mp h).1
  have hcases := codec.entrySize_cases
  have hne : header.entrySize ≠ 0 := by
    intro hzero
    rw [hzero] at hsize
    have : (0 : UInt8).toNat = 0 := rfl
    omega
  exact if_neg (Header.toUInt64_ne_zero hne)

/-- A difference is given exactly for values in order. -/
lemma Doubleword.sub?_eq_some_iff {a b c : Doubleword} : a.sub? b = some c ↔ b ≤ a ∧ c = a - b := by
  unfold sub?
  split
  · rename_i h
    simp [h, eq_comm]
  · rename_i h
    simp [h]

/-- The entry list of a header that stands in a region only has to lie in the region; the other
tests were made when the header was found. -/
theorem FoundHeader.Stands.surveyRegardless_eq {located : FoundHeader} {codec : EntryCodec}
    (h : located.Stands region table) (hcodec : located.header.codec? = some codec) :
    surveyRegardless region table =
      .ok (if located.ListInside region then .ok (located.toSurvey codec)
        else .error (.badTablePointer table)) := by
  obtain ⟨-, hbase, -, -⟩ := h.consistent
  have hlist : located.header.firstEntry.sub? located.header.assembledBase =
      some (located.header.firstEntry - located.header.assembledBase) :=
    Doubleword.sub?_eq_some_iff.mpr ⟨hbase, rfl⟩
  unfold surveyRegardless
  rw [headerAt_eq_ok_iff.mpr h, Checked.ok_bind]
  simp only [hcodec, hlist, remainder_entrySize hcodec, Checked.ok_bind, h.whole, true_and]
  by_cases hinside : located.ListInside region
  · rw [if_pos hinside]
    exact if_pos hinside
  · rw [if_neg hinside]
    exact if_neg hinside

/-- A survey finds exactly the tables that may be used. -/
theorem survey_eq_ok_iff {found : Survey} :
    survey mode region table = .ok (.ok found) ↔ found.Usable mode region table := by
  constructor
  · intro h
    obtain ⟨result, hheader⟩ := exists_headerAt region table
    cases result with
    | error fault =>
      rw [survey_of_headerAt_error hheader] at h
      cases h
    | ok located =>
      have hstands := headerAt_eq_ok_iff.mp hheader
      obtain ⟨codec, hcodec⟩ := hstands.exists_codec
      rw [survey_of_headerAt hheader, hstands.surveyRegardless_eq hcodec] at h
      split at h
      · cases h
      rename_i hstatus
      split at h
      · cases h
      rename_i hwidth
      split at h
      · rename_i hinside
        cases h
        exact ⟨hstands, not_not.mp hstatus, not_lt.mp hwidth, hcodec, hstands.consistent.2.1, rfl,
          rfl, hstands.whole, hinside⟩
      · cases h
  · intro h
    have hinside :
        FoundHeader.ListInside ⟨found.offset, found.pointerSize, found.header⟩ region := by
      rw [FoundHeader.ListInside, ← h.listOffset_eq, ← h.listLength_eq]
      exact h.inside
    rw [survey_of_headerAt (headerAt_eq_ok_iff.mpr h.stands), if_neg (not_not.mpr h.notStarted),
      if_neg (not_lt.mpr h.supported), h.stands.surveyRegardless_eq h.codec_eq, if_pos hinside,
      FoundHeader.toSurvey, ← h.listOffset_eq, ← h.listLength_eq]

/-- There is at most one usable table at an address. -/
lemma Survey.Usable.unique {found found' : Survey} (h : found.Usable mode region table)
    (h' : found'.Usable mode region table) : found = found' := by
  have heq := (survey_eq_ok_iff.mpr h).symm.trans (survey_eq_ok_iff.mpr h')
  cases heq
  rfl

/-- All modes that support the pointers of a table find the same. -/
lemma survey_eq_of_supported {mode' : AddressingMode} {located : FoundHeader}
    (h : region.headerAt table = .ok (.ok located))
    (hmode : located.pointerSize ≤ mode.pointerSize)
    (hmode' : located.pointerSize ≤ mode'.pointerSize) :
    survey mode region table = survey mode' region table := by
  rw [survey_of_headerAt h, survey_of_headerAt h, if_neg (not_lt.mpr hmode),
    if_neg (not_lt.mpr hmode')]

/-- What a survey finds it also finds without asking for status and width. -/
lemma surveyRegardless_of_survey {found : Survey} (h : survey mode region table = .ok (.ok found)) :
    surveyRegardless region table = .ok (.ok found) := by
  have husable := survey_eq_ok_iff.mp h
  rw [survey_of_headerAt (headerAt_eq_ok_iff.mpr husable.stands)] at h
  rwa [if_neg (not_not.mpr husable.notStarted), if_neg (not_lt.mpr husable.supported)] at h

/-- A table that one mode may use is turned down by another for the width of its pointers only. -/
lemma survey_of_survey {mode' : AddressingMode} {found : Survey}
    (h : survey mode' region table = .ok (.ok found)) :
    survey mode region table =
      if mode.pointerSize < found.pointerSize then
        .ok (.error (.addressTooWide found.pointerSize mode.pointerSize))
      else .ok (.ok found) := by
  have husable := survey_eq_ok_iff.mp h
  rw [survey_of_headerAt (headerAt_eq_ok_iff.mpr husable.stands),
    if_neg (not_not.mpr husable.notStarted), surveyRegardless_of_survey h]

/-- A survey is never stopped. -/
lemma exists_survey (mode : AddressingMode) (region : Region) (table : Doubleword) :
    ∃ result, survey mode region table = .ok result := by
  obtain ⟨result, hheader⟩ := exists_headerAt region table
  cases result with
  | error fault => exact ⟨_, survey_of_headerAt_error hheader⟩
  | ok located =>
    have hstands := headerAt_eq_ok_iff.mp hheader
    obtain ⟨codec, hcodec⟩ := hstands.exists_codec
    rw [survey_of_headerAt hheader, hstands.surveyRegardless_eq hcodec]
    split
    · exact ⟨_, rfl⟩
    split
    · exact ⟨_, rfl⟩
    · exact ⟨_, rfl⟩

end Surveying

/-! ### The entries of a table -/

namespace Survey

/-- Entry number `index` of the table, as the list in `storage` has it. -/
def entryAt (found : Survey) (storage : Storage) (index : Nat) : Entry :=
  found.codec.unpack
    (storage.field (found.listOffset + index * found.codec.entrySize) found.codec.entrySize)

/-- The entries of the table, as the list in `storage` has them. -/
def entries (found : Survey) (storage : Storage) : List Entry :=
  (List.range found.entryCount).map (found.entryAt storage)

variable {found : Survey}

/-- There are as many entries as the list has room for. -/
lemma length_entries (storage : Storage) : (found.entries storage).length = found.entryCount := by
  rw [entries, List.length_map, List.length_range]

/-- The entries of the table are those with a number. -/
lemma mem_entries_iff {storage : Storage} {entry : Entry} :
    entry ∈ found.entries storage ↔ ∃ j, j < found.entryCount ∧ found.entryAt storage j = entry := by
  simp only [entries, List.mem_map, List.mem_range]

/-- Every entry lies in the list. -/
lemma entry_inside {index : Nat} (h : index < found.entryCount) :
    index * found.codec.entrySize + found.codec.entrySize ≤ found.listLength := by
  have hmul : (index + 1) * found.codec.entrySize ≤ found.entryCount * found.codec.entrySize :=
    Nat.mul_le_mul_right _ h
  have hle : found.entryCount * found.codec.entrySize ≤ found.listLength := Nat.div_mul_le_self _ _
  rw [Nat.succ_mul] at hmul
  exact hmul.trans hle

/-- Storage with the same entry list has the same entries. -/
lemma entryAt_congr {s t : Storage}
    (h : s.AgreesOn t found.listOffset (found.listOffset + found.listLength)) {index : Nat}
    (hindex : index < found.entryCount) : found.entryAt s index = found.entryAt t index := by
  have hinside := entry_inside hindex
  rw [entryAt, entryAt, h.field_eq (by omega) (by omega)]

/-- An entry of a list inside the storage can be read. -/
lemma read_entryAt {storage : Storage} {index : Nat}
    (h : found.listOffset + index * found.codec.entrySize + found.codec.entrySize ≤
      storage.length) :
    found.codec.read (storage.part (found.listOffset + index * found.codec.entrySize)
      found.codec.entrySize) = .ok (found.entryAt storage index) :=
  EntryCodec.read_eq (Storage.length_part h)

namespace Usable

variable {mode : AddressingMode} {region : Region} {table : Doubleword}

/-- The pointers of a usable table have four or eight bytes. -/
lemma pointerSize_cases (h : found.Usable mode region table) :
    found.pointerSize = 4 ∨ found.pointerSize = 8 := by
  rcases (Header.locate_eq_some_iff.mp h.stands.locate_eq).1 with h4 | ⟨h8, -⟩
  · exact Or.inl h4
  · exact Or.inr h8

/-- The header says how wide its pointers are. -/
lemma registerWidth_eq (h : found.Usable mode region table) :
    found.header.registerWidth = UInt8.ofNat found.pointerSize := by
  obtain ⟨-, hlaid, hview⟩ := Header.locate_eq_some_iff.mp h.stands.locate_eq
  rw [show found.header = _ from hview]
  exact hlaid.width

/-- A register is as wide as a pointer. -/
lemma toNat_registerWidth (h : found.Usable mode region table) :
    found.header.registerWidth.toNat = found.pointerSize := by
  rw [h.registerWidth_eq]
  rcases h.pointerSize_cases with hsize | hsize
  · rw [hsize]
    rfl
  · rw [hsize]
    rfl

/-- The widest field that an entry can describe is as wide as a pointer. -/
lemma two_pow_lengthBits (h : found.Usable mode region table) :
    2 ^ found.codec.lengthBits = found.pointerSize := by
  have hcodec := (Header.codec?_eq_some_iff.mp h.codec_eq).2
  have hwidth := h.registerWidth_eq
  rcases h.pointerSize_cases with hsize | hsize
  · rw [hsize] at hwidth ⊢
    rcases hcodec with ⟨-, hbits⟩ | ⟨heq, -⟩
    · rw [hbits]
      norm_num
    · rw [hwidth] at heq
      exact absurd heq (by decide)
  · rw [hsize] at hwidth ⊢
    rcases hcodec with ⟨heq, -⟩ | ⟨-, hbits⟩
    · rw [hwidth] at heq
      exact absurd heq (by decide)
    · rw [hbits]
      norm_num

/-- The entry size of a usable table is that of its codec. -/
lemma entrySize_eq (h : found.Usable mode region table) :
    found.codec.entrySize = found.header.entrySize.toNat :=
  (Header.codec?_eq_some_iff.mp h.codec_eq).1

end Usable

end Survey

/-! ### Faulty entries -/

/-- What is wrong with entry number `index` in a region of the given size, if anything is. -/
def Entry.fault? (entry : Entry) (regionSize index : Nat) : Option Refusal :=
  if entry.length < 2 then some (.badEntryLength index entry.length)
  else if regionSize < entry.stop then some (.entryOutsideRegion index entry.displacement)
  else none

/-- The widest field that a mode relocates is as wide as its pointers. -/
lemma toNat_maxFieldWidth (mode : AddressingMode) :
    mode.maxFieldWidth.toNat = mode.pointerSize := by
  cases mode <;> rfl

/-- An entry that is not too wide for the mode is checked for its faults. -/
lemma checkEntry_eq {mode : AddressingMode} {entry : Entry}
    (h : entry.length.toNat ≤ mode.pointerSize) (regionSize index : Nat) :
    checkEntry mode regionSize index entry =
      (entry.fault? regionSize index).elim (.ok ()) .error := by
  have hwidth : ¬ mode.maxFieldWidth < entry.length := by
    rw [UInt8.lt_iff_toNat_lt, toNat_maxFieldWidth]
    omega
  unfold checkEntry Entry.fault?
  rw [if_neg hwidth]
  by_cases hshort : entry.length < 2
  · rw [if_pos hshort, if_pos hshort]
    rfl
  · rw [if_neg hshort, if_neg hshort]
    by_cases hstop : entry.stop ≤ regionSize
    · rw [if_pos hstop, if_neg (by omega)]
      rfl
    · rw [if_neg hstop, if_pos (by omega)]
      rfl

namespace Survey

variable {found : Survey} {mode : AddressingMode} {region : Region} {table : Doubleword}

/-- No entry of the list in `storage` is at fault. -/
def Faultless (found : Survey) (storage : Storage) : Prop :=
  ∀ i, i < found.entryCount → (found.entryAt storage i).fault? storage.length i = none

/-- The first entry at fault in the list in `storage` is turned down for this reason. -/
def FirstFault (found : Survey) (storage : Storage) (refusal : Refusal) : Prop :=
  ∃ i, i < found.entryCount ∧
    (found.entryAt storage i).fault? storage.length i = some refusal ∧
    ∀ j, j < i → (found.entryAt storage j).fault? storage.length j = none

/-- There is one first fault at most. -/
lemma FirstFault.unique {storage : Storage} {refusal refusal' : Refusal}
    (h : found.FirstFault storage refusal) (h' : found.FirstFault storage refusal') :
    refusal = refusal' := by
  obtain ⟨i, -, hsome, hnone⟩ := h
  obtain ⟨j, -, hsome', hnone'⟩ := h'
  rcases Nat.lt_trichotomy i j with hlt | rfl | hlt
  · rw [hnone' i hlt] at hsome
    cases hsome
  · exact Option.some.inj (hsome.symm.trans hsome')
  · rw [hnone j hlt] at hsome'
    cases hsome'

/-- A table without faults has no first one. -/
lemma FirstFault.not_faultless {storage : Storage} {refusal : Refusal}
    (h : found.FirstFault storage refusal) : ¬ found.Faultless storage := by
  intro hfaultless
  obtain ⟨i, hi, hsome, -⟩ := h
  rw [hfaultless i hi] at hsome
  cases hsome

/-- No entry that is unpacked for a usable table is too wide for the mode. -/
lemma Usable.length_unpack_le (h : found.Usable mode region table) {packed : Doubleword}
    (hpacked : packed.toNat < 256 ^ found.codec.entrySize) :
    (found.codec.unpack packed).length.toNat ≤ mode.pointerSize :=
  calc (found.codec.unpack packed).length.toNat
      ≤ 2 ^ found.codec.lengthBits := EntryCodec.length_unpack_le hpacked
    _ = found.pointerSize := h.two_pow_lengthBits
    _ ≤ mode.pointerSize := h.supported

/-- No entry of a usable table is too wide for the mode, whatever the list has become. -/
lemma Usable.length_entryAt_le (h : found.Usable mode region table) (storage : Storage)
    (index : Nat) : (found.entryAt storage index).length.toNat ≤ mode.pointerSize :=
  h.length_unpack_le (storage.toNat_field_lt _ found.codec.entrySize_le)

end Survey

/-! ### The scan -/

/-- The scan stops at the first faulty entry.  The induction is on the packed entries, with the
number of the first one growing. -/
lemma scanEntries_cases {mode : AddressingMode} {codec : EntryCodec} {regionSize : Nat}
    (fault? : Nat → Option Refusal) (pieces : List Storage) (index : Nat)
    (h : ∀ k (hk : k < pieces.length), ∃ entry, codec.read pieces[k] = .ok entry ∧
      checkEntry mode regionSize (index + k) entry = (fault? (index + k)).elim (.ok ()) .error) :
    (scanEntries mode codec regionSize index pieces = .ok (.ok ()) ∧
      ∀ k, k < pieces.length → fault? (index + k) = none) ∨
    ∃ k refusal, k < pieces.length ∧
      scanEntries mode codec regionSize index pieces = .ok (.error refusal) ∧
      fault? (index + k) = some refusal ∧ ∀ j, j < k → fault? (index + j) = none := by
  induction pieces generalizing index with
  | nil => exact Or.inl ⟨rfl, fun k hk => absurd hk (Nat.not_lt_zero k)⟩
  | cons piece rest ih =>
    obtain ⟨entry, hread, hcheck⟩ := h 0 (by simp)
    rw [Nat.add_zero] at hcheck
    rw [List.getElem_cons_zero] at hread
    have hrest := ih (index + 1) (fun k hk => by
      obtain ⟨entry, hread, hcheck⟩ := h (k + 1) (by simpa using hk)
      refine ⟨entry, by simpa using hread, ?_⟩
      rw [show index + 1 + k = index + (k + 1) by omega]
      exact hcheck)
    cases hfault : fault? index with
    | some refusal =>
      rw [hfault] at hcheck
      refine Or.inr ⟨0, refusal, by simp, ?_, hfault, fun j hj => absurd hj (Nat.not_lt_zero j)⟩
      unfold scanEntries
      rw [hread, Checked.ok_bind, hcheck]
      rfl
    | none =>
      rw [hfault] at hcheck
      have hscan : scanEntries mode codec regionSize index (piece :: rest) =
          scanEntries mode codec regionSize (index + 1) rest := by
        rw [scanEntries, hread, Checked.ok_bind, hcheck]
        rfl
      rw [hscan]
      rcases hrest with ⟨hok, hnone⟩ | ⟨k, refusal, hk, herror, hsome, hnone⟩
      · refine Or.inl ⟨hok, fun k hk => ?_⟩
        cases k with
        | zero => exact hfault
        | succ k =>
          rw [show index + (k + 1) = index + 1 + k by omega]
          exact hnone k (by simpa using hk)
      · refine Or.inr ⟨k + 1, refusal, by simpa using hk, herror, ?_, fun j hj => ?_⟩
        · rw [show index + (k + 1) = index + 1 + k by omega]
          exact hsome
        · cases j with
          | zero => exact hfault
          | succ j =>
            rw [show index + (j + 1) = index + 1 + j by omega]
            exact hnone j (by omega)

/-- The pieces of an entry list are its packed entries. -/
lemma getElem_pieces_part {storage : Storage} {start length size : Nat}
    (h : start + length ≤ storage.length) {k : Nat}
    (hk : k < ((storage.part start length).pieces size).length) :
    ((storage.part start length).pieces size)[k] = storage.part (start + k * size) size := by
  have hcount : k < length / size := by
    simpa [Storage.pieces, Storage.length_part h] using hk
  have hmul : (k + 1) * size ≤ length :=
    (Nat.mul_le_mul_right size hcount).trans (Nat.div_mul_le_self length size)
  rw [Nat.succ_mul] at hmul
  simp only [Storage.pieces, List.getElem_map, List.getElem_range, Storage.piece, Storage.part,
    List.drop_take, List.drop_drop, List.take_take]
  rw [Nat.min_eq_left (by omega)]

/-- The scan of a usable table accepts a list without faults, or reports the first fault. -/
theorem scan_cases {found : Survey} {mode : AddressingMode} {region : Region} {table : Doubleword}
    (h : found.Usable mode region table) :
    (scan mode region found = .ok (.ok ()) ∧ found.Faultless region.data) ∨
    ∃ refusal, scan mode region found = .ok (.error refusal) ∧
      found.FirstFault region.data refusal := by
  have hinside := h.inside
  have hslice := Storage.slice_eq hinside
  have hcount : ((region.data.part found.listOffset found.listLength).pieces
      found.codec.entrySize).length = found.entryCount := by
    simp [Storage.pieces, Storage.length_part hinside, Survey.entryCount]
  have hcases := scanEntries_cases
    (fun i => (found.entryAt region.data i).fault? region.data.length i)
    ((region.data.part found.listOffset found.listLength).pieces found.codec.entrySize) 0
    (fun k hk => by
      have hentry := Survey.entry_inside (hcount ▸ hk)
      refine ⟨found.entryAt region.data k, ?_, ?_⟩
      · rw [getElem_pieces_part hinside hk]
        exact Survey.read_entryAt (by omega)
      · rw [Nat.zero_add]
        exact checkEntry_eq (h.length_entryAt_le region.data k) region.data.length k)
  have hscan : scan mode region found = scanEntries mode found.codec region.data.length 0
      ((region.data.part found.listOffset found.listLength).pieces found.codec.entrySize) := by
    rw [scan, hslice, Checked.ok_bind]
    rfl
  simp only [Nat.zero_add, hcount] at hcases
  rw [hscan]
  rcases hcases with ⟨hok, hnone⟩ | ⟨k, refusal, hk, herror, hsome, hnone⟩
  · exact Or.inl ⟨hok, hnone⟩
  · exact Or.inr ⟨refusal, herror, k, hk, hsome, hnone⟩

end Relocation
