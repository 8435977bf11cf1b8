import Relocation.Proofs.NarrowReading
import Relocation.Proofs.Survey

/-!
# What a located header is good for

A header is located by its register width, its status byte, its entry size and the ends of its entry
list, each of them tested in its own place.  `Header.DescribesTable` collects what all of this comes
to, in numbers: an entry list that starts at or above the assembled base, holds a whole number of
entries and ends where the header says, also when the last byte of the list is the highest address
there is.  `Header.locate_eq_some_iff_describesTable` says that headers are located for this and for
nothing else.

A survey repeats three of the tests on the header that it was given.  None of them can fail, so that
a survey turns a table down as badly addressed only for a list that does not lie in the region
(`survey_eq_badTablePointer_iff`).  The main result is `located_header_sound`.
-/

namespace Relocation

namespace Header

/-! ### The entry list in numbers -/

/-- The end of the entry list, which is zero behind the highest address. -/
lemma toNat_listEnd (header : Header) :
    header.listEnd.toNat = (header.lastEntryByte.toNat + 1) % 2 ^ 64 := by
  rw [listEnd, UInt64.toNat_add]
  rfl

/-- The length of the entry list is the distance of its ends, zero if they are out of order. -/
lemma toNat_listLength (header : Header) :
    header.listLength.toNat = header.listEnd.toNat - header.firstEntry.toNat := by
  by_cases hle : header.firstEntry ≤ header.listEnd
  · rw [listLength, if_pos hle, UInt64.toNat_sub_of_le _ _ hle]
  · have hlt : header.listEnd.toNat < header.firstEntry.toNat := by
      rwa [UInt64.le_iff_toNat_le, Nat.not_le] at hle
    rw [listLength, if_neg hle, Nat.sub_eq_zero_of_le hlt.le]
    rfl

/-- A header is consistent when its list starts at or above the assembled base, ends where it says
and holds a whole number of entries. -/
lemma consistent_iff_list {header : Header} :
    header.Consistent ↔ header.entrySize.toNat ≠ 0 ∧ header.assembledBase ≤ header.firstEntry ∧
      header.entrySize.toNat ∣ header.listLength.toNat ∧
      header.firstEntry.toNat + header.listLength.toNat =
        (header.lastEntryByte.toNat + 1) % 2 ^ 64 := by
  rw [consistent_iff, ← UInt64.le_iff_toNat_le, ← Nat.dvd_iff_mod_eq_zero, ← toNat_listLength,
    ← toNat_listEnd]
  have hends : header.firstEntry.toNat ≤ header.listEnd.toNat ↔
      header.firstEntry.toNat + header.listLength.toNat = header.listEnd.toNat := by
    have hlength := header.toNat_listLength
    omega
  rw [hends]
  exact and_congr_right fun _ => and_congr_right fun _ => and_comm

/-! ### Located headers -/

/-- The bytes start with this header, with pointers of `w` bytes, and it describes a table. -/
structure DescribesTable (header : Header) (bytes : Storage) (w : Nat) : Prop where
  /-- Pointers have four or eight bytes. -/
  width : w = 4 ∨ w = 8
  /-- There are enough bytes. -/
  fits : size w ≤ bytes.length
  /-- This is the header in the bytes. -/
  shown : read bytes w = .ok (some header)
  /-- It says itself that its pointers have this size. -/
  registerWidth : header.registerWidth.toNat = w
  entrySize : header.entrySize = 2 ∨ header.entrySize = 3 ∨ header.entrySize = 4
  /-- Its entries can be unpacked. -/
  codec : ∃ codec, header.codec? = some codec
  /-- The entry list does not start below the assembled base. -/
  base_le : header.assembledBase ≤ header.firstEntry
  /-- The entry list holds a whole number of entries. -/
  whole : header.entrySize.toNat ∣ header.listLength.toNat
  /-- The entry list ends with the last entry byte. -/
  ends : header.firstEntry.toNat + header.listLength.toNat =
    (header.lastEntryByte.toNat + 1) % 2 ^ 64
  /-- The six low-order bits of the status byte are zero. -/
  plain : ∃ flags, bytes[statusOffset w]? = some flags ∧ flags.toNat % 2 ^ 6 = 0

section Locating

variable {bytes : Storage} {w : Nat} {header : Header}

/-- Four and eight are the same as a byte and as a number. -/
lemma toNat_eq_iff_of_width {width : UInt8} (hw : w = 4 ∨ w = 8) :
    width.toNat = w ↔ width = UInt8.ofNat w := by
  rw [← UInt8.toNat_inj]
  rcases hw with rfl | rfl <;> rfl

/-- An entry size is a byte. -/
lemma toNat_entrySize_iff {header : Header} :
    (header.entrySize = 2 ∨ header.entrySize = 3 ∨ header.entrySize = 4) ↔
      (header.entrySize.toNat = 2 ∨ header.entrySize.toNat = 3 ∨ header.entrySize.toNat = 4) := by
  simp only [← UInt8.toNat_inj]
  rfl

/-- The headers that describe a table are those that the reader of one layout accepts. -/
lemma describesTable_iff :
    header.DescribesTable bytes w ↔ (w = 4 ∨ w = 8) ∧ Laid bytes w ∧ header = view bytes w := by
  constructor
  · rintro ⟨hw, hfits, hshown, hwidth, hsize, ⟨codec, hcodec⟩, hbase, hwhole, hends, flags, hflags,
      hplain⟩
    rw [read_eq (by omega) hfits, Except.ok.injEq, Option.some_inj] at hshown
    subst hshown
    refine ⟨hw, ⟨hfits, (toNat_eq_iff_of_width hw).mp hwidth, ?_, ?_, ?_⟩, rfl⟩
    · rw [Storage.byte, hflags, Option.getD_some, plainFlags_iff]
      exact hplain
    · exact Option.isSome_iff_exists.mpr ⟨codec, hcodec⟩
    · refine consistent_iff_list.mpr ⟨?_, hbase, hwhole, hends⟩
      have hnat := toNat_entrySize_iff.mp hsize
      omega
  · rintro ⟨hw, hlaid, rfl⟩
    obtain ⟨-, hbase, hwhole, hends⟩ := consistent_iff_list.mp hlaid.consistent
    have hstatus := Storage.getElem?_eq_byte ((statusOffset_lt_size w).trans_le hlaid.fits)
    refine ⟨hw, hlaid.fits, read_eq (by omega) hlaid.fits,
      (toNat_eq_iff_of_width hw).mpr hlaid.width, ?_, Option.isSome_iff_exists.mp hlaid.codec,
      hbase, hwhole, hends, _, hstatus, (plainFlags_iff _).mp hlaid.plain⟩
    exact toNat_entrySize_iff.mpr (isSome_codec?_iff.mp hlaid.codec).1

/-- Located are the headers that describe a table, those with narrow pointers first. -/
theorem locate_eq_some_iff_describesTable :
    locate bytes = .ok (some (w, header)) ↔ header.DescribesTable bytes w ∧
      (w = 8 → ∀ narrow : Header, ¬ narrow.DescribesTable bytes 4) := by
  rw [locate_eq_some_iff, describesTable_iff]
  constructor
  · rintro ⟨rfl | ⟨rfl, hnarrow⟩, hlaid, hview⟩
    · exact ⟨⟨Or.inl rfl, hlaid, hview⟩, fun height => absurd height (by decide)⟩
    · refine ⟨⟨Or.inr rfl, hlaid, hview⟩, ?_⟩
      intro _ narrow h
      exact hnarrow (describesTable_iff.mp h).2.1
  · rintro ⟨⟨hw, hlaid, hview⟩, hnarrow⟩
    refine ⟨hw.imp_right fun height => ⟨height, fun hfour => ?_⟩, hlaid, hview⟩
    exact hnarrow height _ (describesTable_iff.mpr ⟨Or.inl rfl, hfour, rfl⟩)

end Locating

end Header

/-! ### Surveys of located headers -/

section Surveys

variable {mode : AddressingMode} {region : Region} {table : Doubleword} {located : FoundHeader}

/-- Whether the entry list of a header lies in the region, in numbers. -/
lemma FoundHeader.Stands.listInside_iff (h : located.Stands region table) :
    located.ListInside region ↔
      located.header.firstEntry.toNat - located.header.assembledBase.toNat +
        located.header.listLength.toNat ≤ region.data.length := by
  have hoffset := UInt64.toNat_sub_of_le _ _ h.consistent.2.1
  rw [FoundHeader.ListInside, Region.ContainsOffset, hoffset]
  rfl

/-- The three tests that a survey repeats on a header succeed. -/
lemma FoundHeader.Stands.tests_succeed (h : located.Stands region table) :
    (∃ codec, located.header.codec? = some codec) ∧
    (∃ listOffset, located.header.firstEntry.sub? located.header.assembledBase = some listOffset ∧
      listOffset.toNat =
        located.header.firstEntry.toNat - located.header.assembledBase.toNat) ∧
    located.header.listLength.remainder located.header.entrySize.toUInt64 = .ok 0 := by
  obtain ⟨codec, hcodec⟩ := h.exists_codec
  have hbase := h.consistent.2.1
  refine ⟨⟨codec, hcodec⟩, ?_, ?_⟩
  · exact ⟨_, Doubleword.sub?_eq_some_iff.mpr ⟨hbase, rfl⟩, UInt64.toNat_sub_of_le _ _ hbase⟩
  · rw [remainder_entrySize hcodec, h.whole]

/-- A table is badly addressed when there is no header at the address, or when the list of a header
that this mode may use does not lie in the region. -/
theorem survey_eq_badTablePointer_iff {refused : Doubleword} :
    survey mode region table = .ok (.error (.badTablePointer refused)) ↔ refused = table ∧
      ((∃ fault, region.headerAt table = .ok (.error fault)) ∨
        ∃ located, region.headerAt table = .ok (.ok located) ∧
          located.header.status = .notStarted ∧ located.pointerSize ≤ mode.pointerSize ∧
          region.data.length <
            located.header.firstEntry.toNat - located.header.assembledBase.toNat +
              located.header.listLength.toNat) := by
  obtain ⟨result, hheader⟩ := exists_headerAt region table
  cases result with
  | error fault =>
    rw [survey_of_headerAt_error hheader]
    simp [hheader, eq_comm]
  | ok located =>
    have hstands := headerAt_eq_ok_iff.mp hheader
    obtain ⟨codec, hcodec⟩ := hstands.exists_codec
    rw [survey_of_headerAt hheader, hstands.surveyRegardless_eq hcodec]
    simp only [hheader, Except.ok.injEq, reduceCtorEq, exists_false, false_or, ← not_le,
      exists_eq_left', ← hstands.listInside_iff]
    -- the answers in front of the list name another cause
    by_cases hstatus : located.header.status = .notStarted
    · rcases Nat.lt_or_ge mode.pointerSize located.pointerSize with hwidth | hwidth
      · simp [hstatus, hwidth]
      · by_cases hinside : located.ListInside region
        · simp [hstatus, hwidth, hinside]
        · simp [hstatus, hwidth, hinside, eq_comm]
    · simp [hstatus]

end Surveys

/-- A header is located exactly when it describes a table, in the narrow layout if there is one.
Hence the tests of its codec, of the order of its addresses and of the length of its list that a
survey makes once more always succeed.  Where a header was located, a survey says that the table is
badly addressed only if the list of a fresh table with pointers that the mode supports does not lie
in the region. -/
theorem located_header_sound :
    (∀ bytes w header, Header.locate bytes = .ok (some (w, header)) ↔
      header.DescribesTable bytes w ∧
        (w = 8 → ∀ narrow : Header, ¬ narrow.DescribesTable bytes 4)) ∧
    ∀ region table,
      (∀ located, Region.headerAt region table = .ok (.ok located) →
        (∃ codec, located.header.codec? = some codec) ∧
        (∃ listOffset,
          located.header.firstEntry.sub? located.header.assembledBase = some listOffset ∧
          listOffset.toNat =
            located.header.firstEntry.toNat - located.header.assembledBase.toNat) ∧
        located.header.listLength.remainder located.header.entrySize.toUInt64 = .ok 0) ∧
      ∀ mode refused, survey mode region table = .ok (.error (.badTablePointer refused)) ↔
        refused = table ∧
        ((∃ fault, Region.headerAt region table = .ok (.error fault)) ∨
          ∃ located, Region.headerAt region table = .ok (.ok located) ∧
            located.header.status = .notStarted ∧ located.pointerSize ≤ mode.pointerSize ∧
            region.data.length <
              located.header.firstEntry.toNat - located.header.assembledBase.toNat +
                located.header.listLength.toNat) := by
  refine ⟨fun bytes w header => Header.locate_eq_some_iff_describesTable, ?_⟩
  intro region table
  refine ⟨?_, fun mode refused => survey_eq_badTablePointer_iff⟩
  intro located hlocated
  exact (headerAt_eq_ok_iff.mp hlocated).tests_succeed

/-- A header without entries whose list ends with the highest address. -/
def wrappedHeader : Header :=
  ⟨Header.mark, 0, 0, 0, 3, 0xFFFFFFFFFFFFFFFF, 8, .notStarted⟩

/-- Two words and a header behind them that describes a list of two entries, of which the second is
missing. -/
def cutShortImage : Storage :=
  [0x00, 0x00, 0x10, 0x04, 0x00, 0x00, 0x0F, 0xFC,
    0xD9, 0xC5, 0xD3, 0xD6, 0xC3, 0xE3, 0xC2, 0xD3, 0x00, 0x00, 0x10, 0x00, 0x00, 0x00, 0x00, 0x00,
    0x00, 0x00, 0x10, 0x26, 0x00, 0x00, 0x00, 0x02, 0x00, 0x00, 0x10, 0x29, 0x04, 0x00, 0xC0, 0x00]

/-- The list that ends with the highest address has length zero.  The header whose list is cut short
passes all other tests, and its table is turned down for the list. -/
theorem located_header_sound_cut_short :
    (∃ header, Header.locate (wrappedHeader.encode 8) = .ok (some (8, header)) ∧
      header.firstEntry.toNat + header.listLength.toNat =
        (header.lastEntryByte.toNat + 1) % 2 ^ 64 ∧
      ∀ narrow : Header, ¬ narrow.DescribesTable (wrappedHeader.encode 8) 4) ∧
    ∃ located, Region.headerAt ⟨0x5000, cutShortImage⟩ 0x5008 = .ok (.ok located) ∧
      (∃ codec, located.header.codec? = some codec) ∧
      located.header.listLength.remainder located.header.entrySize.toUInt64 = .ok 0 ∧
      survey .bits31 ⟨0x5000, cutShortImage⟩ 0x5008 = .ok (.error (.badTablePointer 0x5008)) := by
  have hlocate : Header.locate (wrappedHeader.encode 8) = .ok (some (8, wrappedHeader)) := by
    decide +kernel
  have hlocated : Region.headerAt ⟨0x5000, cutShortImage⟩ 0x5008 =
      .ok (.ok ⟨8, 4, ⟨Header.mark, 0x1000, 0, 0x1026, 2, 0x1029, 4, .notStarted⟩⟩) := by
    decide +kernel
  obtain ⟨hsound, hsurveys⟩ := located_header_sound
  obtain ⟨hdescribes, hnarrow⟩ := (hsound _ _ _).mp hlocate
  obtain ⟨htests, hrefused⟩ := hsurveys ⟨0x5000, cutShortImage⟩ 0x5008
  obtain ⟨hcodec, -, hwhole⟩ := htests _ hlocated
  refine ⟨⟨_, hlocate, hdescribes.ends, hnarrow rfl⟩, _, hlocated, hcodec, hwhole, ?_⟩
  exact (hrefused .bits31 0x5008).mpr
    ⟨rfl, Or.inr ⟨_, hlocated, rfl, by decide, by decide⟩⟩

end Relocation
