import Relocation.Proofs.HeaderLayout

/-!
# Wide headers read as narrow ones

The reader of a header tries the narrow layout first.  On the bytes of a wide header it then sees
the halves of the first three addresses as pointers of its own:

| narrow field     | half of the wide header              |
|------------------|--------------------------------------|
| assembled base   | assembled base, high-order           |
| transfer address | assembled base, low-order            |
| first entry      | transfer address, high-order         |
| entry size       | transfer address, low-order          |
| last entry byte  | first entry, high-order              |
| register width   | first entry, bits 24 to 31           |
| status flags     | first entry, bits 16 to 23           |

`Header.ReadsNarrow` says when all of these pass the tests of the reader, in terms of the numbers in
the wide header.  The main result `Header.locate_encode_wide` is that the reader finds a wide header
exactly when they do not; `Header.locate_encode_wide_mistaken` is a header for which they do.
-/

namespace Relocation

namespace Header

/-! ### What the narrow layout shows -/

/-- The header that the narrow layout shows in the bytes of a wide one. -/
def narrowReading (header : Header) : Header where
  eyecatcher := header.eyecatcher
  assembledBase := header.assembledBase >>> 32
  transferAddress := header.assembledBase.truncate 4
  firstEntry := header.transferAddress >>> 32
  entrySize :=
    if header.transferAddress.truncate 4 < 256 then (header.transferAddress.truncate 4).toUInt8
    else 0
  lastEntryByte := header.firstEntry >>> 32
  registerWidth := UInt8.ofNat (header.firstEntry.toNat / 256 ^ 3)
  status := Status.ofFlags (UInt8.ofNat (header.firstEntry.toNat / 256 ^ 2))

/-- The high-order half of a doubleword, as a number. -/
lemma toNat_shiftRight_half (value : Doubleword) :
    (value >>> 32).toNat = value.toNat / 256 ^ 4 := by
  rw [UInt64.toNat_shiftRight, Nat.shiftRight_eq_div_pow]
  rfl

/-- The high-order half of a doubleword fits into four bytes. -/
lemma truncate_shiftRight_half (value : Doubleword) :
    Doubleword.truncate 4 (value >>> 32) = value >>> 32 := by
  have hlt := value.toNat_lt
  rw [Doubleword.truncate_eq_self_iff, toNat_shiftRight_half]
  omega

/-- A doubleword in storage is its two halves, one after the other. -/
lemma toBytes_halves (value : Doubleword) :
    Doubleword.toBytes 8 value =
      Doubleword.toBytes 4 (value >>> 32) ++ Doubleword.toBytes 4 value :=
  Doubleword.toBytes_add 4 4 (toNat_shiftRight_half value)

section Reading

variable {header : Header}

/-- Up to the first entry, a wide header is a sequence of halves. -/
lemma exists_encode_halves (header : Header) (rest : Storage) :
    ∃ more, header.encode 8 ++ rest =
      Doubleword.toBytes 8 header.eyecatcher ++
      (Doubleword.toBytes 4 (header.assembledBase >>> 32) ++
      (Doubleword.toBytes 4 header.assembledBase ++
      (Doubleword.toBytes 4 (header.transferAddress >>> 32) ++
      (Doubleword.toBytes 4 header.transferAddress ++
      (Doubleword.toBytes 4 (header.firstEntry >>> 32) ++
      (Doubleword.toBytes 4 header.firstEntry ++ more)))))) := by
  simp [encode, toBytes_halves header.assembledBase, toBytes_halves header.transferAddress,
    toBytes_halves header.firstEntry]

/-- The bytes of the first entry that the narrow layout takes for register width and status. -/
lemma byte_firstEntry {i : Nat} (hi : i < 4) (value : Doubleword) (more : Storage) :
    (Doubleword.toBytes 4 value ++ more)[i]? =
      some (UInt8.ofNat (value.toNat / 256 ^ (4 - 1 - i))) := by
  rw [List.getElem?_append_left (by simpa using hi), Doubleword.getElem?_toBytes hi]

/-- Where the narrow layout has its register width and its status, in a wide header. -/
lemma byte_narrow_encode (header : Header) (rest : Storage) :
    Storage.byte (header.encode 8 ++ rest) (registerWidthOffset 4) =
        UInt8.ofNat (header.firstEntry.toNat / 256 ^ 3) ∧
      Storage.byte (header.encode 8 ++ rest) (statusOffset 4) =
        UInt8.ofNat (header.firstEntry.toNat / 256 ^ 2) := by
  obtain ⟨more, hmore⟩ := exists_encode_halves header rest
  have hwidth : registerWidthOffset 4 = 8 + (4 + (4 + (4 + (4 + (4 + 0))))) := rfl
  have hstatus : statusOffset 4 = 8 + (4 + (4 + (4 + (4 + (4 + 1))))) := rfl
  constructor
  · simp only [hmore, hwidth, Storage.byte, getElem?_toBytes_append]
    rw [byte_firstEntry (by decide), Option.getD_some]
  · simp only [hmore, hstatus, Storage.byte, getElem?_toBytes_append]
    rw [byte_firstEntry (by decide), Option.getD_some]

/-- In the bytes of a wide header the narrow layout shows its narrow reading. -/
theorem view_four_encode (header : Header) (rest : Storage) :
    view (header.encode 8 ++ rest) 4 = header.narrowReading := by
  obtain ⟨hwidth, hstatus⟩ := byte_narrow_encode header rest
  obtain ⟨more, hmore⟩ := exists_encode_halves header rest
  have h0 : pointerOffset 4 0 = 8 + 0 := rfl
  have h1 : pointerOffset 4 1 = 8 + (4 + 0) := rfl
  have h2 : pointerOffset 4 2 = 8 + (4 + (4 + 0)) := rfl
  have h3 : pointerOffset 4 3 = 8 + (4 + (4 + (4 + 0))) := rfl
  have h4 : pointerOffset 4 4 = 8 + (4 + (4 + (4 + (4 + 0)))) := rfl
  have hmark : header.eyecatcher.truncate 8 = header.eyecatcher :=
    Doubleword.truncate_eq_self_iff.mpr header.eyecatcher.toNat_lt
  rw [view, hwidth, hstatus, hmore]
  simp only [h0, h1, h2, h3, h4, field_toBytes_append, field_toBytes (by decide : 4 ≤ 8),
    field_toBytes (le_refl 8), hmark, truncate_shiftRight_half, narrowReading]

end Reading

/-! ### When the narrow layout is accepted -/

/-- The flags are plain when the six low-order bits are zero. -/
lemma plainFlags_iff (flags : UInt8) : Status.PlainFlags flags ↔ flags.toNat % 2 ^ 6 = 0 := by
  have hmask : (~~~(Status.startedFlag ||| Status.completedFlag)).toNat = 2 ^ 6 - 1 := by decide
  rw [Status.PlainFlags, ← UInt8.toNat_inj, UInt8.toNat_and, hmask,
    Nat.and_two_pow_sub_one_eq_mod]
  rfl

/-- There is a codec for entries of two, three or four bytes and registers of four or eight. -/
lemma isSome_codec?_iff {header : Header} :
    header.codec?.isSome ↔
      (header.entrySize.toNat = 2 ∨ header.entrySize.toNat = 3 ∨ header.entrySize.toNat = 4) ∧
        (header.registerWidth = 4 ∨ header.registerWidth = 8) := by
  rw [Option.isSome_iff_exists]
  constructor
  · rintro ⟨codec, hcodec⟩
    obtain ⟨hsize, hwidth⟩ := codec?_eq_some_iff.mp hcodec
    refine ⟨hsize ▸ codec.entrySize_cases, ?_⟩
    rcases hwidth with ⟨hfour, -⟩ | ⟨height, -⟩
    · exact Or.inl hfour
    · exact Or.inr height
  · rintro ⟨hsize, hfour | height⟩
    · exact ⟨⟨header.entrySize.toNat, 2, hsize, by decide⟩,
        codec?_eq_some_iff.mpr ⟨rfl, Or.inl ⟨hfour, rfl⟩⟩⟩
    · exact ⟨⟨header.entrySize.toNat, 3, hsize, by decide⟩,
        codec?_eq_some_iff.mpr ⟨rfl, Or.inr ⟨height, rfl⟩⟩⟩

/-- The consistency of a header, in numbers. -/
lemma consistent_iff {header : Header} :
    header.Consistent ↔ header.entrySize.toNat ≠ 0 ∧
      header.assembledBase.toNat ≤ header.firstEntry.toNat ∧
      header.firstEntry.toNat ≤ header.listEnd.toNat ∧
      (header.listEnd.toNat - header.firstEntry.toNat) % header.entrySize.toNat = 0 := by
  have hsize : header.entrySize ≠ 0 ↔ header.entrySize.toNat ≠ 0 := by
    rw [ne_eq, ← UInt8.toNat_inj]
    rfl
  rw [Consistent, hsize, UInt64.le_iff_toNat_le, UInt64.le_iff_toNat_le]
  refine and_congr_right fun _ => and_congr_right fun _ => and_congr_right fun hle => ?_
  rw [← UInt64.toNat_inj, UInt64.toNat_mod,
    UInt64.toNat_sub_of_le _ _ (UInt64.le_iff_toNat_le.mpr hle), UInt8.toNat_toUInt64]
  rfl

/-- The bytes of the wide header pass for a narrow one. -/
structure ReadsNarrow (header : Header) : Prop where
  /-- What stands for the register width is four. -/
  width : header.firstEntry.toNat / 2 ^ 24 % 2 ^ 8 = 4
  /-- What stands for the status has no unknown flags. -/
  plain : header.firstEntry.toNat / 2 ^ 16 % 2 ^ 6 = 0
  /-- What stands for the entry size is one. -/
  entrySize : header.transferAddress.toNat % 2 ^ 32 = 2 ∨
    header.transferAddress.toNat % 2 ^ 32 = 3 ∨ header.transferAddress.toNat % 2 ^ 32 = 4
  /-- What stands for the first entry is not below what stands for the assembled base. -/
  base_le : header.assembledBase.toNat / 2 ^ 32 ≤ header.transferAddress.toNat / 2 ^ 32
  /-- What stands for the list does not end before it starts. -/
  first_le : header.transferAddress.toNat / 2 ^ 32 ≤ header.firstEntry.toNat / 2 ^ 32 + 1
  /-- What stands for the list holds a whole number of what stands for entries. -/
  whole : (header.firstEntry.toNat / 2 ^ 32 + 1 - header.transferAddress.toNat / 2 ^ 32) %
    (header.transferAddress.toNat % 2 ^ 32) = 0

instance (header : Header) : Decidable header.ReadsNarrow :=
  decidable_of_iff
    (header.firstEntry.toNat / 2 ^ 24 % 2 ^ 8 = 4 ∧ header.firstEntry.toNat / 2 ^ 16 % 2 ^ 6 = 0 ∧
      (header.transferAddress.toNat % 2 ^ 32 = 2 ∨ header.transferAddress.toNat % 2 ^ 32 = 3 ∨
        header.transferAddress.toNat % 2 ^ 32 = 4) ∧
      header.assembledBase.toNat / 2 ^ 32 ≤ header.transferAddress.toNat / 2 ^ 32 ∧
      header.transferAddress.toNat / 2 ^ 32 ≤ header.firstEntry.toNat / 2 ^ 32 + 1 ∧
      (header.firstEntry.toNat / 2 ^ 32 + 1 - header.transferAddress.toNat / 2 ^ 32) %
        (header.transferAddress.toNat % 2 ^ 32) = 0)
    ⟨fun ⟨h₁, h₂, h₃, h₄, h₅, h₆⟩ => ⟨h₁, h₂, h₃, h₄, h₅, h₆⟩,
      fun ⟨h₁, h₂, h₃, h₄, h₅, h₆⟩ => ⟨h₁, h₂, h₃, h₄, h₅, h₆⟩⟩

section Narrow

variable (header : Header)

/-- The entry size of the narrow reading, as a number. -/
lemma toNat_entrySize_narrowReading :
    header.narrowReading.entrySize.toNat =
      if header.transferAddress.toNat % 2 ^ 32 < 256 then header.transferAddress.toNat % 2 ^ 32
      else 0 := by
  have hlow : (header.transferAddress.truncate 4).toNat = header.transferAddress.toNat % 2 ^ 32 :=
    Doubleword.toNat_truncate 4 header.transferAddress
  have hlt : header.transferAddress.truncate 4 < 256 ↔
      header.transferAddress.toNat % 2 ^ 32 < 256 := by
    rw [UInt64.lt_iff_toNat_lt, hlow]
    rfl
  by_cases hsmall : header.transferAddress.toNat % 2 ^ 32 < 256
  · rw [if_pos hsmall, narrowReading, if_pos (hlt.mpr hsmall), UInt64.toNat_toUInt8, hlow]
    exact Nat.mod_eq_of_lt hsmall
  · rw [if_neg hsmall, narrowReading, if_neg (fun h => hsmall (hlt.mp h))]
    rfl

/-- The end of the list of the narrow reading, as a number. -/
lemma toNat_listEnd_narrowReading :
    header.narrowReading.listEnd.toNat = header.firstEntry.toNat / 2 ^ 32 + 1 := by
  have hlt := header.firstEntry.toNat_lt
  have hhigh := toNat_shiftRight_half header.firstEntry
  rw [listEnd, narrowReading, UInt64.toNat_add, hhigh]
  change (header.firstEntry.toNat / 2 ^ 32 + 1) % 2 ^ 64 = header.firstEntry.toNat / 2 ^ 32 + 1
  omega

/-- The register width of the narrow reading is that of the narrow layout. -/
lemma registerWidth_narrowReading_iff :
    header.narrowReading.registerWidth = 4 ↔
      header.firstEntry.toNat / 2 ^ 24 % 2 ^ 8 = 4 := by
  rw [← UInt8.toNat_inj, narrowReading, UInt8.toNat_ofNat']
  rfl

/-- The status of the narrow reading has plain flags. -/
lemma plainFlags_narrow_iff :
    Status.PlainFlags (UInt8.ofNat (header.firstEntry.toNat / 256 ^ 2)) ↔
      header.firstEntry.toNat / 2 ^ 16 % 2 ^ 6 = 0 := by
  rw [plainFlags_iff, UInt8.toNat_ofNat', Nat.mod_mod_of_dvd _ (by decide)]
  rfl

/-- The narrow reading of a wide header is consistent when the halves are in order. -/
lemma consistent_narrowReading_iff
    (hsize : header.narrowReading.entrySize.toNat = header.transferAddress.toNat % 2 ^ 32)
    (hne : header.transferAddress.toNat % 2 ^ 32 ≠ 0) :
    header.narrowReading.Consistent ↔
      header.assembledBase.toNat / 2 ^ 32 ≤ header.transferAddress.toNat / 2 ^ 32 ∧
      header.transferAddress.toNat / 2 ^ 32 ≤ header.firstEntry.toNat / 2 ^ 32 + 1 ∧
      (header.firstEntry.toNat / 2 ^ 32 + 1 - header.transferAddress.toNat / 2 ^ 32) %
        (header.transferAddress.toNat % 2 ^ 32) = 0 := by
  have hbase : header.narrowReading.assembledBase.toNat = header.assembledBase.toNat / 2 ^ 32 :=
    toNat_shiftRight_half header.assembledBase
  have hfirst : header.narrowReading.firstEntry.toNat = header.transferAddress.toNat / 2 ^ 32 :=
    toNat_shiftRight_half header.transferAddress
  rw [consistent_iff, hsize, hbase, hfirst, toNat_listEnd_narrowReading]
  exact and_iff_right hne

/-- The narrow layout is accepted in the bytes of a wide header exactly when its halves pass for the
fields of a narrow one. -/
theorem laid_four_encode_iff (rest : Storage) :
    Laid (header.encode 8 ++ rest) 4 ↔ header.ReadsNarrow := by
  have hview := view_four_encode header rest
  have hflags := (byte_narrow_encode header rest).2
  have hsize := header.toNat_entrySize_narrowReading
  constructor
  · rintro ⟨-, hwidth, hplain, hcodec, hconsistent⟩
    rw [hview] at hwidth hcodec hconsistent
    rw [hflags, plainFlags_narrow_iff] at hplain
    obtain ⟨hcases, -⟩ := isSome_codec?_iff.mp hcodec
    -- an entry size that is not a byte reads as zero, which is none of the three
    have hsmall : header.transferAddress.toNat % 2 ^ 32 < 256 := by
      by_contra hlarge
      rw [if_neg hlarge] at hsize
      omega
    rw [if_pos hsmall] at hsize
    rw [hsize] at hcases
    obtain ⟨hbase, hfirst, hwhole⟩ :=
      (header.consistent_narrowReading_iff hsize (by omega)).mp hconsistent
    exact ⟨header.registerWidth_narrowReading_iff.mp hwidth, hplain, hcases, hbase, hfirst, hwhole⟩
  · rintro ⟨hwidth, hplain, hcases, hbase, hfirst, hwhole⟩
    have hfour := header.registerWidth_narrowReading_iff.mpr hwidth
    rw [if_pos (by omega)] at hsize
    refine ⟨?_, ?_, ?_, ?_, ?_⟩
    · have hle : size 4 ≤ size 8 := by decide
      rw [List.length_append, length_encode]
      exact hle.trans (Nat.le_add_right _ _)
    · rw [hview]
      exact hfour
    · rw [hflags, plainFlags_narrow_iff]
      exact hplain
    · rw [hview, isSome_codec?_iff, hsize]
      exact ⟨hcases, Or.inl hfour⟩
    · rw [hview, header.consistent_narrowReading_iff hsize (by omega)]
      exact ⟨hbase, hfirst, hwhole⟩

end Narrow

/-- A wide header is not mistaken for a narrow one unless the low-order half of its transfer address
is an entry size. -/
lemma not_laid_four_encode {header : Header}
    (h : ∀ size ∈ [2, 3, 4], header.transferAddress.toNat % 2 ^ 32 ≠ size) (rest : Storage) :
    ¬ Laid (header.encode 8 ++ rest) 4 := by
  intro hlaid
  have hcases := ((header.laid_four_encode_iff rest).mp hlaid).entrySize
  exact h _ (by simpa using hcases) rfl

/-! ### Finding wide headers -/

/-- A header of a 64-bit table whose entry list starts at or above the assembled base, ends below
the top of storage, not before it starts, and holds a whole number of entries. -/
structure DescribesWide (header : Header) : Prop where
  registerWidth : header.registerWidth = 8
  entrySize : header.entrySize = 2 ∨ header.entrySize = 3 ∨ header.entrySize = 4
  base_le : header.assembledBase.toNat ≤ header.firstEntry.toNat
  last_lt : header.lastEntryByte.toNat + 1 < 2 ^ 64
  first_le : header.firstEntry.toNat ≤ header.lastEntryByte.toNat + 1
  whole : (header.lastEntryByte.toNat + 1 - header.firstEntry.toNat) % header.entrySize.toNat = 0

namespace DescribesWide

variable {header : Header}

/-- The entry size of such a header, as a number. -/
lemma toNat_entrySize (h : header.DescribesWide) :
    header.entrySize.toNat = 2 ∨ header.entrySize.toNat = 3 ∨ header.entrySize.toNat = 4 := by
  rcases h.entrySize with hsize | hsize | hsize <;> rw [hsize] <;> decide

/-- Such a header is consistent. -/
lemma consistent (h : header.DescribesWide) : header.Consistent := by
  have hsize := h.toNat_entrySize
  have hend : header.listEnd.toNat = header.lastEntryByte.toNat + 1 := by
    rw [listEnd, UInt64.toNat_add]
    exact Nat.mod_eq_of_lt h.last_lt
  rw [consistent_iff, hend]
  exact ⟨by omega, h.base_le, h.first_le, h.whole⟩

end DescribesWide

/-- A wide header that was written is found in its own layout exactly when it does not pass for a
narrow one.  If it does, the narrow reading is found instead. -/
theorem locate_encode_wide (header : Header) (h : header.DescribesWide) (rest : Storage) :
    (locate (header.encode 8 ++ rest) = .ok (some (8, header)) ↔ ¬ header.ReadsNarrow) ∧
      (header.ReadsNarrow →
        locate (header.encode 8 ++ rest) = .ok (some (4, header.narrowReading))) := by
  have hlaid := header.laid_four_encode_iff rest
  have hcodec : header.codec?.isSome :=
    isSome_codec?_iff.mpr ⟨h.toNat_entrySize, Or.inr h.registerWidth⟩
  have hmistaken (hnarrow : header.ReadsNarrow) :
      locate (header.encode 8 ++ rest) = .ok (some (4, header.narrowReading)) :=
    locate_eq_some_iff.mpr ⟨Or.inl rfl, hlaid.mpr hnarrow, (view_four_encode header rest).symm⟩
  refine ⟨⟨fun hlocate hnarrow => ?_, fun hnarrow => ?_⟩, hmistaken⟩
  · rw [hmistaken hnarrow] at hlocate
    simp at hlocate
  · exact locate_encode (Or.inr rfl) header.fitsIn_eight h.registerWidth hcodec h.consistent rest
      (fun _ hfour => hnarrow (hlaid.mp hfour))

/-- A wide header with the register width of a narrow one inside its first entry. -/
def wideAt (transferAddress : Doubleword) : Header where
  eyecatcher := mark
  assembledBase := 0x04000000
  transferAddress := transferAddress
  firstEntry := 0x04000052
  entrySize := 4
  lastEntryByte := 0x04000055
  registerWidth := 8
  status := .notStarted

/-- With four for a transfer address the narrow list would hold a quarter of an entry, and the wide
header is found. -/
theorem locate_encode_wide_quarter :
    (wideAt 4).DescribesWide ∧ ¬ (wideAt 4).ReadsNarrow ∧
      locate ((wideAt 4).encode 8 ++ [0xE0, 0x00, 0x00, 0x00]) = .ok (some (8, wideAt 4)) := by
  have hdescribes : (wideAt 4).DescribesWide := by constructor <;> decide
  have hnarrow : ¬ (wideAt 4).ReadsNarrow := by decide
  exact ⟨hdescribes, hnarrow,
    (locate_encode_wide (wideAt 4) hdescribes [0xE0, 0x00, 0x00, 0x00]).1.mpr hnarrow⟩

/-- With `0x100000004` for a transfer address the narrow list would be empty, and a narrow header is
found in the place of the wide one. -/
theorem locate_encode_wide_mistaken :
    (wideAt 0x100000004).DescribesWide ∧
      locate ((wideAt 0x100000004).encode 8 ++ []) =
        .ok (some (4, ⟨mark, 0, 0x04000000, 1, 4, 0, 4, .notStarted⟩)) ∧
      locate ((wideAt 0x100000004).encode 8 ++ []) ≠
        .ok (some (8, wideAt 0x100000004)) := by
  have hdescribes : (wideAt 0x100000004).DescribesWide := by constructor <;> decide
  have hlocate : locate ((wideAt 0x100000004).encode 8 ++ []) =
      .ok (some (4, ⟨mark, 0, 0x04000000, 1, 4, 0, 4, .notStarted⟩)) := by decide +kernel
  refine ⟨hdescribes, hlocate, ?_⟩
  rw [hlocate]
  simp

end Header

end Relocation
