import Relocation.Listing
import Relocation.Proofs.Relocate

/-!
# References stay in bounds

An image is not trusted: addresses, lengths and sizes in its table may be any numbers, and a table
may describe its own entry list, so that the list changes while it is in use.  This file says that
nevertheless neither a relocation nor a listing is ever stopped by a program check, and what each of
them refers to.

`Run.InBounds` collects the references of a relocation: header and list of the table, every entry of
the list, the fields that were patched and the registers that were adjusted.  It is proved by going
through the four ways of a relocation (`Relocates.inBounds`); for the patches this is an induction on
the run of the patch loop (`PatchRun.patch_inBounds`), each entry being checked in the storage that
the earlier patches have left.  `Listing.InBounds` does the same for a listing.
-/

namespace Relocation

/-! ### What a relocation refers to -/

/-- The header and the list of the table lie in the region, every entry lies in the list, and no
width or shift is out of range. -/
structure Survey.InBounds (found : Survey) (region : Region) : Prop where
  header : found.offset + Header.size found.pointerSize ≤ region.data.length
  list : found.listOffset + found.listLength ≤ region.data.length
  entry : ∀ index, index < found.entryCount →
    index * found.codec.entrySize + found.codec.entrySize ≤ found.listLength
  pointerSize_le : found.pointerSize ≤ 8
  registerWidth_le : found.header.registerWidth ≤ 8
  entrySize_pos : 0 < found.codec.entrySize
  entrySize_le : found.codec.entrySize ≤ 8
  /-- There are more bits in a packed entry than those that hold the width. -/
  lengthBits_lt : found.codec.lengthBits < 8 * found.codec.entrySize
  /-- A doubleword can be shifted by the bits that hold the displacement. -/
  displacementBits_lt : found.codec.displacementBits < 64

/-- The patch is one of an entry of the table, and its field is a doubleword at most and lies in the
region. -/
structure Patch.InBounds (patch : Patch) (found : Survey) (region : Region) : Prop where
  index_lt : patch.index < found.entryCount
  length_le : patch.entry.length ≤ 8
  stop_le : patch.entry.stop ≤ region.data.length

/-- All that a relocation of the region has referred to exists. -/
structure Run.InBounds (run : Run) (region : Region) : Prop where
  found : ∀ found, run.found = some found → found.InBounds region
  patches : ∀ patch ∈ run.patches, ∃ found, run.found = some found ∧ patch.InBounds found region
  registers : ∀ change ∈ run.registerChanges, change.register < 16
  length_eq : run.region.data.length = region.data.length

section Runs

variable {mode : AddressingMode} {region : Region} {table : Doubleword} {found : Survey}

/-- The references of a usable table. -/
lemma Survey.Usable.inBounds (h : found.Usable mode region table) : found.InBounds region where
  header := h.header_inside
  list := h.inside
  entry _ hindex := Survey.entry_inside hindex
  pointerSize_le := h.supported.trans (pointerSize_le_eight mode)
  registerWidth_le := by
    rw [h.registerWidth_eq]
    rcases h.pointerSize_cases with hsize | hsize <;> rw [hsize] <;> decide
  entrySize_pos := found.codec.entrySize_pos
  entrySize_le := found.codec.entrySize_le
  lengthBits_lt := by
    have hsize := found.codec.entrySize_cases
    have hbits := found.codec.lengthBits_cases
    omega
  displacementBits_lt := by
    have hle := found.codec.displacementBits_le
    omega

/-- Every patch of a run describes a field of at most eight bytes in the storage.  The entry was
read from a list that earlier patches may have changed, but it was checked as it was read. -/
theorem PatchRun.patch_inBounds {a : Adjustment} {count index : Nat} {storage : Storage}
    {patching : Patching} (h : PatchRun mode found a count index storage patching)
    (husable : found.Usable mode region table) (hbound : index + count ≤ found.entryCount)
    (hlength : storage.length = region.data.length) :
    ∀ patch ∈ patching.patches, patch.InBounds found region := by
  induction h with
  | done index storage => exact fun patch hpatch => absurd hpatch List.not_mem_nil
  | refused fault => exact fun patch hpatch => absurd hpatch List.not_mem_nil
  | @step count index storage rest faultless tail ih =>
    have hstop := Entry.stop_le_of_fault? faultless
    have hafter : ((found.patchAt mode a storage index).apply storage).length = storage.length :=
      Patch.length_apply hstop
    intro patch hpatch
    rcases List.mem_cons.mp hpatch with rfl | hmem
    · have hwidth : (found.entryAt storage index).length.toNat ≤ 8 :=
        (husable.length_entryAt_le storage index).trans (pointerSize_le_eight mode)
      refine ⟨?_, UInt8.le_iff_toNat_le.mpr hwidth, hstop.trans_eq hlength⟩
      change index < found.entryCount
      omega
    · exact ih (by omega) (hafter.trans hlength) patch hmem

/-- Exactly the given registers are adjusted, in order. -/
lemma registers_of_adjustRegisters {width : Nat} {a : Adjustment} {registers : List Nat}
    {area area' : SaveArea} {changes : List RegisterChange}
    (h : adjustRegisters mode width a registers area = .ok (changes, area')) :
    changes.map RegisterChange.register = registers := by
  induction registers generalizing area changes with
  | nil =>
    cases h
    rfl
  | cons register rest ih =>
    obtain ⟨before, -, h⟩ := Checked.bind_eq_ok_iff.mp h
    obtain ⟨area₁, -, h⟩ := Checked.bind_eq_ok_iff.mp h
    obtain ⟨⟨changes', area₂⟩, hrest, h⟩ := Checked.bind_eq_ok_iff.mp h
    cases h
    rw [List.map_cons, ih hrest]

/-- Whichever way a relocation ends, all it has referred to exists. -/
theorem Relocates.inBounds {saveArea : SaveArea} {mask : Option RegisterMask} {run : Run}
    (h : Relocates mode region table saveArea mask run) : run.InBounds region := by
  have hpatches {found : Survey} {patching : Patching} (husable : found.Usable mode region table)
      (hrun : PatchRun mode found (found.adjustment region) found.entryCount 0
        (found.mark region.data .inProgress) patching) :=
    hrun.patch_inBounds husable (by omega) (length_mark husable.header_inside .inProgress)
  cases h with
  | turnedDown hsurvey =>
    constructor <;> simp
  | faulty usable fault =>
    constructor
    · rintro found ⟨⟩
      exact usable.inBounds
    · simp
    · simp
    · rfl
  | broken usable faultless patchRun hrefusal =>
    constructor
    · rintro found ⟨⟩
      exact usable.inBounds
    · exact fun patch hpatch => ⟨_, rfl, hpatches usable patchRun patch hpatch⟩
    · simp
    · exact usable.length_patched patchRun
  | completed usable faultless patchRun hrefusal hregisters =>
    have hpatched := usable.length_patched patchRun
    constructor
    · rintro found ⟨⟩
      exact usable.inBounds
    · exact fun patch hpatch => ⟨_, rfl, hpatches usable patchRun patch hpatch⟩
    · intro change hchange
      have hmem := List.mem_map_of_mem (f := RegisterChange.register) hchange
      rw [registers_of_adjustRegisters hregisters] at hmem
      exact lt_of_mem_selectedRegisters hmem
    · exact (length_mark (usable.header_inside.trans_eq hpatched.symm) .completed).trans hpatched

end Runs

/-! ### What a listing refers to -/

/-- If the entries are shown, their list lies in the image and there are as many as it holds. -/
def Listing.InBounds (listing : Listing) (image : Region) : Prop :=
  ∀ shown, listing.entries = .ok shown →
    image.base ≤ listing.header.firstEntry ∧
    (listing.header.firstEntry - image.base).toNat + listing.header.listLength.toNat ≤
      image.data.length ∧
    shown.entries.length = listing.header.listLength.toNat / listing.header.entrySize.toNat

section Listings

variable {image : Region} {table : Doubleword}

/-- Showing the entries of a table is never stopped, and stays in the image. -/
lemma exists_listEntries {header : Header} {codec : EntryCodec}
    (hcodec : header.codec? = some codec) (image : Region) (table : Doubleword) :
    ∃ result, image.listEntries header = .ok result ∧
      Listing.InBounds ⟨table, header, result⟩ image := by
  unfold Region.listEntries
  split
  · exact ⟨_, rfl, by rintro shown ⟨⟩⟩
  split
  · exact ⟨_, rfl, by rintro shown ⟨⟩⟩
  · rename_i start hstart
    obtain ⟨hbase, rfl, hroom⟩ := offset?_eq_some_iff.mp hstart
    simp only [Storage.slice_eq hroom, Checked.ok_bind, Header.entries, hcodec,
      EntryCodec.readList_eq]
    refine ⟨_, rfl, ?_⟩
    rintro shown ⟨⟩
    refine ⟨hbase, hroom, ?_⟩
    rw [← (Header.codec?_eq_some_iff.mp hcodec).1, List.length_map, Storage.pieces, List.length_map,
      List.length_range, Storage.length_part hroom]

/-- Listing a table is never stopped, and stays in the image. -/
lemma exists_list (image : Region) (table : Doubleword) :
    ∃ result, image.list table = .ok result ∧
      ∀ listing, result = .ok listing → listing.InBounds image := by
  obtain ⟨result, hheader⟩ := exists_headerAt image table
  unfold Region.list
  rw [hheader, Checked.ok_bind]
  cases result with
  | error fault => exact ⟨_, rfl, by rintro listing ⟨⟩⟩
  | ok located =>
    obtain ⟨codec, hcodec⟩ := (headerAt_eq_ok_iff.mp hheader).exists_codec
    obtain ⟨entries, hentries, hbounds⟩ := exists_listEntries hcodec image table
    simp only [hentries, Checked.ok_bind, Checked.pure_eq_ok]
    refine ⟨_, rfl, ?_⟩
    rintro listing ⟨⟩
    exact hbounds

end Listings

/-- Whatever bytes a region holds, at whatever address it is loaded and wherever its table is said to
be, no relocation and no listing is stopped by a program check, and all they refer to exists. -/
theorem references_in_bounds (mode : AddressingMode) (region : Region) (table : Doubleword)
    (saveArea : SaveArea) (mask : Option RegisterMask) :
    (∃ run, relocate mode region table saveArea mask = .ok run ∧ run.InBounds region) ∧
      ∃ result, region.list table = .ok result ∧
        ∀ listing, result = .ok listing → listing.InBounds region := by
  obtain ⟨run, hrun, hways⟩ := exists_relocates mode region table saveArea mask
  exact ⟨⟨run, hrun, hways.inBounds⟩, exists_list region table⟩

/-- The first entry of the table in this storage describes the second, which points out of the region
when it is adjusted by `0x3000`. -/
def strayingImage : Storage :=
  [0x10, 0x04, 0x00, 0x00, 0x00, 0x00, 0x00, 0x00,
    0xD9, 0xC5, 0xD3, 0xD6, 0xC3, 0xE3, 0xC2, 0xD3, 0x00, 0x00, 0x10, 0x00, 0x00, 0x00, 0x10, 0x04,
    0x00, 0x00, 0x10, 0x26, 0x00, 0x00, 0x00, 0x02, 0x00, 0x00, 0x10, 0x29, 0x04, 0x00,
    0x40, 0x28, 0x40, 0x00]

/-- The entry that points out of the region by the time it is read is turned down, and nothing
outside the region is referred to. -/
theorem references_in_bounds_straying :
    ∃ run, relocate .bits31 ⟨0x4000, strayingImage⟩ 0x4008 .clear (some ⟨0xFFFF⟩) = .ok run ∧
      run.outcome = .error (.entryOutsideRegion 1 0x3000) ∧
      run.patches = [⟨0, ⟨2, 40⟩, 0x4000, 0x7000⟩] ∧ run.InBounds ⟨0x4000, strayingImage⟩ := by
  obtain ⟨⟨run, hrun, hbounds⟩, -⟩ :=
    references_in_bounds .bits31 ⟨0x4000, strayingImage⟩ 0x4008 .clear (some ⟨0xFFFF⟩)
  have hfacts : (relocate .bits31 ⟨0x4000, strayingImage⟩ 0x4008 .clear (some ⟨0xFFFF⟩)).map
      (fun run => (run.outcome, run.patches)) =
        .ok (.error (.entryOutsideRegion 1 0x3000), [⟨0, ⟨2, 40⟩, 0x4000, 0x7000⟩]) := by
    decide +kernel
  rw [hrun] at hfacts
  simp only [Except.map, Except.ok.injEq, Prod.mk.injEq] at hfacts
  exact ⟨run, hrun, hfacts.1, hfacts.2, hbounds⟩

end Relocation
