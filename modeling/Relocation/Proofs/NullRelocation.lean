import Relocation.Proofs.AddressArithmetic
import Relocation.Proofs.Registers

/-!
# Relocating to where the region was assembled

A region that is loaded where it was assembled needs no relocation, and asking for one does no harm:
every field is written back as it was read.  This holds for every table, also for one whose fields
overlap each other, the entry list or the header.  The status byte changes while the table is in
use, and a field or an entry that includes it is read with the change; but what is read there is
also what is written, so that each step of the patch loop leaves the storage as it is
(`PatchRun.storage_eq_of_null`).

The main result is `null_relocation`.
-/

namespace Relocation

/-- An address constant that does not move is written back as it was read. -/
lemma Entry.adjustIn_of_null {entry : Entry} {mode : AddressingMode} {a : Adjustment}
    {storage : Storage} (hnull : a.toInt = 0) (hlength : entry.length.toNat ≤ 8)
    (hstop : entry.stop ≤ storage.length) : entry.adjustIn mode a storage = storage := by
  have hfield := storage.toNat_field_lt entry.start hlength
  have hback : Doubleword.toBytes entry.length.toNat
      (storage.field entry.start entry.length.toNat) =
        storage.part entry.start entry.length.toNat := Storage.toBytes_field hstop hlength
  rw [adjustIn, AddressingMode.adjust_of_toInt_eq_zero hnull,
    Doubleword.truncate_eq_self_iff.mpr hfield, hback]
  exact Storage.put_part hstop

section Runs

variable {mode : AddressingMode} {region : Region} {table : Doubleword} {found : Survey}

/-- A run of the patch loop that moves nothing leaves the storage as it is, wherever its entries
point and however far it comes. -/
theorem PatchRun.storage_eq_of_null {a : Adjustment} {count index : Nat} {storage : Storage}
    {patching : Patching} (h : PatchRun mode found a count index storage patching)
    (husable : found.Usable mode region table) (hnull : a.toInt = 0) :
    patching.storage = storage := by
  induction h with
  | done index storage => rfl
  | refused fault => rfl
  | @step count index storage rest faultless tail ih =>
    have hlength := (husable.length_entryAt_le storage index).trans (pointerSize_le_eight mode)
    have hstep : (found.patchAt mode a storage index).apply storage = storage := by
      rw [Survey.apply_patchAt]
      exact Entry.adjustIn_of_null hnull hlength (Entry.stop_le_of_fault? faultless)
    exact ih.trans hstep

/-- The transfer address of a usable table has room in a register. -/
lemma Survey.Usable.transferAddress_lt (h : found.Usable mode region table) :
    found.header.transferAddress.toNat < 256 ^ found.header.registerWidth.toNat := by
  obtain ⟨-, -, hview⟩ := Header.locate_eq_some_iff.mp h.stands.locate_eq
  have hsize := h.supported.trans (pointerSize_le_eight mode)
  rw [h.toNat_registerWidth, show found.header = _ from hview]
  exact Storage.toNat_field_lt _ _ hsize

end Runs

/-- Relocating a region that is loaded where it was assembled leaves every byte but the status byte
of the table as it is, whatever the table describes and however the relocation ends.  If it
completes, the table is marked as completed, the transfer address is the one in the header, and the
selected registers are cut to the width of a register while the others are as before. -/
theorem null_relocation (mode : AddressingMode) (region : Region) (table : Doubleword)
    (saveArea : SaveArea) (mask : Option RegisterMask) {found : Survey}
    (hfound : survey mode region table = .ok (.ok found))
    (hbase : region.base = found.header.assembledBase) :
    ∃ run, relocate mode region table saveArea mask = .ok run ∧ run.region.base = region.base ∧
      run.region.data.length = region.data.length ∧
      (∀ i, i ≠ found.offset + Header.statusOffset found.pointerSize →
        run.region.data[i]? = region.data[i]?) ∧
      ∀ completion, run.outcome = .ok completion →
        run.region.data[found.offset + Header.statusOffset found.pointerSize]? = some 0xC0 ∧
        completion.transferAddress =
          (if found.header.transferAddress = 0 then none
          else some found.header.transferAddress) ∧
        ∀ register (_ : register < 16),
          (Selects mask register → run.saveArea.words[register].toNat =
            saveArea.words[register].toNat % 256 ^ found.header.registerWidth.toNat) ∧
          (¬ Selects mask register →
            run.saveArea.words[register] = saveArea.words[register]) := by
  have husable := survey_eq_ok_iff.mp hfound
  have hnull : (found.adjustment region).toInt = 0 := by
    rw [Survey.adjustment, Adjustment.toInt_between, hbase, Int.sub_self]
  have hinside := husable.header_inside
  obtain ⟨run, hrun, hways⟩ := exists_relocates mode region table saveArea mask
  refine ⟨run, hrun, ?_⟩
  cases hways with
  | turnedDown hsurvey =>
    rw [hfound] at hsurvey
    cases hsurvey
  | faulty usable fault =>
    exact ⟨rfl, rfl, fun i _ => rfl, fun completion hcompletion => by cases hcompletion⟩
  | broken usable faultless patchRun hrefusal =>
    obtain rfl := usable.unique husable
    have hstorage := patchRun.storage_eq_of_null husable hnull
    refine ⟨rfl, husable.length_patched patchRun, ?_, fun completion hcompletion => by
      cases hcompletion⟩
    intro i hi
    rw [hstorage, getElem?_mark hinside, if_neg hi]
  | completed usable faultless patchRun hrefusal hregisters =>
    obtain rfl := usable.unique husable
    have hstorage := patchRun.storage_eq_of_null husable hnull
    have hlength := husable.length_patched patchRun
    have hinside' := hinside.trans_eq hlength.symm
    refine ⟨rfl, (length_mark hinside' .completed).trans hlength, ?_, ?_⟩
    · intro i hi
      rw [getElem?_mark hinside', if_neg hi, hstorage, getElem?_mark hinside, if_neg hi]
    · rintro completion ⟨⟩
      refine ⟨?_, ?_, ?_⟩
      · rw [getElem?_mark hinside', if_pos rfl]
        rfl
      · rw [Survey.transferAddress, AddressingMode.adjust_of_toInt_eq_zero hnull,
          Doubleword.truncate_eq_self_iff.mpr husable.transferAddress_lt]
      · intro register hregister
        rw [getElem_adjustSelected hregisters register hregister]
        constructor
        · intro hselects
          rw [if_pos hselects, AddressingMode.adjust_of_toInt_eq_zero hnull,
            Doubleword.toNat_truncate]
        · intro hselects
          rw [if_neg hselects]

/-- The fields of the table in this storage overlap: the first covers the register width and the
status of the table and its own packed entry, the second shares two bytes with the third. -/
def overlappingImage : Storage :=
  [0x00, 0x00, 0x10, 0x04, 0x12, 0x34, 0x00, 0x00,
    0xD9, 0xC5, 0xD3, 0xD6, 0xC3, 0xE3, 0xC2, 0xD3, 0x00, 0x00, 0x10, 0x00, 0x00, 0x00, 0x10, 0x04,
    0x00, 0x00, 0x10, 0x26, 0x00, 0x00, 0x00, 0x02, 0x00, 0x00, 0x10, 0x2B, 0x04, 0x00,
    0xC0, 0x24, 0xC0, 0x00, 0xC0, 0x02]

/-- Relocating this storage to where it was assembled completes, changes the status byte only and
cuts the selected registers to four bytes. -/
theorem null_relocation_overlapping :
    ∃ found, survey .bits31 ⟨0x1000, overlappingImage⟩ 0x1008 = .ok (.ok found) ∧
      found.header.assembledBase = 0x1000 ∧
      ∃ run, relocate .bits31 ⟨0x1000, overlappingImage⟩ 0x1008
          ⟨Vector.replicate 16 0xFFFFFFFF80001004⟩ (some ⟨0xFFFF⟩) = .ok run ∧
        run.patches.map Patch.entry = [⟨4, 36⟩, ⟨4, 0⟩, ⟨4, 2⟩] ∧
        (∀ i, i ≠ 37 → run.region.data[i]? = overlappingImage[i]?) ∧
        run.region.data[37]? = some 0xC0 ∧
        run.saveArea.words[0] = 0xFFFFFFFF80001004 ∧ run.saveArea.words[1].toNat = 0x80001004 := by
  have hsurvey : survey .bits31 ⟨0x1000, overlappingImage⟩ 0x1008 = .ok (.ok
      { offset := 8, pointerSize := 4, codec := ⟨2, 2, by decide, by decide⟩, listOffset := 38
        listLength := 6
        header := ⟨Header.mark, 0x1000, 0x1004, 0x1026, 2, 0x102B, 4, .notStarted⟩ }) := by
    decide +kernel
  obtain ⟨run, hrun, -, -, hbytes, hcompleted⟩ := null_relocation .bits31
    ⟨0x1000, overlappingImage⟩ 0x1008 ⟨Vector.replicate 16 0xFFFFFFFF80001004⟩ (some ⟨0xFFFF⟩)
    hsurvey rfl
  have hfacts : (relocate .bits31 ⟨0x1000, overlappingImage⟩ 0x1008
      ⟨Vector.replicate 16 0xFFFFFFFF80001004⟩ (some ⟨0xFFFF⟩)).map
        (fun run => (run.outcome, run.patches.map Patch.entry)) =
      .ok (.ok ⟨some 0x1004, .up 0, 3, 14⟩, [⟨4, 36⟩, ⟨4, 0⟩, ⟨4, 2⟩]) := by
    decide +kernel
  rw [hrun] at hfacts
  simp only [Except.map, Except.ok.injEq, Prod.mk.injEq] at hfacts
  obtain ⟨hstatus, -, hregisters⟩ := hcompleted _ hfacts.1
  refine ⟨_, hsurvey, rfl, run, hrun, hfacts.2, hbytes, hstatus, ?_, ?_⟩
  · exact (hregisters 0 (by decide)).2 (by decide)
  · exact (hregisters 1 (by decide)).1 (by decide)

end Relocation
