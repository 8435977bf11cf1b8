import Relocation.Proofs.Relocate

/-!
# All or nothing

The entries of a table are checked twice: by the scan before anything is written, and again one by
one while the constants are patched.  Between the two the status byte is written and earlier patches
are made, so the second check can see other entries than the first.  This file shows that it does
not when the entry list stands apart from the status byte and from the fields it describes: then a
relocation either adjusts everything or changes nothing, and an entry that is at fault is the first
one at fault in the table as it was found (`relocate_all_or_nothing`).
-/

namespace Relocation

namespace Survey

/-- The entry list shares no byte with the status byte of the table or with a field that one of its
entries describes. -/
structure ListApart (found : Survey) (storage : Storage) : Prop where
  status : found.offset + Header.statusOffset found.pointerSize < found.listOffset ∨
    found.listOffset + found.listLength ≤ found.offset + Header.statusOffset found.pointerSize
  fields : ∀ i, i < found.entryCount →
    (found.entryAt storage i).ApartFrom found.listOffset (found.listOffset + found.listLength)

variable {found : Survey} {mode : AddressingMode} {region : Region} {table : Doubleword}

/-- Marking the table as in progress does not change its entries. -/
lemma ListApart.entryAt_mark (hapart : found.ListApart region.data)
    (h : found.Usable mode region table) {i : Nat} (hi : i < found.entryCount) :
    found.entryAt (found.mark region.data .inProgress) i = found.entryAt region.data i :=
  entryAt_congr (agreesOn_mark h.header_inside .inProgress hapart.status) hi

/-- Entries that passed the scan pass the second check too, and they are patched as they were
found. -/
theorem ListApart.of_patchRun (hapart : found.ListApart region.data)
    (h : found.Usable mode region table) (hfaultless : found.Faultless region.data)
    {a : Adjustment} {patching : Patching}
    (hrun : PatchRun mode found a found.entryCount 0 (found.mark region.data .inProgress)
      patching) :
    patching.refusal = none ∧ patching.patches.map Patch.entry =
      (List.range found.entryCount).map (found.entryAt region.data) := by
  have hlength := length_mark h.header_inside .inProgress
  obtain ⟨hrefusal, hentries⟩ := hrun.of_list_apart (by omega)
    (fun i _ hi => by
      rw [hapart.entryAt_mark h (by omega)]
      exact hapart.fields i (by omega))
    (fun i _ hi => by
      rw [hapart.entryAt_mark h (by omega), hlength]
      exact hfaultless i (by omega))
  refine ⟨hrefusal, ?_⟩
  rw [hentries, ← List.range_eq_range']
  apply List.map_congr_left
  intro i hi
  exact hapart.entryAt_mark h (List.mem_range.mp hi)

/-- Entries that passed the scan pass the second check too. -/
lemma ListApart.patchRun_refusal (hapart : found.ListApart region.data)
    (h : found.Usable mode region table) (hfaultless : found.Faultless region.data)
    {a : Adjustment} {patching : Patching}
    (hrun : PatchRun mode found a found.entryCount 0 (found.mark region.data .inProgress)
      patching) :
    patching.refusal = none :=
  (hapart.of_patchRun h hfaultless hrun).1

/-- What a relocation by the table has done that patched everything, with the given run of the patch
loop. -/
structure Completes (found : Survey) (mode : AddressingMode) (region : Region)
    (saveArea : SaveArea) (mask : Option RegisterMask) (patching : Patching) (run : Run) : Prop where
  patchRun : PatchRun mode found (found.adjustment region) found.entryCount 0
    (found.mark region.data .inProgress) patching
  registers : adjustRegisters mode found.header.registerWidth.toNat (found.adjustment region)
    (selectedRegisters mask) saveArea = .ok (run.registerChanges, run.saveArea)
  region_eq : run.region = { region with data := found.mark patching.storage .completed }
  outcome : run.outcome = .ok
    { transferAddress := found.transferAddress mode (found.adjustment region)
      adjustment := found.adjustment region
      entriesPatched := found.entryCount
      registersPatched := run.registerChanges.length }

/-- A relocation by a table without faults whose list stands apart patches everything. -/
theorem ListApart.exists_completes (hapart : found.ListApart region.data)
    (h : found.Usable mode region table) (hfaultless : found.Faultless region.data)
    (saveArea : SaveArea) (mask : Option RegisterMask) :
    ∃ run patching, relocate mode region table saveArea mask = .ok run ∧
      found.Completes mode region saveArea mask patching run := by
  obtain ⟨run, hrun, hways⟩ := exists_relocates mode region table saveArea mask
  cases hways with
  | turnedDown hsurvey =>
    rw [survey_eq_ok_iff.mpr h] at hsurvey
    cases hsurvey
  | faulty usable fault =>
    obtain rfl := usable.unique h
    exact absurd hfaultless fault.not_faultless
  | broken usable faultless patchRun hrefusal =>
    obtain rfl := usable.unique h
    rw [hapart.patchRun_refusal h hfaultless patchRun] at hrefusal
    cases hrefusal
  | @completed found' patching changes area usable faultless patchRun hrefusal hregisters =>
    obtain rfl := usable.unique h
    refine ⟨_, patching, hrun, patchRun, hregisters, rfl, ?_⟩
    rw [← patchRun.length_patches hrefusal]

end Survey

/-- When the entry list of a usable table stands apart from its status byte and from the fields it
describes, a relocation adjusts all of them or leaves the region and the registers as they were; the
reason for the latter is what the survey says or the first fault in the list.  The second check of
the entries never fails. -/
theorem relocate_all_or_nothing (mode : AddressingMode) (region : Region) (table : Doubleword)
    (saveArea : SaveArea) (mask : Option RegisterMask)
    (hapart : ∀ found, survey mode region table = .ok (.ok found) →
      found.ListApart region.data) :
    (∃ run, relocate mode region table saveArea mask = .ok run ∧
      ((∃ found completion, survey mode region table = .ok (.ok found) ∧
          run.outcome = .ok completion ∧ completion.entriesPatched =
            found.header.listLength.toNat / found.header.entrySize.toNat) ∨
        ∃ refusal, run.outcome = .error refusal ∧ run.region = region ∧
          run.saveArea = saveArea ∧
          (survey mode region table = .ok (.error refusal) ∨
            ∃ found, survey mode region table = .ok (.ok found) ∧
              found.FirstFault region.data refusal))) ∧
    ∀ found started, survey mode region table = .ok (.ok found) →
      scan mode region found = .ok (.ok ()) →
      Header.setStatus region.data found.offset found.pointerSize .inProgress = .ok started →
      ∃ patching, patchEntries mode found (found.adjustment region) found.entryCount 0 started =
        .ok patching ∧ patching.refusal = none := by
  constructor
  · obtain ⟨run, hrun, hways⟩ := exists_relocates mode region table saveArea mask
    refine ⟨run, hrun, ?_⟩
    cases hways with
    | @turnedDown refusal hsurvey =>
      exact Or.inr ⟨refusal, rfl, rfl, rfl, Or.inl hsurvey⟩
    | @faulty found refusal usable fault =>
      exact Or.inr ⟨refusal, rfl, rfl, rfl, Or.inr ⟨found, survey_eq_ok_iff.mpr usable, fault⟩⟩
    | @broken found patching refusal usable faultless patchRun hrefusal =>
      have hlist := hapart found (survey_eq_ok_iff.mpr usable)
      rw [hlist.patchRun_refusal usable faultless patchRun] at hrefusal
      cases hrefusal
    | @completed found patching changes area usable faultless patchRun hrefusal hregisters =>
      refine Or.inl ⟨found, _, survey_eq_ok_iff.mpr usable, rfl, ?_⟩
      rw [patchRun.length_patches hrefusal, Survey.entryCount, usable.listLength_eq,
        usable.entrySize_eq]
  · intro found started hsurvey hscan hstarted
    have husable := survey_eq_ok_iff.mp hsurvey
    rw [setStatus_eq husable.header_inside] at hstarted
    cases hstarted
    have hfaultless : found.Faultless region.data := by
      rcases scan_cases husable with ⟨-, hfaultless⟩ | ⟨refusal, herror, -⟩
      · exact hfaultless
      · rw [hscan] at herror
        cases herror
    obtain ⟨patching, hpatching, hrun⟩ := exists_patchRun husable (found.adjustment region)
      found.entryCount 0 (found.mark region.data .inProgress)
      (husable.inside.trans_eq (length_mark husable.header_inside .inProgress).symm) (by omega)
    exact ⟨patching, hpatching, (hapart found hsurvey).patchRun_refusal husable hfaultless hrun⟩

/-- The second entry of the table in this storage is too short, the first is in order. -/
def shortEntryImage : Storage :=
  [0x00, 0x00, 0x10, 0x04, 0x00, 0x00, 0x00, 0x00,
    0xD9, 0xC5, 0xD3, 0xD6, 0xC3, 0xE3, 0xC2, 0xD3, 0x00, 0x00, 0x10, 0x00, 0x00, 0x00, 0x10, 0x04,
    0x00, 0x00, 0x10, 0x26, 0x00, 0x00, 0x00, 0x02, 0x00, 0x00, 0x10, 0x29, 0x04, 0x00,
    0xC0, 0x00, 0x00, 0x04]

/-- The list of the table with a short entry stands apart, and the relocation changes nothing. -/
theorem relocate_short_entry_nothing :
    (∀ found, survey .bits31 ⟨0x5000, shortEntryImage⟩ 0x5008 = .ok (.ok found) →
      found.ListApart shortEntryImage) ∧
    ∃ run, relocate .bits31 ⟨0x5000, shortEntryImage⟩ 0x5008 .clear (some ⟨0xFFFF⟩) = .ok run ∧
      run.outcome = .error (.badEntryLength 1 1) ∧ run.region = ⟨0x5000, shortEntryImage⟩ ∧
      run.saveArea = .clear := by
  have hapart : ∀ found, survey .bits31 ⟨0x5000, shortEntryImage⟩ 0x5008 = .ok (.ok found) →
      found.ListApart shortEntryImage := by
    intro found hfound
    have hsurvey : survey .bits31 ⟨0x5000, shortEntryImage⟩ 0x5008 = .ok (.ok
        { offset := 8, pointerSize := 4, codec := ⟨2, 2, by decide, by decide⟩, listOffset := 38
          listLength := 4
          header := ⟨Header.mark, 0x1000, 0x1004, 0x1026, 2, 0x1029, 4, .notStarted⟩ }) := by
      decide +kernel
    rw [hsurvey] at hfound
    cases hfound
    exact ⟨by decide, by decide +kernel⟩
  obtain ⟨⟨run, hrun, hways⟩, -⟩ := relocate_all_or_nothing .bits31 ⟨0x5000, shortEntryImage⟩
    0x5008 .clear (some ⟨0xFFFF⟩) hapart
  have houtcome : (relocate .bits31 ⟨0x5000, shortEntryImage⟩ 0x5008 .clear
      (some ⟨0xFFFF⟩)).map Run.outcome = .ok (.error (.badEntryLength 1 1)) := by decide +kernel
  rw [hrun] at houtcome
  have houtcome := Except.ok.inj houtcome
  refine ⟨hapart, run, hrun, houtcome, ?_⟩
  rcases hways with ⟨_, _, _, hok, _⟩ | ⟨refusal, -, hregion, hregisters, -⟩
  · rw [houtcome] at hok
    cases hok
  · exact ⟨hregion, hregisters⟩

end Relocation
