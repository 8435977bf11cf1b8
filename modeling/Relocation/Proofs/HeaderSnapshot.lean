import Relocation.Proofs.Registers
import Relocation.Run.Disposition

/-!
# What a relocation takes from the header

A table may describe its own header, and then patching changes the base, the transfer address or the
register width that the header holds.  None of that has a part in the rest of the relocation: the
registers and the transfer address are adjusted by the header as it was found before the first byte
was written (`completion_follows_header`).

A starting program does not call for its relocation directly, and may do so with a mask that selects
no register.  Such a mask is as good as none, with or without the detour (`invoke_eq_relocate`), and
the disposition that the program gets stands for the return code of the relocation.
-/

namespace Relocation

/-! ### Selected registers -/

/-- A mask without bits has no registers. -/
lemma RegisterMask.registers_eq_nil {mask : RegisterMask} (h : mask.isEmpty = true) :
    mask.registers = [] := by
  have hzero : mask.bits = 0 := by simpa [isEmpty] using h
  simp [registers, hzero, scan]

/-- An empty mask selects what no mask selects. -/
lemma selectedRegisters_filter (mask : Option RegisterMask) :
    selectedRegisters (mask.filter fun m => !m.isEmpty) = selectedRegisters mask := by
  cases mask with
  | none => rfl
  | some mask =>
    cases hempty : mask.isEmpty with
    | true => simp [selectedRegisters, Option.filter, hempty, mask.registers_eq_nil hempty]
    | false => simp [selectedRegisters, Option.filter, hempty]

/-- The selected registers are counted among the sixteen. -/
lemma length_selectedRegisters (mask : Option RegisterMask) :
    (selectedRegisters mask).length =
      (List.range 16).countP fun register => Selects mask register := by
  have hperm : (selectedRegisters mask).Perm
      ((List.range 16).filter fun register => Selects mask register) := by
    refine (List.perm_ext_iff_of_nodup (nodup_selectedRegisters mask)
      (List.nodup_range.filter _)).mpr ?_
    intro register
    rw [List.mem_filter, List.mem_range, decide_eq_true_eq, mem_selectedRegisters_iff]
    constructor
    · rintro ⟨hone, hfourteen, hmask⟩
      exact ⟨by omega, hone, hfourteen, hmask⟩
    · rintro ⟨-, hselects⟩
      exact hselects
  rw [hperm.length_eq, List.countP_eq_length_filter]

/-! ### The caller's side -/

/-- The return code of a relocation. -/
def Run.returnCode (run : Run) : Nat :=
  match run.outcome with
  | .ok completion => completion.returnCode
  | .error refusal => refusal.returnCode

/-- The disposition keeps the return code. -/
lemma Run.returnCode_disposition (run : Run) :
    run.disposition.returnCode = run.returnCode := by
  unfold disposition returnCode Disposition.ofOutcome
  cases run.outcome with
  | error refusal => rfl
  | ok completion =>
    cases htransfer : completion.transferAddress with
    | none => simp [Disposition.returnCode, Completion.returnCode, htransfer]
    | some address => simp [Disposition.returnCode, Completion.returnCode, htransfer]

/-- Of a mask a relocation uses the registers that it selects, and nothing else. -/
lemma relocate_congr_mask {mask mask' : Option RegisterMask}
    (h : selectedRegisters mask = selectedRegisters mask') (mode : AddressingMode)
    (region : Region) (table : Doubleword) (saveArea : SaveArea) :
    relocate mode region table saveArea mask = relocate mode region table saveArea mask' := by
  unfold selectedRegisters at h
  simp only [relocate, relocateFound, h]

/-- Asking for a relocation on behalf of a program is making it. -/
theorem invoke_eq_relocate (mode : AddressingMode) (region : Region) (table : Doubleword)
    (saveArea : SaveArea) (mask : Option RegisterMask) :
    invoke mode region table saveArea mask = relocate mode region table saveArea mask :=
  relocate_congr_mask (selectedRegisters_filter mask) mode region table saveArea

/-! ### The header as it was found -/

/-- What a completed relocation did to the registers and told its caller, by the header that was
found in the region. -/
structure FollowsHeader (located : FoundHeader) (mode : AddressingMode) (region : Region)
    (saveArea : SaveArea) (mask : Option RegisterMask) (run : Run) (completion : Completion) :
    Prop where
  adjustment : completion.adjustment = .between located.header.assembledBase region.base
  /-- A selected register is adjusted once. -/
  selected : ∀ register (_ : register < 16), Selects mask register →
    run.saveArea.words[register] = mode.adjust saveArea.words[register]
      located.header.registerWidth.toNat completion.adjustment
  others : ∀ register (_ : register < 16), ¬ Selects mask register →
    run.saveArea.words[register] = saveArea.words[register]
  registersPatched : completion.registersPatched =
    (List.range 16).countP fun register => Selects mask register
  transferAddress : completion.transferAddress =
    if located.header.transferAddress = 0 then none
    else some (mode.adjust located.header.transferAddress located.header.registerWidth.toNat
      completion.adjustment)
  /-- The status byte says that the table was used. -/
  status : run.region.data[located.offset + Header.statusOffset located.pointerSize]? = some 0xC0

/-- A relocation that completes adjusts the selected registers and the transfer address by the header
as it was found before anything was written, whatever the table describes, and leaves the table
marked as completed.  However it ends, asking for it on behalf of a program gives the same run, with
its return code in the disposition. -/
theorem completion_follows_header (mode : AddressingMode) (region : Region) (table : Doubleword)
    (saveArea : SaveArea) (mask : Option RegisterMask) :
    ∃ run, relocate mode region table saveArea mask = .ok run ∧
      (∀ completion, run.outcome = .ok completion →
        ∃ located, region.headerAt table = .ok (.ok located) ∧
          FollowsHeader located mode region saveArea mask run completion) ∧
      invoke mode region table saveArea mask = .ok run ∧
      run.disposition.returnCode = run.returnCode := by
  obtain ⟨run, hrun, hways⟩ := exists_relocates mode region table saveArea mask
  refine ⟨run, hrun, ?_, (invoke_eq_relocate mode region table saveArea mask).trans hrun,
    run.returnCode_disposition⟩
  intro completion houtcome
  cases hways with
  | turnedDown hsurvey => cases houtcome
  | faulty usable fault => cases houtcome
  | broken usable faultless patchRun hrefusal => cases houtcome
  | completed usable faultless patchRun hrefusal hregisters =>
    cases houtcome
    have hinside := usable.header_inside.trans_eq (usable.length_patched patchRun).symm
    refine ⟨_, headerAt_eq_ok_iff.mpr usable.stands, rfl, ?_, ?_, ?_, rfl, ?_⟩
    · intro register hregister hselects
      rw [getElem_adjustSelected hregisters register hregister, if_pos hselects]
    · intro register hregister hselects
      rw [getElem_adjustSelected hregisters register hregister, if_neg hselects]
    · exact (length_adjustRegisters hregisters).trans (length_selectedRegisters mask)
    · rw [getElem?_mark hinside, if_pos rfl]
      rfl

/-- The table in this storage changes what is left of its own list and then its own header: the first
field is the second entry, which comes to describe the transfer address, the third field is the
assembled base, and the last one ends with the register width. -/
def rewritingImage : Storage :=
  [0x00, 0x00, 0x10, 0x04, 0x00, 0x00, 0x00, 0x00,
    0xD9, 0xC5, 0xD3, 0xD6, 0xC3, 0xE3, 0xC2, 0xD3, 0x00, 0x00, 0x10, 0x00, 0x00, 0x00, 0x10, 0x04,
    0x00, 0x00, 0x10, 0x26, 0x00, 0x00, 0x00, 0x02, 0x00, 0x00, 0x10, 0x2D, 0x04, 0x00,
    0x40, 0x28, 0xC0, 0x10, 0xC0, 0x10, 0x40, 0x23]

/-- Loaded four bytes further on, this storage is left with a header of another base, transfer address
and register width, but the register that is selected is adjusted as one of four bytes and the
transfer address is moved once. -/
theorem completion_follows_header_rewriting :
    ∃ run completion, relocate .bits31 ⟨0x1004, rewritingImage⟩ 0x100C
        ⟨Vector.replicate 16 0xFFFFFFFF80001004⟩ (some ⟨0xC001⟩) = .ok run ∧
      run.outcome = .ok completion ∧
      run.region.data.part 16 8 = [0x00, 0x00, 0x10, 0x04, 0x00, 0x00, 0x10, 0x08] ∧
      run.region.data.part 36 2 = [0x08, 0xC0] ∧
      (∀ register (_ : register < 16), run.saveArea.words[register] =
        if register = 1 then 0x80001008 else 0xFFFFFFFF80001004) ∧
      completion.registersPatched = 1 ∧ completion.transferAddress = some 0x1008 ∧
      invoke .bits31 ⟨0x1004, rewritingImage⟩ 0x100C ⟨Vector.replicate 16 0xFFFFFFFF80001004⟩
        (some ⟨0xC001⟩) = .ok run ∧
      run.disposition.returnCode = 0 := by
  obtain ⟨run, hrun, hcompleted, hinvoke, hcode⟩ := completion_follows_header .bits31
    ⟨0x1004, rewritingImage⟩ 0x100C ⟨Vector.replicate 16 0xFFFFFFFF80001004⟩ (some ⟨0xC001⟩)
  have hfacts : (relocate .bits31 ⟨0x1004, rewritingImage⟩ 0x100C
      ⟨Vector.replicate 16 0xFFFFFFFF80001004⟩ (some ⟨0xC001⟩)).map
        (fun run => (run.outcome, run.region.data.part 16 8, run.region.data.part 36 2)) =
      .ok (.ok ⟨some 0x1008, .up 4, 4, 1⟩, [0x00, 0x00, 0x10, 0x04, 0x00, 0x00, 0x10, 0x08],
        [0x08, 0xC0]) := by
    decide +kernel
  have hheader : Region.headerAt ⟨0x1004, rewritingImage⟩ 0x100C = .ok (.ok
      ⟨8, 4, ⟨Header.mark, 0x1000, 0x1004, 0x1026, 2, 0x102D, 4, .notStarted⟩⟩) := by
    decide +kernel
  rw [hrun] at hfacts
  simp only [Except.map, Except.ok.injEq, Prod.mk.injEq] at hfacts
  obtain ⟨houtcome, hbytes, hwidth⟩ := hfacts
  obtain ⟨located, hlocated, hfollows⟩ := hcompleted _ houtcome
  rw [hheader] at hlocated
  cases hlocated
  refine ⟨run, _, hrun, houtcome, hbytes, hwidth, ?_, hfollows.registersPatched,
    hfollows.transferAddress, hinvoke, ?_⟩
  · intro register hregister
    -- registers 0 and 15 are in the mask, but they are never selected
    have hone : ∀ register < 16, Selects (some ⟨0xC001⟩) register ↔ register = 1 := by decide
    by_cases h : register = 1
    · have hselects := (hone register hregister).mpr h
      rw [if_pos h, hfollows.selected register hregister hselects, Vector.getElem_replicate]
      decide
    · have hselects := mt (hone register hregister).mp h
      rw [if_neg h, hfollows.others register hregister hselects, Vector.getElem_replicate]
  · rw [hcode, Run.returnCode, houtcome]
    rfl

end Relocation
