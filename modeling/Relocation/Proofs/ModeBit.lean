import Relocation.Proofs.AddressArithmetic
import Relocation.Proofs.DisjointFields
import Relocation.Proofs.Registers

/-!
# The mode bit under 31-bit and under 64-bit addresses

A table with four-byte pointers can be used with 31-bit and with 64-bit addresses.  The two treat a
four-byte value differently in one place: with 31-bit addresses the leftmost bit is the mode bit and
stays as it is, with 64-bit addresses it takes part in the sum.  So they agree on the other 31 bits,
and they agree on the leftmost bit exactly when the sum carries out of those 31 bits an even number
of times (`AddressingMode.adjust_fullword_eq_iff`).

The main result, `modes_agree_up_to_mode_bit`, carries this from one value to a whole relocation by
a table that does not interfere with itself.
-/

namespace Relocation

/-! ### One value -/

/-- Moving an address by the distance carries out of its 31 bits an even number of times.  A move
towards lower addresses borrows, which counts as a carry below zero. -/
def CarriesEvenly (value : Nat) (distance : Int) : Prop :=
  Even (((value % 2 ^ 31 : Nat) + distance) / 2 ^ 31)

instance (value : Nat) (distance : Int) : Decidable (CarriesEvenly value distance) :=
  inferInstanceAs (Decidable (Even _))

/-- The carries depend on the low-order four bytes of a value only. -/
lemma carriesEvenly_mod (value : Nat) (distance : Int) :
    CarriesEvenly (value % 2 ^ 32) distance ↔ CarriesEvenly value distance := by
  rw [CarriesEvenly, CarriesEvenly, Nat.mod_mod_of_dvd _ (pow_dvd_pow 2 (by decide : 31 ≤ 32))]

namespace AddressingMode

/-- The two modes treat values of other than four bytes alike. -/
lemma adjust_bits31_eq_bits64 {length : Nat} (h : length ≠ 4) (value : Doubleword)
    (a : Adjustment) : bits31.adjust value length a = bits64.adjust value length a := by
  simp [adjust, h]

/-- A four-byte value under 31-bit addresses: the leftmost bit stays. -/
lemma toNat_adjust_bits31 (value : Doubleword) (a : Adjustment) :
    ((bits31.adjust value 4 a).toNat : Int) =
      (value.toNat % 2 ^ 32 / 2 ^ 31 * 2 ^ 31 : Nat) + (value.toNat + a.toInt) % 2 ^ 31 :=
  bits31.toNat_adjust value 4 a

/-- A four-byte value under 64-bit addresses: all bits take part in the sum. -/
lemma toNat_adjust_bits64 (value : Doubleword) (a : Adjustment) :
    ((bits64.adjust value 4 a).toNat : Int) = (value.toNat + a.toInt) % 2 ^ 32 := by
  have hsum := bits64.toNat_adjust value 4 a
  have hbits : bits64.addressBits 4 = 32 := rfl
  rw [hbits] at hsum
  omega

/-- Under both modes a four-byte value gets the same low-order 31 bits. -/
lemma adjust_fullword_mod (value : Doubleword) (a : Adjustment) :
    (bits31.adjust value 4 a).toNat % 2 ^ 31 = (bits64.adjust value 4 a).toNat % 2 ^ 31 := by
  have hkept := toNat_adjust_bits31 value a
  have hsum := toNat_adjust_bits64 value a
  omega

/-- Under both modes a four-byte value becomes the same exactly when the sum carries evenly. -/
theorem adjust_fullword_eq_iff (value : Doubleword) (a : Adjustment) :
    bits31.adjust value 4 a = bits64.adjust value 4 a ↔ CarriesEvenly value.toNat a.toInt := by
  have hkept := toNat_adjust_bits31 value a
  have hsum := toNat_adjust_bits64 value a
  rw [CarriesEvenly, Int.even_iff, ← UInt64.toNat_inj]
  omega

/-- The same for the bytes that are written. -/
lemma toBytes_adjust_fullword_eq_iff (value : Doubleword) (a : Adjustment) :
    Doubleword.toBytes 4 (bits31.adjust value 4 a) =
        Doubleword.toBytes 4 (bits64.adjust value 4 a) ↔
      CarriesEvenly value.toNat a.toInt := by
  have hkept := toNat_adjust_bits31 value a
  have hsum := toNat_adjust_bits64 value a
  have hlt : (bits31.adjust value 4 a).toNat < 256 ^ 4 := by omega
  have hlt' : (bits64.adjust value 4 a).toNat < 256 ^ 4 := by omega
  rw [Doubleword.toBytes_inj_iff (by decide), Nat.mod_eq_of_lt hlt, Nat.mod_eq_of_lt hlt',
    UInt64.toNat_inj, adjust_fullword_eq_iff]

end AddressingMode

/-! ### A whole relocation -/

/-- How far the region was moved from where it was assembled. -/
def Survey.distance (found : Survey) (region : Region) : Int :=
  region.base.toNat - found.header.assembledBase.toNat

/-- The adjustment of a relocation is its distance. -/
lemma Survey.toInt_adjustment (found : Survey) (region : Region) :
    (found.adjustment region).toInt = found.distance region :=
  Adjustment.toInt_between _ _

/-- What two completed relocations of one region by the same table, the first under 31-bit and the
second under 64-bit addresses, have in common. -/
structure AgreeUpToModeBit (found : Survey) (region : Region) (saveArea : SaveArea)
    (mask : Option RegisterMask) (run run' : Run) (completion completion' : Completion) :
    Prop where
  adjustment : completion.adjustment = completion'.adjustment
  entriesPatched : completion.entriesPatched = completion'.entriesPatched
  registersPatched : completion.registersPatched = completion'.registersPatched
  length : run.region.data.length = run'.region.data.length
  /-- Outside the fields of four bytes no byte differs. -/
  bytes : ∀ i, (∀ j, j < found.entryCount → (found.entryAt region.data j).length = 4 →
      i < (found.entryAt region.data j).start ∨ (found.entryAt region.data j).stop ≤ i) →
    run.region.data[i]? = run'.region.data[i]?
  /-- A field of four bytes differs in its leftmost bit at most. -/
  lowBits : ∀ j, j < found.entryCount → (found.entryAt region.data j).length = 4 →
    (run.region.data.field (found.entryAt region.data j).start 4).toNat % 2 ^ 31 =
      (run'.region.data.field (found.entryAt region.data j).start 4).toNat % 2 ^ 31
  fields : ∀ j, j < found.entryCount → (found.entryAt region.data j).length = 4 →
    (run.region.data.part (found.entryAt region.data j).start 4 =
        run'.region.data.part (found.entryAt region.data j).start 4 ↔
      CarriesEvenly (region.data.field (found.entryAt region.data j).start 4).toNat
        (found.distance region))
  registers : ∀ register (_ : register < 16), Selects mask register →
    (run.saveArea.words[register] = run'.saveArea.words[register] ↔
      CarriesEvenly (saveArea.words[register].toNat % 2 ^ 32) (found.distance region))
  others : ∀ register (_ : register < 16), ¬ Selects mask register →
    run.saveArea.words[register] = run'.saveArea.words[register]
  /-- Without a transfer address there is nothing to differ in. -/
  transferAddress : completion.transferAddress = completion'.transferAddress ↔
    found.header.transferAddress = 0 ∨
      CarriesEvenly found.header.transferAddress.toNat (found.distance region)

section Agreement

variable {found : Survey} {region : Region} {table : Doubleword} {saveArea : SaveArea}
  {mask : Option RegisterMask}

/-- Storage that was relocated under the two modes is the same outside the fields of four bytes. -/
lemma Survey.Relocated.getElem?_eq_bits64 {a : Adjustment} {before after after' : Storage}
    (h : found.Relocated .bits31 a before after) (h' : found.Relocated .bits64 a before after')
    {i : Nat} (houtside : ∀ j, j < found.entryCount → (found.entryAt before j).length = 4 →
      i < (found.entryAt before j).start ∨ (found.entryAt before j).stop ≤ i) :
    after[i]? = after'[i]? := by
  apply h.getElem?_eq h'
  intro j hj hstart hstop value
  apply AddressingMode.adjust_bits31_eq_bits64
  intro hfour
  have hlength : (found.entryAt before j).length = 4 := UInt8.toNat_inj.mp hfour
  rcases houtside j hj hlength with hfront | hbehind
  · omega
  · omega

/-- The contents of a four-byte field after a relocation. -/
lemma Survey.Relocated.part_fullword {mode : AddressingMode} {a : Adjustment}
    {before after : Storage} (h : found.Relocated mode a before after) {j : Nat}
    (hj : j < found.entryCount) (hfour : (found.entryAt before j).length = 4) :
    after.part (found.entryAt before j).start 4 =
      Doubleword.toBytes 4
        (mode.adjust (before.field (found.entryAt before j).start 4) 4 a) := by
  have hlength : (found.entryAt before j).length.toNat = 4 := by
    rw [hfour]
    rfl
  have hfield := h.fields j hj
  rwa [hlength] at hfield

/-- Completed relocations under the two modes, by a table that does not interfere with itself, agree
up to the mode bit. -/
lemma Survey.TableApart.agreeUpToModeBit (hapart : found.TableApart region.data)
    (h : found.Usable .bits31 region table) (h' : found.Usable .bits64 region table)
    (hfour : found.pointerSize = 4) (hfaultless : found.Faultless region.data)
    {run run' : Run} {patching patching' : Patching}
    (hcompletes : found.Completes .bits31 region saveArea mask patching run)
    (hcompletes' : found.Completes .bits64 region saveArea mask patching' run')
    {completion completion' : Completion} (houtcome : run.outcome = .ok completion)
    (houtcome' : run'.outcome = .ok completion') :
    AgreeUpToModeBit found region saveArea mask run run' completion completion' := by
  obtain ⟨hrun, hregisters, hregion, hreport⟩ := hcompletes
  obtain ⟨hrun', hregisters', hregion', hreport'⟩ := hcompletes'
  obtain rfl := Except.ok.inj (hreport.symm.trans houtcome)
  obtain rfl := Except.ok.inj (hreport'.symm.trans houtcome')
  have hafter : found.Relocated .bits31 (found.adjustment region) region.data run.region.data := by
    rw [hregion]
    exact hapart.relocated h hfaultless hrun
  have hafter' : found.Relocated .bits64 (found.adjustment region) region.data
      run'.region.data := by
    rw [hregion']
    exact hapart.relocated h' hfaultless hrun'
  have hwidth : found.header.registerWidth.toNat = 4 := h.toNat_registerWidth.trans hfour
  rw [hwidth] at hregisters hregisters'
  have hdistance := found.toInt_adjustment region
  refine ⟨rfl, rfl, ?_, ?_, ?_, ?_, ?_, ?_, ?_, ?_⟩
  · dsimp only
    rw [length_adjustRegisters hregisters, length_adjustRegisters hregisters']
  · rw [hafter.length, hafter'.length]
  · intro i houtside
    exact hafter.getElem?_eq_bits64 hafter' houtside
  · intro j hj hlength
    rw [Storage.field, Storage.field, hafter.part_fullword hj hlength,
      hafter'.part_fullword hj hlength, Doubleword.toNat_ofBytes_toBytes (by decide),
      Doubleword.toNat_ofBytes_toBytes (by decide)]
    have hdvd : 2 ^ 31 ∣ 256 ^ 4 := by norm_num
    rw [Nat.mod_mod_of_dvd _ hdvd, Nat.mod_mod_of_dvd _ hdvd]
    exact AddressingMode.adjust_fullword_mod _ _
  · intro j hj hlength
    rw [hafter.part_fullword hj hlength, hafter'.part_fullword hj hlength,
      AddressingMode.toBytes_adjust_fullword_eq_iff, hdistance]
  · intro register hregister hselects
    rw [getElem_adjustSelected hregisters register hregister,
      getElem_adjustSelected hregisters' register hregister, if_pos hselects, if_pos hselects,
      AddressingMode.adjust_fullword_eq_iff, carriesEvenly_mod, hdistance]
  · intro register hregister hselects
    rw [getElem_adjustSelected hregisters register hregister,
      getElem_adjustSelected hregisters' register hregister, if_neg hselects, if_neg hselects]
  · dsimp only
    rw [Survey.transferAddress, Survey.transferAddress, hwidth]
    by_cases hzero : found.header.transferAddress = 0
    · simp [hzero]
    · rw [if_neg hzero, if_neg hzero, Option.some_inj, AddressingMode.adjust_fullword_eq_iff,
        hdistance]
      simp [hzero]

end Agreement

/-- A region whose table has four-byte pointers and does not interfere with itself is relocated
under 31-bit and under 64-bit addresses with the same refusal, or completely under both.  The two
results then differ in the leftmost bit of four-byte values at most, and where the sum carries
evenly they do not differ there either. -/
theorem modes_agree_up_to_mode_bit (region : Region) (table : Doubleword) (saveArea : SaveArea)
    (mask : Option RegisterMask) {located : FoundHeader}
    (hlocated : region.headerAt table = .ok (.ok located)) (hfour : located.pointerSize = 4)
    (hapart : ∀ found, survey .bits31 region table = .ok (.ok found) →
      found.TableApart region.data) :
    ∃ run run', relocate .bits31 region table saveArea mask = .ok run ∧
      relocate .bits64 region table saveArea mask = .ok run' ∧
      ((∃ refusal, run.outcome = .error refusal ∧ run'.outcome = .error refusal) ∨
        ∃ found completion completion', survey .bits31 region table = .ok (.ok found) ∧
          run.outcome = .ok completion ∧ run'.outcome = .ok completion' ∧
          AgreeUpToModeBit found region saveArea mask run run' completion completion') := by
  have hsame : survey .bits31 region table = survey .bits64 region table :=
    survey_eq_of_supported hlocated (by rw [hfour]; decide) (by rw [hfour]; decide)
  obtain ⟨result, hsurvey⟩ := exists_survey .bits31 region table
  have hsurvey' := hsame.symm.trans hsurvey
  cases result with
  | error refusal =>
    exact ⟨_, _, relocate_of_turnedDown hsurvey saveArea mask,
      relocate_of_turnedDown hsurvey' saveArea mask, Or.inl ⟨refusal, rfl, rfl⟩⟩
  | ok found =>
    have h := survey_eq_ok_iff.mp hsurvey
    have h' := survey_eq_ok_iff.mp hsurvey'
    have hpointer : found.pointerSize = 4 := by
      have hstands := (headerAt_eq_ok_iff.mpr h.stands).symm.trans hlocated
      rw [← hfour, ← Except.ok.inj (Except.ok.inj hstands)]
    rcases scan_cases h with ⟨-, hfaultless⟩ | ⟨refusal, -, hfault⟩
    · have htable := hapart found hsurvey
      obtain ⟨run, patching, hrelocate, hcompletes⟩ :=
        htable.listApart.exists_completes h hfaultless saveArea mask
      obtain ⟨run', patching', hrelocate', hcompletes'⟩ :=
        htable.listApart.exists_completes h' hfaultless saveArea mask
      exact ⟨run, run', hrelocate, hrelocate', Or.inr ⟨found, _, _, hsurvey, hcompletes.outcome,
        hcompletes'.outcome, htable.agreeUpToModeBit h h' hpointer hfaultless hcompletes
          hcompletes' hcompletes.outcome hcompletes'.outcome⟩⟩
    · exact ⟨_, _, relocate_of_firstFault h hfault saveArea mask,
        relocate_of_firstFault h' hfault saveArea mask, Or.inl ⟨refusal, rfl, rfl⟩⟩

/-- Two words, one on each side of where a move by `0x7FFFF000` carries, and a table of them. -/
def carryingImage : Storage :=
  [0x00, 0x00, 0x10, 0x04, 0x00, 0x00, 0x0F, 0xFC,
    0xD9, 0xC5, 0xD3, 0xD6, 0xC3, 0xE3, 0xC2, 0xD3, 0x00, 0x00, 0x10, 0x00, 0x00, 0x00, 0x10, 0x04,
    0x00, 0x00, 0x10, 0x26, 0x00, 0x00, 0x00, 0x02, 0x00, 0x00, 0x10, 0x29, 0x04, 0x00,
    0xC0, 0x00, 0xC0, 0x04]

/-- Loaded at `0x80000000`, the first of the two words and the transfer address depend on the mode,
the second word and the registers do not. -/
theorem modes_agree_up_to_mode_bit_carrying :
    (∃ located, Region.headerAt ⟨0x80000000, carryingImage⟩ 0x80000008 = .ok (.ok located) ∧
      located.pointerSize = 4) ∧
    (∀ found, survey .bits31 ⟨0x80000000, carryingImage⟩ 0x80000008 = .ok (.ok found) →
      found.TableApart carryingImage) ∧
    ∃ run run' completion completion',
      relocate .bits31 ⟨0x80000000, carryingImage⟩ 0x80000008 .clear (some ⟨0xFFFF⟩) = .ok run ∧
      relocate .bits64 ⟨0x80000000, carryingImage⟩ 0x80000008 .clear (some ⟨0xFFFF⟩) = .ok run' ∧
      run.outcome = .ok completion ∧ run'.outcome = .ok completion' ∧
      run.region.data.part 0 4 ≠ run'.region.data.part 0 4 ∧
      run.region.data.part 4 4 = run'.region.data.part 4 4 ∧
      run.saveArea.words[2] = run'.saveArea.words[2] ∧
      completion.transferAddress ≠ completion'.transferAddress := by
  have hlocated : Region.headerAt ⟨0x80000000, carryingImage⟩ 0x80000008 = .ok (.ok
      ⟨8, 4, ⟨Header.mark, 0x1000, 0x1004, 0x1026, 2, 0x1029, 4, .notStarted⟩⟩) := by
    decide +kernel
  have hsurvey : survey .bits31 ⟨0x80000000, carryingImage⟩ 0x80000008 = .ok (.ok
      { offset := 8, pointerSize := 4, codec := ⟨2, 2, by decide, by decide⟩, listOffset := 38
        listLength := 4
        header := ⟨Header.mark, 0x1000, 0x1004, 0x1026, 2, 0x1029, 4, .notStarted⟩ }) := by
    decide +kernel
  have hapart : ∀ found, survey .bits31 ⟨0x80000000, carryingImage⟩ 0x80000008 = .ok (.ok found) →
      found.TableApart carryingImage := by
    intro found hfound
    rw [hsurvey] at hfound
    cases hfound
    refine ⟨fun i _ hi => Or.inl hi, by decide +kernel, by decide +kernel, fun j k hlt hk => ?_⟩
    change k < 2 at hk
    obtain ⟨rfl, rfl⟩ : j = 0 ∧ k = 1 := by omega
    decide +kernel
  obtain ⟨run, run', hrun, hrun', hways⟩ := modes_agree_up_to_mode_bit ⟨0x80000000, carryingImage⟩
    0x80000008 .clear (some ⟨0xFFFF⟩) hlocated rfl hapart
  refine ⟨⟨_, hlocated, rfl⟩, hapart, ?_⟩
  rcases hways with ⟨refusal, hrefused, -⟩ | ⟨found, completion, completion', hfound, houtcome,
      houtcome', hagree⟩
  · have hcompleted : (relocate .bits31 ⟨0x80000000, carryingImage⟩ 0x80000008 .clear
        (some ⟨0xFFFF⟩)).map (fun run => run.outcome.toOption.isSome) = .ok true := by
      decide +kernel
    rw [hrun] at hcompleted
    simp [Except.map, hrefused, Except.toOption] at hcompleted
  · rw [hsurvey] at hfound
    cases hfound
    refine ⟨run, run', completion, completion', hrun, hrun', houtcome, houtcome', ?_, ?_, ?_, ?_⟩
    · exact fun heq => absurd ((hagree.fields 0 (by decide) (by decide +kernel)).mp heq)
        (by decide +kernel)
    · exact (hagree.fields 1 (by decide) (by decide +kernel)).mpr (by decide +kernel)
    · exact (hagree.registers 2 (by decide) (by decide)).mpr (by decide +kernel)
    · exact fun heq => absurd (hagree.transferAddress.mp heq) (by decide +kernel)

end Relocation
