import Relocation.Proofs.Patching
import Relocation.Run.Relocate

/-!
# The four ways of a relocation

A relocation ends in one of four ways: no usable table is found, an entry is found to be at fault
before anything is written, an entry is turned down in the middle of patching, or everything is
adjusted.  `Relocates` lists them with all that is known in each case, and `exists_relocates` says
that every relocation takes one of them; in particular no program check stops it.  What is proved
about relocations later is proved by going through the four cases.
-/

namespace Relocation

/-! ### Marking the table -/

/-- The storage with the status of the table set. -/
def Survey.mark (found : Survey) (storage : Storage) (status : Status) : Storage :=
  storage.put (found.offset + Header.statusOffset found.pointerSize) [status.flags]

section Marking

variable {found : Survey} {storage : Storage}

/-- Setting the status of a table inside the storage. -/
lemma setStatus_eq
    (h : found.offset + Header.size found.pointerSize ≤ storage.length) (status : Status) :
    Header.setStatus storage found.offset found.pointerSize status =
      .ok (found.mark storage status) :=
  Header.setStatus_eq h status

/-- Setting the status keeps the length. -/
lemma length_mark (h : found.offset + Header.size found.pointerSize ≤ storage.length)
    (status : Status) : (found.mark storage status).length = storage.length := by
  apply Storage.length_put
  simp only [Header.size, Header.statusOffset, List.length_singleton] at h ⊢
  omega

/-- Setting the status changes one byte. -/
lemma getElem?_mark (h : found.offset + Header.size found.pointerSize ≤ storage.length)
    (status : Status) (i : Nat) :
    (found.mark storage status)[i]? =
      if i = found.offset + Header.statusOffset found.pointerSize then some status.flags
      else storage[i]? :=
  Header.getElem?_put_status h status i

/-- Setting the status leaves alone every range without the status byte. -/
lemma agreesOn_mark (h : found.offset + Header.size found.pointerSize ≤ storage.length)
    (status : Status) {start stop : Nat}
    (hapart : found.offset + Header.statusOffset found.pointerSize < start ∨
      stop ≤ found.offset + Header.statusOffset found.pointerSize) :
    (found.mark storage status).AgreesOn storage start stop := by
  intro i hi hi'
  rw [getElem?_mark h, if_neg (by omega)]

/-- Setting the same status keeps agreement. -/
lemma Storage.AgreesOn.mark {other : Storage} {start stop : Nat}
    (hagrees : storage.AgreesOn other start stop)
    (h : found.offset + Header.size found.pointerSize ≤ storage.length)
    (h' : found.offset + Header.size found.pointerSize ≤ other.length) (status : Status) :
    (found.mark storage status).AgreesOn (found.mark other status) start stop := by
  intro i hi hi'
  rw [getElem?_mark h, getElem?_mark h', hagrees i hi hi']

end Marking

/-! ### Registers -/

/-- Every register of a mask is one of the sixteen. -/
lemma RegisterMask.lt_of_mem_registers {mask : RegisterMask} {register : Nat}
    (h : register ∈ mask.registers) : register < 16 := by
  have hscan (count bits : Nat) (hmem : register ∈ RegisterMask.scan count bits) :
      register < 16 := by
    induction count generalizing bits with
    | zero => cases hmem
    | succ count ih =>
      unfold RegisterMask.scan at hmem
      split at hmem
      · cases hmem
      · rcases List.mem_cons.mp hmem with rfl | hrest
        · omega
        · exact ih _ hrest
  exact hscan _ _ h

/-- Adjusting registers that exist is never stopped. -/
lemma exists_adjustRegisters (mode : AddressingMode) (width : Nat) (a : Adjustment)
    (registers : List Nat) (area : SaveArea) (h : ∀ register ∈ registers, register < 16) :
    ∃ changes area', adjustRegisters mode width a registers area = .ok (changes, area') := by
  induction registers generalizing area with
  | nil => exact ⟨[], area, rfl⟩
  | cons register rest ih =>
    have hregister : register < 16 := h register List.mem_cons_self
    have hget : area.get register = .ok area.words[register] := dif_pos hregister
    have hset (value : Doubleword) :
        area.set register value = .ok ⟨area.words.set register value⟩ := dif_pos hregister
    obtain ⟨changes, area', hrest⟩ := ih
      ⟨area.words.set register (mode.adjust area.words[register] width a)⟩
      (fun r hr => h r (List.mem_cons_of_mem _ hr))
    refine ⟨⟨register, area.words[register], mode.adjust area.words[register] width a⟩ :: changes,
      area', ?_⟩
    simp only [adjustRegisters, hget, Checked.ok_bind, hset, hrest, Checked.pure_eq_ok]

/-- The registers that a mask selects for a relocation; none without a mask. -/
def selectedRegisters (mask : Option RegisterMask) : List Nat :=
  (mask.map RegisterMask.registers).getD []

/-- Every selected register is one of the sixteen. -/
lemma lt_of_mem_selectedRegisters {mask : Option RegisterMask} {register : Nat}
    (h : register ∈ selectedRegisters mask) : register < 16 := by
  cases mask with
  | none => cases h
  | some mask => exact RegisterMask.lt_of_mem_registers h

/-! ### The four ways -/

/-- The run of a relocation, by the way it ended. -/
inductive Relocates (mode : AddressingMode) (region : Region) (table : Doubleword)
    (saveArea : SaveArea) (mask : Option RegisterMask) : Run → Prop
  /-- There is no usable table. -/
  | turnedDown {refusal : Refusal} (hsurvey : survey mode region table = .ok (.error refusal)) :
      Relocates mode region table saveArea mask
        { region, saveArea, found := none, patches := [], registerChanges := [],
          outcome := .error refusal }
  /-- An entry is at fault in the table as it was found. -/
  | faulty {found : Survey} {refusal : Refusal} (usable : found.Usable mode region table)
      (fault : found.FirstFault region.data refusal) :
      Relocates mode region table saveArea mask
        { region, saveArea, found := some found, patches := [], registerChanges := [],
          outcome := .error refusal }
  /-- An entry is at fault by the time its turn comes. -/
  | broken {found : Survey} {patching : Patching} {refusal : Refusal}
      (usable : found.Usable mode region table) (faultless : found.Faultless region.data)
      (patchRun : PatchRun mode found (found.adjustment region) found.entryCount 0
        (found.mark region.data .inProgress) patching)
      (hrefusal : patching.refusal = some refusal) :
      Relocates mode region table saveArea mask
        { region := { region with data := patching.storage }, saveArea, found := some found,
          patches := patching.patches, registerChanges := [], outcome := .error refusal }
  /-- Everything is adjusted. -/
  | completed {found : Survey} {patching : Patching} {changes : List RegisterChange}
      {area : SaveArea} (usable : found.Usable mode region table)
      (faultless : found.Faultless region.data)
      (patchRun : PatchRun mode found (found.adjustment region) found.entryCount 0
        (found.mark region.data .inProgress) patching)
      (hrefusal : patching.refusal = none)
      (hregisters : adjustRegisters mode found.header.registerWidth.toNat (found.adjustment region)
        (selectedRegisters mask) saveArea = .ok (changes, area)) :
      Relocates mode region table saveArea mask
        { region := { region with data := found.mark patching.storage .completed },
          saveArea := area, found := some found, patches := patching.patches,
          registerChanges := changes,
          outcome := .ok
            { transferAddress := found.transferAddress mode (found.adjustment region)
              adjustment := found.adjustment region
              entriesPatched := patching.patches.length
              registersPatched := changes.length } }

section Ways

variable {mode : AddressingMode} {region : Region} {table : Doubleword} {saveArea : SaveArea}
  {mask : Option RegisterMask}

/-- The header of a usable table lies in the region. -/
lemma Survey.Usable.header_inside {found : Survey} (h : found.Usable mode region table) :
    found.offset + Header.size found.pointerSize ≤ region.data.length :=
  h.stands.size_le

/-- Marking the table and patching keep the length of the storage. -/
lemma Survey.Usable.length_patched {found : Survey} (h : found.Usable mode region table)
    {a : Adjustment} {patching : Patching}
    (hrun : PatchRun mode found a found.entryCount 0 (found.mark region.data .inProgress)
      patching) :
    patching.storage.length = region.data.length :=
  hrun.length_eq.trans (length_mark h.header_inside .inProgress)

/-- Once the table is found and its entries are checked, the relocation patches. -/
lemma exists_relocates_found {found : Survey} (h : found.Usable mode region table)
    (hfaultless : found.Faultless region.data) (saveArea : SaveArea)
    (mask : Option RegisterMask) :
    ∃ run, relocateFound mode region found saveArea mask = .ok run ∧
      Relocates mode region table saveArea mask run := by
  have hstarted := length_mark h.header_inside .inProgress
  obtain ⟨patching, hpatching, hrun⟩ := exists_patchRun h (found.adjustment region)
    found.entryCount 0 (found.mark region.data .inProgress) (h.inside.trans_eq hstarted.symm)
    (by omega)
  obtain ⟨changes, area, hregisters⟩ := exists_adjustRegisters mode
    found.header.registerWidth.toNat (found.adjustment region) (selectedRegisters mask) saveArea
    (fun _ hr => lt_of_mem_selectedRegisters hr)
  have hcompleted := setStatus_eq (h.header_inside.trans_eq (h.length_patched hrun).symm) .completed
  unfold relocateFound
  simp only [setStatus_eq h.header_inside, Checked.ok_bind, hpatching]
  cases hrefusal : patching.refusal with
  | some refusal => exact ⟨_, rfl, Relocates.broken h hfaultless hrun hrefusal⟩
  | none =>
    refine ⟨_, ?_, Relocates.completed h hfaultless hrun hrefusal hregisters⟩
    rw [selectedRegisters] at hregisters
    simp only [hregisters, Checked.ok_bind, hcompleted, Checked.pure_eq_ok]

/-- Every relocation ends in one of the four ways. -/
theorem exists_relocates (mode : AddressingMode) (region : Region) (table : Doubleword)
    (saveArea : SaveArea) (mask : Option RegisterMask) :
    ∃ run, relocate mode region table saveArea mask = .ok run ∧
      Relocates mode region table saveArea mask run := by
  obtain ⟨result, hsurvey⟩ := exists_survey mode region table
  unfold relocate
  rw [hsurvey, Checked.ok_bind]
  cases result with
  | error refusal => exact ⟨_, rfl, Relocates.turnedDown hsurvey⟩
  | ok found =>
    have husable := survey_eq_ok_iff.mp hsurvey
    rcases scan_cases husable with ⟨hscan, hfaultless⟩ | ⟨refusal, hscan, hfault⟩
    · dsimp only
      rw [hscan, Checked.ok_bind]
      exact exists_relocates_found husable hfaultless saveArea mask
    · dsimp only
      rw [hscan, Checked.ok_bind]
      exact ⟨_, rfl, Relocates.faulty husable hfault⟩

/-- A relocation that was made ended in one of the four ways. -/
lemma relocates_of_eq_ok {run : Run} (h : relocate mode region table saveArea mask = .ok run) :
    Relocates mode region table saveArea mask run := by
  obtain ⟨run', heq, hrun⟩ := exists_relocates mode region table saveArea mask
  rw [h] at heq
  cases heq
  exact hrun

/-- A relocation that completes has found a usable table, and its patch loop came to the end of the
list. -/
lemma Relocates.of_outcome_ok {run : Run} {completion : Completion}
    (h : Relocates mode region table saveArea mask run) (houtcome : run.outcome = .ok completion) :
    ∃ found patching, found.Usable mode region table ∧
      PatchRun mode found (found.adjustment region) found.entryCount 0
        (found.mark region.data .inProgress) patching ∧
      patching.refusal = none ∧ run.patches = patching.patches ∧
      run.region.data = found.mark patching.storage .completed ∧
      completion.entriesPatched = patching.patches.length := by
  cases h with
  | turnedDown => cases houtcome
  | faulty => cases houtcome
  | broken => cases houtcome
  | @completed found patching changes area usable faultless patchRun hrefusal hregisters =>
    cases houtcome
    exact ⟨found, patching, usable, patchRun, hrefusal, rfl, rfl, rfl⟩

/-- Without a usable table everything is left as it was. -/
lemma relocate_of_turnedDown {refusal : Refusal}
    (h : survey mode region table = .ok (.error refusal)) (saveArea : SaveArea)
    (mask : Option RegisterMask) :
    relocate mode region table saveArea mask =
      .ok { region, saveArea, found := none, patches := [], registerChanges := [],
            outcome := .error refusal } := by
  unfold relocate
  rw [h]
  rfl

/-- With an entry at fault everything is left as it was. -/
lemma relocate_of_firstFault {found : Survey} {refusal : Refusal}
    (h : found.Usable mode region table) (hfault : found.FirstFault region.data refusal)
    (saveArea : SaveArea) (mask : Option RegisterMask) :
    relocate mode region table saveArea mask =
      .ok { region, saveArea, found := some found, patches := [], registerChanges := [],
            outcome := .error refusal } := by
  have hscan : scan mode region found = .ok (.error refusal) := by
    rcases scan_cases h with ⟨-, hfaultless⟩ | ⟨refusal', hscan, hfault'⟩
    · exact absurd hfaultless hfault.not_faultless
    · rw [hscan, hfault'.unique hfault]
  unfold relocate
  rw [survey_eq_ok_iff.mpr h, Checked.ok_bind]
  dsimp only
  rw [hscan]
  rfl

end Ways

end Relocation
