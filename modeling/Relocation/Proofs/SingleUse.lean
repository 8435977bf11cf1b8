import Relocation.Proofs.Relocate

/-!
# A table is used once

A relocation marks its table before it patches anything, and every later relocation looks at the
mark before anything else.  This file shows that the two fit together: as long as no patch touches
the header, a table that was started is turned down from then on, by every addressing mode, wherever
the storage is loaded and however often it is tried.

The later attempts form a list of requests that are served one after the other on the same storage
(`serve`).  `serve_after_completion` is about the requests after a successful relocation,
`failure_leaves_unchanged_or_locked` about those after a failed one.
-/

namespace Relocation

/-! ### Requests -/

/-- One request for relocation: all that a caller chooses. -/
structure Request where
  mode : AddressingMode
  /-- The address the storage is loaded at. -/
  base : Doubleword
  /-- The address of the table. -/
  table : Doubleword
  saveArea : SaveArea
  mask : Option RegisterMask

namespace Request

/-- The relocation that a request asks for. -/
def run (request : Request) (storage : Storage) : Checked Run :=
  relocate request.mode ⟨request.base, storage⟩ request.table request.saveArea request.mask

/-- The request is about the table at this offset. -/
def AimsAt (request : Request) (offset : Nat) : Prop :=
  request.base ≤ request.table ∧ (request.table - request.base).toNat = offset

instance (request : Request) (offset : Nat) : Decidable (request.AimsAt offset) :=
  inferInstanceAs (Decidable (_ ∧ _))

/-- The request was turned down because the table was used before, and nothing has changed. -/
structure Rejected (storage : Storage) (request : Request) (run : Run) : Prop where
  outcome : run.outcome = .error .alreadyRelocated
  region : run.region = ⟨request.base, storage⟩
  saveArea : run.saveArea = request.saveArea

end Request

/-- Serves requests one after the other, each on the storage that the one before has left. -/
def serve : List Request → Storage → Checked (List Run)
  | [], _ => .ok []
  | request :: rest, storage => do
    let run ← request.run storage
    return run :: (← serve rest run.region.data)

/-! ### Locked tables -/

/-- At the offset stands a table that was used before, wherever the storage is loaded. -/
def Locked (storage : Storage) (offset : Nat) : Prop :=
  ∃ located : FoundHeader, located.header.status ≠ .notStarted ∧
    ∀ base table : Doubleword, base ≤ table → (table - base).toNat = offset →
      located.Stands ⟨base, storage⟩ table

section Locking

variable {storage : Storage} {offset : Nat}

/-- A request for a locked table is rejected. -/
lemma Locked.rejected (h : Locked storage offset) {request : Request}
    (haim : request.AimsAt offset) :
    ∃ run, request.run storage = .ok run ∧ request.Rejected storage run := by
  obtain ⟨located, hstatus, hstands⟩ := h
  have hheader := headerAt_eq_ok_iff.mpr (hstands request.base request.table haim.1 haim.2)
  have hsurvey : survey request.mode ⟨request.base, storage⟩ request.table =
      .ok (.error .alreadyRelocated) := survey_of_used hheader hstatus
  have hrun : request.run storage = .ok
      { region := ⟨request.base, storage⟩, saveArea := request.saveArea, found := none,
        patches := [], registerChanges := [], outcome := .error .alreadyRelocated } := by
    rw [Request.run, relocate, hsurvey]
    rfl
  exact ⟨_, hrun, rfl, rfl, rfl⟩

/-- Every request of a list is rejected, since each of them leaves the storage as it was. -/
theorem Locked.serve_rejected (h : Locked storage offset) (requests : List Request)
    (haim : ∀ request ∈ requests, request.AimsAt offset) :
    ∃ runs, serve requests storage = .ok runs ∧
      List.Forall₂ (Request.Rejected storage) requests runs := by
  induction requests with
  | nil => exact ⟨[], rfl, List.Forall₂.nil⟩
  | cons request rest ih =>
    obtain ⟨run, hrun, hrejected⟩ := h.rejected (haim request List.mem_cons_self)
    obtain ⟨runs, hruns, hall⟩ := ih (fun r hr => haim r (List.mem_cons_of_mem _ hr))
    refine ⟨run :: runs, ?_, List.Forall₂.cons hrejected hall⟩
    have hdata : run.region.data = storage := by rw [hrejected.region]
    rw [serve, hrun, Checked.ok_bind, hdata, hruns, Checked.ok_bind, Checked.pure_eq_ok]

end Locking

/-! ### What locks a table -/

/-- No patch of the run touches the header of the table. -/
def Run.SparesHeader (run : Run) (region : Region) (table : Doubleword) : Prop :=
  ∀ located, region.headerAt table = .ok (.ok located) → ∀ patch ∈ run.patches,
    patch.entry.ApartFrom located.offset (located.offset + Header.size located.pointerSize)

section Rewriting

variable {region : Region} {table : Doubleword}

/-- A header stands where it stood when only its status was rewritten, also when the storage has
been loaded elsewhere. -/
lemma FoundHeader.Stands.of_status {located : FoundHeader} (h : located.Stands region table)
    {storage : Storage} {status : Status} (hlength : storage.length = region.data.length)
    (hagrees : region.data.AgreesOn storage located.offset
      (located.offset + Header.statusOffset located.pointerSize))
    (hstatus : storage.byte (located.offset + Header.statusOffset located.pointerSize) =
      status.flags)
    {base table' : Doubleword} (hbase : base ≤ table')
    (hoffset : (table' - base).toNat = located.offset) :
    FoundHeader.Stands { located with header := { located.header with status := status } }
      ⟨base, storage⟩ table' := by
  have height : 8 ≤ Header.statusOffset located.pointerSize := by
    unfold Header.statusOffset
    omega
  have hdrop : Storage.AgreesOn (region.data.drop located.offset) (storage.drop located.offset) 0
      (Header.statusOffset located.pointerSize) := by
    have hdrop := hagrees.drop located.offset
    rwa [Nat.sub_self, Nat.add_sub_cancel_left] at hdrop
  have hbyte : Storage.byte (storage.drop located.offset)
      (Header.statusOffset located.pointerSize) = status.flags := by
    rw [← hstatus, Storage.byte, Storage.byte, List.getElem?_drop]
  have hfits : Header.size located.pointerSize ≤ (storage.drop located.offset).length := by
    have hsize := h.size_le
    rw [List.length_drop, hlength]
    omega
  refine ⟨hbase, hoffset.symm, ?_, ?_, ?_⟩
  · exact h.room.trans_eq hlength.symm
  · exact (hagrees.field_eq le_rfl (by omega)).symm.trans h.marked
  · exact Header.locate_of_status h.locate_eq hdrop hfits hbyte

/-- A table whose status was rewritten to anything but "not started" is locked. -/
lemma FoundHeader.Stands.locked_of_status {located : FoundHeader} (h : located.Stands region table)
    {storage : Storage} {status : Status} (hlength : storage.length = region.data.length)
    (hagrees : region.data.AgreesOn storage located.offset
      (located.offset + Header.statusOffset located.pointerSize))
    (hstatus : storage.byte (located.offset + Header.statusOffset located.pointerSize) =
      status.flags)
    (hne : status ≠ .notStarted) : Locked storage (table - region.base).toNat :=
  ⟨{ located with header := { located.header with status := status } }, hne,
    fun _ _ hbase hoffset =>
      h.of_status hlength hagrees hstatus hbase (hoffset.trans h.offset_eq.symm)⟩

end Rewriting

section Runs

variable {mode : AddressingMode} {region : Region} {table : Doubleword} {found : Survey}
  {patching : Patching}

/-- Patches that spare the header leave the table marked as in progress. -/
lemma agreesOn_header_of_patchRun (h : found.Usable mode region table)
    (hrun : PatchRun mode found (found.adjustment region) found.entryCount 0
      (found.mark region.data .inProgress) patching)
    (hspares : ∀ patch ∈ patching.patches, patch.entry.ApartFrom found.offset
      (found.offset + Header.size found.pointerSize)) :
    region.data.AgreesOn patching.storage found.offset
        (found.offset + Header.statusOffset found.pointerSize) ∧
      patching.storage.byte (found.offset + Header.statusOffset found.pointerSize) =
        Status.inProgress.flags := by
  have hsize : Header.statusOffset found.pointerSize < Header.size found.pointerSize := by
    unfold Header.statusOffset Header.size
    omega
  have hpatched := hrun.agreesOn hspares
  have hmarked : (found.mark region.data .inProgress).AgreesOn region.data found.offset
      (found.offset + Header.statusOffset found.pointerSize) :=
    agreesOn_mark h.header_inside .inProgress (Or.inr le_rfl)
  constructor
  · exact ((hpatched.mono le_rfl (by omega)).trans hmarked).symm
  · rw [hpatched.byte_eq (by omega) (by omega), Storage.byte,
      getElem?_mark h.header_inside .inProgress, if_pos rfl]
    rfl

end Runs

/-! ### The guarantee -/

/-- After a successful relocation that spared the header of its table, every request for the same
table is rejected and changes nothing. -/
theorem serve_after_completion (mode : AddressingMode) (region : Region) (table : Doubleword)
    (saveArea : SaveArea) (mask : Option RegisterMask) {run : Run} {completion : Completion}
    (hrun : relocate mode region table saveArea mask = .ok run)
    (hcompletion : run.outcome = .ok completion) (hspares : run.SparesHeader region table)
    (requests : List Request)
    (haim : ∀ request ∈ requests, request.AimsAt (table - region.base).toNat) :
    ∃ runs, serve requests run.region.data = .ok runs ∧
      List.Forall₂ (Request.Rejected run.region.data) requests runs := by
  cases relocates_of_eq_ok hrun with
  | turnedDown hsurvey => cases hcompletion
  | faulty usable fault => cases hcompletion
  | broken usable faultless patchRun hrefusal => cases hcompletion
  | @completed found patching changes area usable faultless patchRun hrefusal hregisters =>
    have hheader := headerAt_eq_ok_iff.mpr usable.stands
    obtain ⟨hagrees, -⟩ := agreesOn_header_of_patchRun usable patchRun (hspares _ hheader)
    have hlength := usable.length_patched patchRun
    have hinside := usable.header_inside.trans_eq hlength.symm
    have hmarked : (found.mark patching.storage .completed).AgreesOn patching.storage found.offset
        (found.offset + Header.statusOffset found.pointerSize) :=
      agreesOn_mark hinside .completed (Or.inr le_rfl)
    have hstatus : (found.mark patching.storage .completed).byte
        (found.offset + Header.statusOffset found.pointerSize) = Status.completed.flags := by
      rw [Storage.byte, getElem?_mark hinside .completed, if_pos rfl]
      rfl
    have hlocked := usable.stands.locked_of_status
      ((length_mark hinside .completed).trans hlength) (hagrees.trans hmarked.symm) hstatus
      (by decide)
    exact hlocked.serve_rejected requests haim

/-- The address constant of four bytes at the start of this storage is described by the table behind
it. -/
def wordImage : Storage :=
  [0x00, 0x00, 0x10, 0x04, 0x00, 0x00, 0x00, 0x00,
    0xD9, 0xC5, 0xD3, 0xD6, 0xC3, 0xE3, 0xC2, 0xD3, 0x00, 0x00, 0x10, 0x00, 0x00, 0x00, 0x10, 0x04,
    0x00, 0x00, 0x10, 0x26, 0x00, 0x00, 0x00, 0x02, 0x00, 0x00, 0x10, 0x27, 0x04, 0x00,
    0xC0, 0x00]

/-- After the word has been relocated, another mode and a wider one are turned down, each with the
storage loaded elsewhere. -/
theorem serve_after_word_completed :
    ∃ run completion, relocate .bits31 ⟨0x5000, wordImage⟩ 0x5008 .clear none = .ok run ∧
      run.outcome = .ok completion ∧ run.patches.length = 1 ∧
      run.SparesHeader ⟨0x5000, wordImage⟩ 0x5008 ∧
      ∃ runs, serve [⟨.bits24, 0x9000, 0x9008, .clear, none⟩, ⟨.bits64, 0, 8, .clear, none⟩]
          run.region.data = .ok runs ∧
        List.Forall₂ (Request.Rejected run.region.data)
          [⟨.bits24, 0x9000, 0x9008, .clear, none⟩, ⟨.bits64, 0, 8, .clear, none⟩] runs := by
  obtain ⟨run, hrun, -⟩ := exists_relocates .bits31 ⟨0x5000, wordImage⟩ 0x5008 .clear none
  have hfacts : (relocate .bits31 ⟨0x5000, wordImage⟩ 0x5008 .clear none).map
      (fun run => (run.outcome, run.patches)) =
        .ok (.ok ⟨some 0x5004, .up 0x4000, 1, 0⟩, [⟨0, ⟨4, 0⟩, 0x1004, 0x5004⟩]) := by
    decide +kernel
  have hheader : Region.headerAt ⟨0x5000, wordImage⟩ 0x5008 = .ok (.ok ⟨8, 4,
      ⟨Header.mark, 0x1000, 0x1004, 0x1026, 2, 0x1027, 4, .notStarted⟩⟩) := by
    decide +kernel
  rw [hrun] at hfacts
  simp only [Except.map, Except.ok.injEq, Prod.mk.injEq] at hfacts
  obtain ⟨houtcome, hpatches⟩ := hfacts
  have hspares : run.SparesHeader ⟨0x5000, wordImage⟩ 0x5008 := by
    intro located hlocated
    rw [hheader] at hlocated
    cases hlocated
    rw [hpatches]
    decide
  refine ⟨run, _, hrun, houtcome, by rw [hpatches]; rfl, hspares, ?_⟩
  exact serve_after_completion .bits31 ⟨0x5000, wordImage⟩ 0x5008 .clear none hrun houtcome hspares
    _ (by decide)

/-- A failed relocation leaves the registers as they were.  The storage is as it was too, or, if the
header of the table was spared, the table stands there in progress and every later request for it is
rejected and changes nothing. -/
theorem failure_leaves_unchanged_or_locked (mode : AddressingMode) (region : Region)
    (table : Doubleword) (saveArea : SaveArea) (mask : Option RegisterMask) {run : Run}
    {refusal : Refusal} (hrun : relocate mode region table saveArea mask = .ok run)
    (hrefusal : run.outcome = .error refusal) :
    run.saveArea = saveArea ∧ run.region.base = region.base ∧
    (run.region.data = region.data ∨
      (run.SparesHeader region table →
        (∃ located, region.headerAt table = .ok (.ok located) ∧
          run.region.headerAt table = .ok (.ok
            { located with header := { located.header with status := .inProgress } })) ∧
        ∀ requests : List Request,
          (∀ request ∈ requests, request.AimsAt (table - region.base).toNat) →
          ∃ runs, serve requests run.region.data = .ok runs ∧
            List.Forall₂ (Request.Rejected run.region.data) requests runs)) := by
  cases relocates_of_eq_ok hrun with
  | turnedDown hsurvey => exact ⟨rfl, rfl, Or.inl rfl⟩
  | faulty usable fault => exact ⟨rfl, rfl, Or.inl rfl⟩
  | completed usable faultless patchRun hnone hregisters => cases hrefusal
  | @broken found patching refusal usable faultless patchRun hsome =>
    refine ⟨rfl, rfl, Or.inr fun hspares => ?_⟩
    have hheader := headerAt_eq_ok_iff.mpr usable.stands
    obtain ⟨hagrees, hstatus⟩ := agreesOn_header_of_patchRun usable patchRun (hspares _ hheader)
    have hlength := usable.length_patched patchRun
    have hstands := usable.stands.of_status hlength hagrees hstatus usable.stands.base_le
      usable.stands.offset_eq.symm
    have hlocked := usable.stands.locked_of_status hlength hagrees hstatus (by decide)
    exact ⟨⟨_, hheader, headerAt_eq_ok_iff.mpr hstands⟩, hlocked.serve_rejected⟩

/-- The first entry of the table in this storage describes the second, which loses its width when it
is adjusted by `0xC000`. -/
def selfDescribingImage : Storage :=
  [0x10, 0x04, 0x00, 0x00, 0x00, 0x00, 0x00, 0x00,
    0xD9, 0xC5, 0xD3, 0xD6, 0xC3, 0xE3, 0xC2, 0xD3, 0x00, 0x00, 0x10, 0x00, 0x00, 0x00, 0x10, 0x04,
    0x00, 0x00, 0x10, 0x26, 0x00, 0x00, 0x00, 0x02, 0x00, 0x00, 0x10, 0x29, 0x04, 0x00,
    0x40, 0x28, 0x40, 0x00]

/-- The table that describes itself breaks after one patch.  It is left in progress, and later
requests are turned down. -/
theorem failure_locks_self_describing :
    ∃ run, relocate .bits31 ⟨0xD000, selfDescribingImage⟩ 0xD008 .clear none = .ok run ∧
      run.outcome = .error (.badEntryLength 1 1) ∧ run.saveArea = .clear ∧
      run.region.data ≠ selfDescribingImage ∧
      (∃ located, run.region.headerAt 0xD008 = .ok (.ok located) ∧
        located.header.status = .inProgress) ∧
      ∃ runs, serve [⟨.bits24, 0x9000, 0x9008, .clear, none⟩, ⟨.bits64, 0, 8, .clear, none⟩]
          run.region.data = .ok runs ∧
        List.Forall₂ (Request.Rejected run.region.data)
          [⟨.bits24, 0x9000, 0x9008, .clear, none⟩, ⟨.bits64, 0, 8, .clear, none⟩] runs := by
  obtain ⟨run, hrun, -⟩ :=
    exists_relocates .bits31 ⟨0xD000, selfDescribingImage⟩ 0xD008 .clear none
  have hfacts : (relocate .bits31 ⟨0xD000, selfDescribingImage⟩ 0xD008 .clear none).map
      (fun run => (run.outcome, run.patches, run.region.data.part 40 2)) =
        .ok (.error (.badEntryLength 1 1), [⟨0, ⟨2, 40⟩, 0x4000, 0x0000⟩], [0x00, 0x00]) := by
    decide +kernel
  have hheader : Region.headerAt ⟨0xD000, selfDescribingImage⟩ 0xD008 = .ok (.ok ⟨8, 4,
      ⟨Header.mark, 0x1000, 0x1004, 0x1026, 2, 0x1029, 4, .notStarted⟩⟩) := by
    decide +kernel
  rw [hrun] at hfacts
  simp only [Except.map, Except.ok.injEq, Prod.mk.injEq] at hfacts
  obtain ⟨houtcome, hpatches, hlist⟩ := hfacts
  have hspares : run.SparesHeader ⟨0xD000, selfDescribingImage⟩ 0xD008 := by
    intro located hlocated
    rw [hheader] at hlocated
    cases hlocated
    rw [hpatches]
    decide
  have hchanged : run.region.data ≠ selfDescribingImage := by
    intro hsame
    rw [hsame] at hlist
    exact absurd hlist (by decide)
  obtain ⟨hregisters, -, hstorage⟩ := failure_leaves_unchanged_or_locked .bits31
    ⟨0xD000, selfDescribingImage⟩ 0xD008 .clear none hrun houtcome
  rcases hstorage with hsame | hlocked
  · exact absurd hsame hchanged
  · obtain ⟨⟨located, -, hafter⟩, hrejected⟩ := hlocked hspares
    exact ⟨run, hrun, houtcome, hregisters, hchanged, ⟨_, hafter, rfl⟩, hrejected _ (by decide)⟩

end Relocation
