import Relocation.Proofs.Atomicity

/-!
# Tables that describe disjoint fields

A table whose fields share no byte with each other, with the header or with the entry list does not
interfere with itself: every field is adjusted once, from the contents it had at the start, and
nothing else changes but the status byte.  `Survey.TableApart` says that a table is of this kind,
`Survey.Relocated` what the storage has become, and `Survey.TableApart.relocated` that a run of the
patch loop brings this about.

Two relocations by the same entries can then be compared byte by byte, by comparing the adjustments
of the fields (`Survey.Relocated.getElem?_congr`).
-/

namespace Relocation

namespace Survey

/-- The header, the entry list and the fields that the list describes share no byte. -/
structure TableApart (found : Survey) (storage : Storage) : Prop where
  list_header : ∀ i, found.offset ≤ i → i < found.offset + Header.size found.pointerSize →
    i < found.listOffset ∨ found.listOffset + found.listLength ≤ i
  field_header : ∀ j, j < found.entryCount → (found.entryAt storage j).ApartFrom
    found.offset (found.offset + Header.size found.pointerSize)
  field_list : ∀ j, j < found.entryCount → (found.entryAt storage j).ApartFrom
    found.listOffset (found.listOffset + found.listLength)
  field_field : ∀ j k, j < k → k < found.entryCount → (found.entryAt storage j).ApartFrom
    (found.entryAt storage k).start (found.entryAt storage k).stop

/-- Storage after a relocation: the fields are adjusted, the table is marked as completed, and
nothing else has changed. -/
structure Relocated (found : Survey) (mode : AddressingMode) (a : Adjustment)
    (before after : Storage) : Prop where
  length : after.length = before.length
  fields : ∀ j, j < found.entryCount →
    after.part (found.entryAt before j).start (found.entryAt before j).length.toNat =
      Doubleword.toBytes (found.entryAt before j).length.toNat
        (mode.adjust (before.field (found.entryAt before j).start
          (found.entryAt before j).length.toNat) (found.entryAt before j).length.toNat a)
  status : after[found.offset + Header.statusOffset found.pointerSize]? =
    some Status.completed.flags
  rest : ∀ i, i ≠ found.offset + Header.statusOffset found.pointerSize →
    (∀ j, j < found.entryCount →
      i < (found.entryAt before j).start ∨ (found.entryAt before j).stop ≤ i) →
    after[i]? = before[i]?

variable {found : Survey} {mode mode' : AddressingMode} {region : Region} {table : Doubleword}
  {a : Adjustment}

/-- A table without interference has its list apart from its status byte and its fields. -/
lemma TableApart.listApart {storage : Storage} (h : found.TableApart storage) :
    found.ListApart storage where
  status := h.list_header _ (Nat.le_add_right _ _)
    (Nat.add_lt_add_left (Header.statusOffset_lt_size found.pointerSize) _)
  fields := h.field_list

/-- No field of a table without interference has the status byte. -/
lemma TableApart.field_status {storage : Storage} (h : found.TableApart storage) {j : Nat}
    (hj : j < found.entryCount) :
    found.offset + Header.statusOffset found.pointerSize < (found.entryAt storage j).start ∨
      (found.entryAt storage j).stop ≤ found.offset + Header.statusOffset found.pointerSize := by
  have hlt := Header.statusOffset_lt_size found.pointerSize
  rcases h.field_header j hj with hfront | hbehind
  · right
    omega
  · left
    omega

/-- Patching by a table without interference, between setting the status twice, adjusts every field
once and changes nothing else. -/
theorem TableApart.relocated (hapart : found.TableApart region.data)
    (h : found.Usable mode region table) (hfaultless : found.Faultless region.data)
    {patching : Patching}
    (hrun : PatchRun mode found a found.entryCount 0 (found.mark region.data .inProgress)
      patching) :
    found.Relocated mode a region.data (found.mark patching.storage .completed) := by
  have hlength := h.length_patched hrun
  have hinside := h.header_inside
  have hinside' := hinside.trans_eq hlength.symm
  obtain ⟨-, hentries⟩ := hapart.listApart.of_patchRun h hfaultless hrun
  have hpairwise : (patching.patches.map Patch.entry).Pairwise
      fun e f => e.ApartFrom f.start f.stop := by
    rw [hentries, List.pairwise_map]
    refine List.pairwise_lt_range.imp_of_mem ?_
    intro j k _ hk hlt
    exact hapart.field_field j k hlt (List.mem_range.mp hk)
  refine ⟨(length_mark hinside' .completed).trans hlength, ?_, ?_, ?_⟩
  · intro j hj
    have hstarted := agreesOn_mark hinside .inProgress (hapart.field_status hj)
    have hcompleted := agreesOn_mark hinside' .completed (hapart.field_status hj)
    have hmem : found.entryAt region.data j ∈ patching.patches.map Patch.entry := by
      rw [hentries]
      exact List.mem_map_of_mem (List.mem_range.mpr hj)
    obtain ⟨patch, hpatch, hpatched⟩ := List.mem_map.mp hmem
    rw [hcompleted.part_eq le_rfl le_rfl, ← hstarted.field_eq le_rfl le_rfl, ← hpatched]
    exact hrun.part_eq_of_pairwise (List.pairwise_map.mp hpairwise) hpatch
  · rw [getElem?_mark hinside' .completed]
    exact if_pos rfl
  · intro i hi houtside
    have hpatched : patching.storage.AgreesOn (found.mark region.data .inProgress) i (i + 1) := by
      apply hrun.agreesOn
      intro patch hpatch
      have hmem : patch.entry ∈ patching.patches.map Patch.entry := List.mem_map_of_mem hpatch
      rw [hentries] at hmem
      obtain ⟨j, hj, hentry⟩ := List.mem_map.mp hmem
      rw [← hentry]
      exact (houtside j (List.mem_range.mp hj)).symm
    rw [getElem?_mark hinside' .completed, if_neg hi, hpatched i le_rfl (Nat.lt_succ_self i),
      getElem?_mark hinside .inProgress, if_neg hi]

/-- Every field of the table is adjusted. -/
lemma Relocated.part_eq {before after : Storage} (h : found.Relocated mode a before after)
    {entry : Entry} (hentry : entry ∈ found.entries before) :
    after.part entry.start entry.length.toNat = Doubleword.toBytes entry.length.toNat
      (mode.adjust (before.field entry.start entry.length.toNat) entry.length.toNat a) := by
  obtain ⟨j, hj, rfl⟩ := mem_entries_iff.mp hentry
  exact h.fields j hj

/-- A byte of no field stays as it is, unless it is the status byte. -/
lemma Relocated.getElem?_of_outside {before after : Storage}
    (h : found.Relocated mode a before after) {i : Nat}
    (hstatus : i ≠ found.offset + Header.statusOffset found.pointerSize)
    (houtside : ∀ entry ∈ found.entries before, i < entry.start ∨ entry.stop ≤ i) :
    after[i]? = before[i]? := by
  apply h.rest i hstatus
  intro j hj
  exact houtside _ (mem_entries_iff.mpr ⟨j, hj, rfl⟩)

/-- Two relocations by the same entries leave the same byte where they started with the same, if they
adjust the field it belongs to alike. -/
theorem Relocated.getElem?_congr {before before' after after' : Storage}
    (h : found.Relocated mode a before after) (h' : found.Relocated mode' a before' after')
    (hentries : ∀ entry, entry ∈ found.entries before ↔ entry ∈ found.entries before') {i : Nat}
    (hbefore : before[i]? = before'[i]?)
    (hfields : ∀ entry ∈ found.entries before, entry.start ≤ i → i < entry.stop →
      mode.adjust (before.field entry.start entry.length.toNat) entry.length.toNat a =
        mode'.adjust (before'.field entry.start entry.length.toNat) entry.length.toNat a) :
    after[i]? = after'[i]? := by
  by_cases hstatus : i = found.offset + Header.statusOffset found.pointerSize
  · rw [hstatus, h.status, h'.status]
  by_cases hfield : ∃ entry ∈ found.entries before, entry.start ≤ i ∧ i < entry.stop
  · obtain ⟨entry, hentry, hstart, hstop⟩ := hfield
    have hpart : after.part entry.start entry.length.toNat =
        after'.part entry.start entry.length.toNat := by
      rw [h.part_eq hentry, h'.part_eq ((hentries entry).mp hentry),
        hfields entry hentry hstart hstop]
    have hbyte := congrArg (fun bytes => bytes[i - entry.start]?) hpart
    have hlt : i - entry.start < entry.length.toNat := Nat.sub_lt_left_of_lt_add hstart hstop
    simpa only [Storage.getElem?_part, if_pos hlt, Nat.add_sub_cancel' hstart] using hbyte
  · have houtside : ∀ entry ∈ found.entries before, i < entry.start ∨ entry.stop ≤ i := by
      intro entry hentry
      by_contra hinside
      exact hfield ⟨entry, hentry, by omega, by omega⟩
    have houtside' : ∀ entry ∈ found.entries before', i < entry.start ∨ entry.stop ≤ i :=
      fun entry hentry => houtside entry ((hentries entry).mpr hentry)
    rw [h.getElem?_of_outside hstatus houtside, hbefore, h'.getElem?_of_outside hstatus houtside']

/-- Two modes leave the same byte where they adjust the field it belongs to alike. -/
theorem Relocated.getElem?_eq {before after after' : Storage}
    (h : found.Relocated mode a before after) (h' : found.Relocated mode' a before after') {i : Nat}
    (hfields : ∀ j, j < found.entryCount → (found.entryAt before j).start ≤ i →
      i < (found.entryAt before j).stop → ∀ value,
        mode.adjust value (found.entryAt before j).length.toNat a =
          mode'.adjust value (found.entryAt before j).length.toNat a) :
    after[i]? = after'[i]? := by
  refine h.getElem?_congr h' (fun _ => Iff.rfl) rfl ?_
  intro entry hentry hstart hstop
  obtain ⟨j, hj, rfl⟩ := mem_entries_iff.mp hentry
  exact hfields j hj hstart hstop _

end Survey

end Relocation
