import Relocation.Proofs.DisjointFields

/-!
# The order of the entries

The entries of a table are patched in the order of the list, each on top of what the earlier ones
have left.  This file shows that the order is of no consequence when the fields do not overlap: two
images that differ in nothing but the order of their entries are relocated alike
(`patch_order_irrelevant`).

Entries that describe bytes behind the region are turned down and nothing is patched, so nothing has
to be known of their fields.  `Survey.InsideApart` speaks of the other entries only.
-/

namespace Relocation

/-- What it takes for an entry to be without fault, whatever its number. -/
lemma Entry.fault?_eq_none_iff {entry : Entry} {regionSize index : Nat} :
    entry.fault? regionSize index = none ↔ ¬ entry.length < 2 ∧ entry.stop ≤ regionSize := by
  unfold fault?
  by_cases hshort : entry.length < 2
  · simp [hshort]
  · by_cases hstop : regionSize < entry.stop
    · simp [hshort, hstop]
    · simp [hshort, hstop, not_lt.mp hstop]

/-- Whether two fields overlap does not depend on which is named first. -/
lemma Entry.ApartFrom.swap {entry other : Entry} (h : entry.ApartFrom other.start other.stop) :
    other.ApartFrom entry.start entry.stop :=
  Or.symm h

namespace Survey

/-- The byte at offset `i` is not one of the entry list. -/
def OutsideList (found : Survey) (i : Nat) : Prop :=
  i < found.listOffset ∨ found.listOffset + found.listLength ≤ i

/-- The entry list shares no byte with the header, and the fields inside the storage share none with
the header, with the list or with each other. -/
structure InsideApart (found : Survey) (storage : Storage) : Prop where
  list_header : ∀ i, found.offset ≤ i → i < found.offset + Header.size found.pointerSize →
    found.OutsideList i
  header : ∀ entry ∈ found.entries storage, entry.stop ≤ storage.length →
    entry.ApartFrom found.offset (found.offset + Header.size found.pointerSize)
  list : ∀ entry ∈ found.entries storage, entry.stop ≤ storage.length →
    entry.ApartFrom found.listOffset (found.listOffset + found.listLength)
  pairwise : ((found.entries storage).filter fun entry => entry.stop ≤ storage.length).Pairwise
    fun entry other => entry.ApartFrom other.start other.stop

variable {found : Survey} {s t : Storage}

/-- No entry is at fault when every entry is long enough and describes bytes of the storage. -/
lemma faultless_iff : found.Faultless s ↔
    ∀ entry ∈ found.entries s, ¬ entry.length < 2 ∧ entry.stop ≤ s.length := by
  constructor
  · intro h entry hentry
    obtain ⟨j, hj, rfl⟩ := mem_entries_iff.mp hentry
    exact Entry.fault?_eq_none_iff.mp (h j hj)
  · intro h j hj
    exact Entry.fault?_eq_none_iff.mpr (h _ (mem_entries_iff.mpr ⟨j, hj, rfl⟩))

section Reordering

variable (hlength : s.length = t.length) (hperm : (found.entries s).Perm (found.entries t))
include hlength hperm

/-- Entries in another order are at fault if and only if they were before. -/
lemma faultless_iff_of_perm : found.Faultless s ↔ found.Faultless t := by
  rw [faultless_iff, faultless_iff, hlength]
  constructor
  · intro h entry hentry
    exact h entry (hperm.mem_iff.mpr hentry)
  · intro h entry hentry
    exact h entry (hperm.mem_iff.mp hentry)

/-- Fields in another order are apart if they were before. -/
lemma InsideApart.of_perm (h : found.InsideApart s) : found.InsideApart t where
  list_header := h.list_header
  header := by
    intro entry hentry hstop
    exact h.header entry (hperm.mem_iff.mpr hentry) (hstop.trans_eq hlength.symm)
  list := by
    intro entry hentry hstop
    exact h.list entry (hperm.mem_iff.mpr hentry) (hstop.trans_eq hlength.symm)
  pairwise := by
    rw [← hlength]
    exact ((hperm.filter _).pairwise_iff Entry.ApartFrom.swap).mp h.pairwise

end Reordering

/-- When no entry is at fault all fields are inside, and the table does not interfere with itself. -/
lemma InsideApart.tableApart (h : found.InsideApart s) (hfaultless : found.Faultless s) :
    found.TableApart s := by
  have hinside : ∀ entry ∈ found.entries s, entry.stop ≤ s.length :=
    fun entry hentry => (faultless_iff.mp hfaultless entry hentry).2
  have hpairwise : (found.entries s).Pairwise
      fun entry other => entry.ApartFrom other.start other.stop := by
    have hall : ∀ entry ∈ found.entries s, decide (entry.stop ≤ s.length) = true :=
      fun entry hentry => decide_eq_true (hinside entry hentry)
    rw [← List.filter_eq_self.mpr hall]
    exact h.pairwise
  have hmem {j : Nat} (hj : j < found.entryCount) : found.entryAt s j ∈ found.entries s :=
    mem_entries_iff.mpr ⟨j, hj, rfl⟩
  refine ⟨h.list_header, ?_, ?_, ?_⟩
  · intro j hj
    exact h.header _ (hmem hj) (hinside _ (hmem hj))
  · intro j hj
    exact h.list _ (hmem hj) (hinside _ (hmem hj))
  · intro j k hlt hk
    have hget := List.pairwise_iff_getElem.mp hpairwise j k
      (by rw [length_entries]; omega) (by rwa [length_entries]) hlt
    simpa only [entries, List.getElem_map, List.getElem_range] using hget

/-- Relocating two images that differ in the order of their entries leaves the same bytes outside of
the lists. -/
theorem Relocated.getElem?_of_perm {mode : AddressingMode} {a : Adjustment} {after after' : Storage}
    (h : found.Relocated mode a s after) (h' : found.Relocated mode a t after')
    (hapart : found.TableApart s) (hperm : (found.entries s).Perm (found.entries t))
    (hsame : ∀ i, found.OutsideList i → s[i]? = t[i]?) {i : Nat} (hi : found.OutsideList i) :
    after[i]? = after'[i]? := by
  refine h.getElem?_congr h' (fun _ => hperm.mem_iff) (hsame i hi) ?_
  intro entry hentry _ _
  -- the field is not in the list, so both images have the same bytes there
  have hagrees : s.AgreesOn t entry.start entry.stop := by
    obtain ⟨j, hj, rfl⟩ := mem_entries_iff.mp hentry
    intro k hk hk'
    apply hsame
    rcases hapart.field_list j hj with hfront | hbehind
    · exact Or.inl (hk'.trans_le hfront)
    · exact Or.inr (hbehind.trans hk)
  rw [hagrees.field_eq le_rfl le_rfl]

end Survey

/-- Two images of the same length that differ in the entry list only, in the order of the entries,
are relocated alike when the fields inside them do not overlap: one relocation completes if and only
if the other does, with the same result and the same registers, and the bytes outside of the list
come to be the same.  A table that was not used yet may be used in 64-bit mode, whatever the width of
its pointers; the mode of the two relocations is arbitrary. -/
theorem patch_order_irrelevant (mode : AddressingMode) (base table : Doubleword)
    (image image' : Storage) (saveArea : SaveArea) (mask : Option RegisterMask) {found : Survey}
    (hfound : survey .bits64 ⟨base, image⟩ table = .ok (.ok found))
    (hfound' : survey .bits64 ⟨base, image'⟩ table = .ok (.ok found))
    (hlength : image.length = image'.length)
    (hsame : ∀ i, found.OutsideList i → image[i]? = image'[i]?)
    (hperm : (found.entries image).Perm (found.entries image'))
    (hapart : found.InsideApart image) :
    ∃ run run', relocate mode ⟨base, image⟩ table saveArea mask = .ok run ∧
      relocate mode ⟨base, image'⟩ table saveArea mask = .ok run' ∧
      (∀ completion, run.outcome = .ok completion ↔ run'.outcome = .ok completion) ∧
      run.saveArea = run'.saveArea ∧ run.region.data.length = run'.region.data.length ∧
      ∀ i, found.OutsideList i → run.region.data[i]? = run'.region.data[i]? := by
  have hsurvey : survey mode ⟨base, image⟩ table = _ := survey_of_survey hfound
  have hsurvey' : survey mode ⟨base, image'⟩ table = _ := survey_of_survey hfound'
  by_cases hwidth : mode.pointerSize < found.pointerSize
  · rw [if_pos hwidth] at hsurvey hsurvey'
    exact ⟨_, _, relocate_of_turnedDown hsurvey saveArea mask,
      relocate_of_turnedDown hsurvey' saveArea mask, fun _ => by simp, rfl, hlength, hsame⟩
  rw [if_neg hwidth] at hsurvey hsurvey'
  have husable := survey_eq_ok_iff.mp hsurvey
  have husable' := survey_eq_ok_iff.mp hsurvey'
  have hfaultless_iff := Survey.faultless_iff_of_perm hlength hperm
  rcases scan_cases husable with ⟨-, hfaultless⟩ | ⟨refusal, -, hfault⟩
  · -- both relocations complete
    have hfaultless' := hfaultless_iff.mp hfaultless
    have htable := hapart.tableApart hfaultless
    have htable' := (hapart.of_perm hlength hperm).tableApart hfaultless'
    obtain ⟨run, patching, hrun, hcompletes⟩ :=
      htable.listApart.exists_completes husable hfaultless saveArea mask
    obtain ⟨run', patching', hrun', hcompletes'⟩ :=
      htable'.listApart.exists_completes husable' hfaultless' saveArea mask
    have hrelocated := htable.relocated husable hfaultless hcompletes.patchRun
    have hrelocated' := htable'.relocated husable' hfaultless' hcompletes'.patchRun
    have hregisters := hcompletes.registers.symm.trans hcompletes'.registers
    simp only [Except.ok.injEq, Prod.mk.injEq] at hregisters
    obtain ⟨hchanges, harea⟩ := hregisters
    refine ⟨run, run', hrun, hrun', ?_, harea, ?_, ?_⟩
    · intro completion
      rw [hcompletes.outcome, hcompletes'.outcome, hchanges]
      rfl
    · rw [hcompletes.region_eq, hcompletes'.region_eq]
      exact hrelocated.length.trans (hlength.trans hrelocated'.length.symm)
    · intro i hi
      rw [hcompletes.region_eq, hcompletes'.region_eq]
      exact hrelocated.getElem?_of_perm hrelocated' htable hperm hsame hi
  · -- both images have an entry at fault and stay as they are
    obtain ⟨refusal', hfault'⟩ : ∃ refusal', found.FirstFault image' refusal' := by
      rcases scan_cases husable' with ⟨-, hfaultless'⟩ | ⟨refusal', -, hfault'⟩
      · exact absurd (hfaultless_iff.mpr hfaultless') hfault.not_faultless
      · exact ⟨refusal', hfault'⟩
    exact ⟨_, _, relocate_of_firstFault husable hfault saveArea mask,
      relocate_of_firstFault husable' hfault' saveArea mask, fun _ => by simp, rfl, hlength, hsame⟩

/-- A word, three bytes and a halfword, and a table of them that ends with the given list. -/
def mixedImage (list : Storage) : Storage :=
  [0x00, 0x00, 0x10, 0x04, 0x00, 0x10, 0x08, 0x10, 0x0C, 0x00, 0x00, 0x00, 0x00, 0x00, 0x00, 0x00,
    0xD9, 0xC5, 0xD3, 0xD6, 0xC3, 0xE3, 0xC2, 0xD3, 0x00, 0x00, 0x10, 0x00, 0x00, 0x00, 0x10, 0x04,
    0x00, 0x00, 0x10, 0x2E, 0x00, 0x00, 0x00, 0x02, 0x00, 0x00, 0x10, 0x33, 0x04, 0x00] ++ list

/-- The entries of the word, the three bytes and the halfword, in this order. -/
def wordFirst : Storage :=
  [0xC0, 0x00, 0x80, 0x04, 0x40, 0x07]

/-- The entries of the halfword, the word and the three bytes, in this order. -/
def halfwordFirst : Storage :=
  [0x40, 0x07, 0xC0, 0x00, 0x80, 0x04]

/-- Both orders of the three entries move the three address constants to `0x5000`. -/
theorem patch_order_irrelevant_mixed :
    ∃ found, survey .bits64 ⟨0x5000, mixedImage wordFirst⟩ 0x5010 = .ok (.ok found) ∧
      survey .bits64 ⟨0x5000, mixedImage halfwordFirst⟩ 0x5010 = .ok (.ok found) ∧
      (found.entries (mixedImage wordFirst)).Perm (found.entries (mixedImage halfwordFirst)) ∧
      found.InsideApart (mixedImage wordFirst) ∧
      ∃ run run',
        relocate .bits31 ⟨0x5000, mixedImage wordFirst⟩ 0x5010 .clear (some ⟨0xFFFF⟩) = .ok run ∧
        relocate .bits31 ⟨0x5000, mixedImage halfwordFirst⟩ 0x5010 .clear (some ⟨0xFFFF⟩) =
          .ok run' ∧
        run.outcome = .ok ⟨some 0x5004, .up 0x4000, 3, 14⟩ ∧
        run'.outcome = .ok ⟨some 0x5004, .up 0x4000, 3, 14⟩ ∧ run.saveArea = run'.saveArea ∧
        run.region.data.take 9 = [0x00, 0x00, 0x50, 0x04, 0x00, 0x50, 0x08, 0x50, 0x0C] ∧
        ∀ i, i < 46 → run.region.data[i]? = run'.region.data[i]? := by
  have hsurvey : survey .bits64 ⟨0x5000, mixedImage wordFirst⟩ 0x5010 = .ok (.ok
      { offset := 16, pointerSize := 4, codec := ⟨2, 2, by decide, by decide⟩, listOffset := 46
        listLength := 6
        header := ⟨Header.mark, 0x1000, 0x1004, 0x102E, 2, 0x1033, 4, .notStarted⟩ }) := by
    decide +kernel
  have hsurvey' : survey .bits64 ⟨0x5000, mixedImage halfwordFirst⟩ 0x5010 = _ :=
    Eq.trans (by decide +kernel) hsurvey
  have hsame : ∀ i, i < 46 ∨ 52 ≤ i →
      (mixedImage wordFirst)[i]? = (mixedImage halfwordFirst)[i]? := by
    rintro i (hi | hi)
    · exact (List.getElem?_append_left hi).trans (List.getElem?_append_left hi).symm
    · exact (List.getElem?_eq_none hi).trans (List.getElem?_eq_none hi).symm
  refine ⟨_, hsurvey, hsurvey', by decide +kernel, ⟨fun i _ hi => Or.inl hi, by decide +kernel,
    by decide +kernel, by decide +kernel⟩, ?_⟩
  obtain ⟨run, run', hrun, hrun', houtcome, harea, -, hbytes⟩ := patch_order_irrelevant .bits31
    0x5000 0x5010 (mixedImage wordFirst) (mixedImage halfwordFirst) .clear (some ⟨0xFFFF⟩) hsurvey
    hsurvey' rfl hsame (by decide +kernel)
    ⟨fun i _ hi => Or.inl hi, by decide +kernel, by decide +kernel, by decide +kernel⟩
  have hfacts : (relocate .bits31 ⟨0x5000, mixedImage wordFirst⟩ 0x5010 .clear
      (some ⟨0xFFFF⟩)).map (fun run => (run.outcome, run.region.data.take 9)) =
        .ok (.ok ⟨some 0x5004, .up 0x4000, 3, 14⟩,
          [0x00, 0x00, 0x50, 0x04, 0x00, 0x50, 0x08, 0x50, 0x0C]) := by
    decide +kernel
  rw [hrun] at hfacts
  simp only [Except.map, Except.ok.injEq, Prod.mk.injEq] at hfacts
  exact ⟨run, run', hrun, hrun', hfacts.1, (houtcome _).mp hfacts.1, harea, hfacts.2,
    fun i hi => hbytes i (Or.inl hi)⟩

end Relocation
