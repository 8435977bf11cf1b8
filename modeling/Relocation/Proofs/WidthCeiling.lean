import Relocation.Proofs.Relocate

/-!
# Tables that are too wide for a mode

A relocation is refused for the width of its addresses in two places: by the survey, when the
pointers of the table are wider than those of the mode, and by the check of an entry, when the entry
describes a field that is wider than the mode can adjust.  The second refusal is never given.  A
table that passes the survey has pointers that the mode supports, and its codec has no bits for the
width of a wider field, whatever bytes an entry is unpacked from; so it does not matter that the list
can change while it is being patched.

The main result is `refused_for_width_iff`, which says when the first refusal is given and what it
says.
-/

namespace Relocation

/-- The refusal is one for the width of addresses. -/
def Refusal.ForWidth : Refusal → Prop
  | addressTooWide _ _ => True
  | _ => False

/-! ### The check of entries -/

/-- An entry is never at fault for its width. -/
lemma Entry.not_forWidth_of_fault? {entry : Entry} {regionSize index : Nat} {refusal : Refusal}
    (h : entry.fault? regionSize index = some refusal) : ¬ refusal.ForWidth := by
  unfold fault? at h
  split at h
  · cases h
    exact not_false
  split at h
  · cases h
    exact not_false
  · cases h

section Entries

variable {mode : AddressingMode} {region : Region} {table : Doubleword} {found : Survey}

/-- No entry that is read for a usable table is turned down for its width. -/
lemma Survey.Usable.not_forWidth_of_checkEntry (h : found.Usable mode region table)
    {packed : Storage} {entry : Entry} (hpacked : packed.length = found.codec.entrySize)
    (hread : found.codec.read packed = .ok entry) {regionSize index : Nat} {refusal : Refusal}
    (hcheck : checkEntry mode regionSize index entry = .error refusal) : ¬ refusal.ForWidth := by
  rw [EntryCodec.read_eq hpacked] at hread
  cases hread
  have hlt : (Doubleword.ofBytes packed).toNat < 256 ^ found.codec.entrySize := by
    rw [← hpacked]
    exact Doubleword.toNat_ofBytes_lt (hpacked.trans_le found.codec.entrySize_le)
  rw [checkEntry_eq (h.length_unpack_le hlt)] at hcheck
  cases hfault : (found.codec.unpack (Doubleword.ofBytes packed)).fault? regionSize index with
  | none =>
    rw [hfault] at hcheck
    cases hcheck
  | some fault =>
    rw [hfault] at hcheck
    cases hcheck
    exact Entry.not_forWidth_of_fault? hfault

/-- No list of packed entries is turned down for the width of a field. -/
lemma Survey.Usable.not_forWidth_of_scanEntries (h : found.Usable mode region table)
    {regionSize : Nat} {pieces : List Storage}
    (hpieces : ∀ packed ∈ pieces, packed.length = found.codec.entrySize) {index : Nat}
    {refusal : Refusal}
    (hscan : scanEntries mode found.codec regionSize index pieces = .ok (.error refusal)) :
    ¬ refusal.ForWidth := by
  induction pieces generalizing index with
  | nil => cases hscan
  | cons packed rest ih =>
    obtain ⟨hpacked, hrest⟩ := List.forall_mem_cons.mp hpieces
    rw [scanEntries] at hscan
    obtain ⟨entry, hread, hscan⟩ := Checked.bind_eq_ok_iff.mp hscan
    split at hscan
    · rename_i fault hcheck
      cases hscan
      exact h.not_forWidth_of_checkEntry hpacked hread hcheck
    · exact ih hrest hscan

/-- The scan of a usable table never turns down a list for the width of a field, whatever bytes the
region has by then. -/
theorem Survey.Usable.not_forWidth_of_scan (h : found.Usable mode region table)
    {scanned : Region} {refusal : Refusal}
    (hscan : scan mode scanned found = .ok (.error refusal)) : ¬ refusal.ForWidth := by
  obtain ⟨list, -, hscan⟩ := Checked.bind_eq_ok_iff.mp hscan
  exact h.not_forWidth_of_scanEntries (fun _ => EntryCodec.length_of_mem_pieces) hscan

/-- No entry is turned down for its width when its turn to be patched has come. -/
lemma Survey.Usable.not_forWidth_of_patchEntry (h : found.Usable mode region table)
    {a : Adjustment} {index : Nat} {storage : Storage} {refusal : Refusal}
    (hpatch : patchEntry mode found a index storage = .ok (.error refusal)) :
    ¬ refusal.ForWidth := by
  obtain ⟨packed, hslice, hpatch⟩ := Checked.bind_eq_ok_iff.mp hpatch
  obtain ⟨entry, hread, hpatch⟩ := Checked.bind_eq_ok_iff.mp hpatch
  have hpacked : packed.length = found.codec.entrySize := Storage.length_of_slice hslice
  split at hpatch
  · rename_i fault hcheck
    cases hpatch
    exact h.not_forWidth_of_checkEntry hpacked hread hcheck
  · obtain ⟨before, -, hpatch⟩ := Checked.bind_eq_ok_iff.mp hpatch
    obtain ⟨patched, -, hpatch⟩ := Checked.bind_eq_ok_iff.mp hpatch
    cases hpatch

/-- The patch loop never stops for the width of a field, whatever it starts with and however the
list changes under it. -/
theorem Survey.Usable.not_forWidth_of_patchEntries (h : found.Usable mode region table)
    {a : Adjustment} {count index : Nat} {storage : Storage} {patching : Patching}
    {refusal : Refusal}
    (hpatch : patchEntries mode found a count index storage = .ok patching)
    (hrefusal : patching.refusal = some refusal) : ¬ refusal.ForWidth := by
  induction count generalizing index storage patching with
  | zero =>
    cases hpatch
    cases hrefusal
  | succ count ih =>
    rw [patchEntries] at hpatch
    obtain ⟨result, hentry, hpatch⟩ := Checked.bind_eq_ok_iff.mp hpatch
    cases result with
    | error fault =>
      cases hpatch
      cases hrefusal
      exact h.not_forWidth_of_patchEntry hentry
    | ok patched =>
      obtain ⟨rest, hrest, hpatch⟩ := Checked.bind_eq_ok_iff.mp hpatch
      cases hpatch
      exact ih hrest hrefusal

end Entries

/-! ### The survey -/

/-- There is a table with pointers of eight bytes at the address, and it was not used yet. -/
def Region.HasFreshWideTable (region : Region) (table : Doubleword) : Prop :=
  ∃ offset header, region.offset? table 8 = some offset ∧
    region.data.fetch offset 8 = .ok Header.mark ∧
    Header.locate (region.data.drop offset) = .ok (some (8, header)) ∧
    header.status = .notStarted

section Surveys

variable {mode : AddressingMode} {region : Region} {table : Doubleword}

/-- A wide table that was not used yet, as a header that stands in the region. -/
lemma Region.hasFreshWideTable_iff :
    region.HasFreshWideTable table ↔ ∃ located : FoundHeader, located.Stands region table ∧
      located.pointerSize = 8 ∧ located.header.status = .notStarted := by
  constructor
  · rintro ⟨offset, header, hoffset, hmark, hlocate, hstatus⟩
    obtain ⟨hbase, heq, hroom⟩ := offset?_eq_some_iff.mp hoffset
    rw [Storage.fetch_eq hroom le_rfl] at hmark
    exact ⟨⟨offset, 8, header⟩, ⟨hbase, heq, hroom, Except.ok.inj hmark, hlocate⟩, rfl, hstatus⟩
  · rintro ⟨⟨offset, pointerSize, header⟩, ⟨hbase, heq, hroom, hmark, hlocate⟩, rfl, hstatus⟩
    refine ⟨offset, header, offset?_eq_some_iff.mpr ⟨hbase, heq, hroom⟩, ?_, hlocate, hstatus⟩
    rw [Storage.fetch_eq hroom le_rfl]
    exact congrArg Except.ok hmark

/-- The pointers of a header are too wide for a mode exactly when they have eight bytes and those of
the mode four. -/
lemma FoundHeader.Stands.pointerSize_lt_iff {located : FoundHeader}
    (h : located.Stands region table) :
    mode.pointerSize < located.pointerSize ↔ located.pointerSize = 8 ∧ mode.pointerSize = 4 := by
  have hcases := (Header.locate_eq_some_iff.mp h.locate_eq).1
  have hmode : mode.pointerSize = 4 ∨ mode.pointerSize = 8 := by cases mode <;> decide
  omega

/-- The modes with pointers of four bytes. -/
lemma AddressingMode.pointerSize_eq_four_iff :
    mode.pointerSize = 4 ↔ mode = .bits24 ∨ mode = .bits31 := by
  cases mode <;> decide

/-- A survey turns down a table for the width of its pointers exactly when the table is wide and was
not used yet and the mode has pointers of four bytes. -/
theorem survey_forWidth_iff {refusal : Refusal} :
    survey mode region table = .ok (.error refusal) ∧ refusal.ForWidth ↔
      region.HasFreshWideTable table ∧ mode.pointerSize = 4 ∧
        refusal = .addressTooWide 8 4 := by
  rw [Region.hasFreshWideTable_iff]
  constructor
  · rintro ⟨hsurvey, hwidth⟩
    obtain ⟨result, hheader⟩ := exists_headerAt region table
    cases result with
    | error fault =>
      rw [survey_of_headerAt_error hheader] at hsurvey
      cases hsurvey
      exact hwidth.elim
    | ok located =>
      have hstands := headerAt_eq_ok_iff.mp hheader
      obtain ⟨codec, hcodec⟩ := hstands.exists_codec
      rw [survey_of_headerAt hheader, hstands.surveyRegardless_eq hcodec] at hsurvey
      split at hsurvey
      · cases hsurvey
        exact hwidth.elim
      rename_i hstatus
      split at hsurvey
      · rename_i hlt
        obtain ⟨height, hfour⟩ := hstands.pointerSize_lt_iff.mp hlt
        cases hsurvey
        rw [height, hfour]
        exact ⟨⟨located, hstands, height, not_not.mp hstatus⟩, rfl, rfl⟩
      split at hsurvey
      · cases hsurvey
      · cases hsurvey
        exact hwidth.elim
  · rintro ⟨⟨located, hstands, height, hstatus⟩, hfour, rfl⟩
    have hlt := hstands.pointerSize_lt_iff.mpr ⟨height, hfour⟩
    rw [survey_of_headerAt (headerAt_eq_ok_iff.mpr hstands), if_neg (not_not.mpr hstatus),
      if_pos hlt, height, hfour]
    exact ⟨rfl, trivial⟩

end Surveys

/-- Only the survey refuses a relocation for the width of addresses, and then nothing has changed. -/
lemma survey_of_relocate_forWidth {mode : AddressingMode} {region : Region} {table : Doubleword}
    {saveArea : SaveArea} {mask : Option RegisterMask} {run : Run}
    (hrun : relocate mode region table saveArea mask = .ok run) {refusal : Refusal}
    (houtcome : run.outcome = .error refusal) (hwidth : refusal.ForWidth) :
    survey mode region table = .ok (.error refusal) ∧ run.region = region ∧
      run.saveArea = saveArea := by
  obtain ⟨surveyed, hsurvey, hrun⟩ := Checked.bind_eq_ok_iff.mp hrun
  cases surveyed with
  | error reason =>
    cases hrun
    cases houtcome
    exact ⟨hsurvey, rfl, rfl⟩
  | ok found =>
    have husable := survey_eq_ok_iff.mp hsurvey
    obtain ⟨scanned, hscan, hrun⟩ := Checked.bind_eq_ok_iff.mp hrun
    cases scanned with
    | error reason =>
      cases hrun
      cases houtcome
      exact absurd hwidth (husable.not_forWidth_of_scan hscan)
    | ok =>
      obtain ⟨started, -, hrun⟩ := Checked.bind_eq_ok_iff.mp hrun
      obtain ⟨patching, hpatch, hrun⟩ := Checked.bind_eq_ok_iff.mp hrun
      cases hrefusal : patching.refusal with
      | some reason =>
        rw [hrefusal] at hrun
        cases hrun
        cases houtcome
        exact absurd hwidth (husable.not_forWidth_of_patchEntries hpatch hrefusal)
      | none =>
        rw [hrefusal] at hrun
        obtain ⟨registers, -, hrun⟩ := Checked.bind_eq_ok_iff.mp hrun
        obtain ⟨completed, -, hrun⟩ := Checked.bind_eq_ok_iff.mp hrun
        cases hrun
        cases houtcome

/-- A relocation is refused for the width of addresses exactly when the table is wide, was not used
yet and the mode is one of the narrow ones; the refusal then names the two widths, and nothing has
changed.  Behind the survey no entry is turned down for its width, neither by the scan nor by the
patch loop, whatever the entry list is by then. -/
theorem refused_for_width_iff (mode : AddressingMode) (region : Region) (table : Doubleword)
    (saveArea : SaveArea) (mask : Option RegisterMask) :
    (∃ run, relocate mode region table saveArea mask = .ok run ∧
      ((∃ refusal, run.outcome = .error refusal ∧ refusal.ForWidth) ↔
        region.HasFreshWideTable table ∧ (mode = .bits24 ∨ mode = .bits31)) ∧
      ∀ refusal, run.outcome = .error refusal → refusal.ForWidth →
        refusal = .addressTooWide 8 4 ∧ run.region = region ∧ run.saveArea = saveArea) ∧
    ∀ found, survey mode region table = .ok (.ok found) →
      (∀ scanned refusal, scan mode scanned found = .ok (.error refusal) → ¬ refusal.ForWidth) ∧
      ∀ a count index storage patching refusal,
        patchEntries mode found a count index storage = .ok patching →
        patching.refusal = some refusal → ¬ refusal.ForWidth := by
  constructor
  · obtain ⟨run, hrun, -⟩ := exists_relocates mode region table saveArea mask
    refine ⟨run, hrun, ⟨?_, ?_⟩, ?_⟩
    · rintro ⟨refusal, houtcome, hwidth⟩
      obtain ⟨hsurvey, -, -⟩ := survey_of_relocate_forWidth hrun houtcome hwidth
      obtain ⟨htable, hfour, -⟩ := survey_forWidth_iff.mp ⟨hsurvey, hwidth⟩
      exact ⟨htable, AddressingMode.pointerSize_eq_four_iff.mp hfour⟩
    · rintro ⟨htable, hmode⟩
      have hfour := AddressingMode.pointerSize_eq_four_iff.mpr hmode
      obtain ⟨hsurvey, hwidth⟩ := survey_forWidth_iff.mpr ⟨htable, hfour, rfl⟩
      rw [relocate_of_turnedDown hsurvey] at hrun
      cases hrun
      exact ⟨_, rfl, hwidth⟩
    · intro refusal houtcome hwidth
      obtain ⟨hsurvey, hregion, hregisters⟩ := survey_of_relocate_forWidth hrun houtcome hwidth
      obtain ⟨-, -, hrefusal⟩ := survey_forWidth_iff.mp ⟨hsurvey, hwidth⟩
      exact ⟨hrefusal, hregion, hregisters⟩
  · intro found hfound
    have husable := survey_eq_ok_iff.mp hfound
    constructor
    · intro scanned refusal hscan
      exact husable.not_forWidth_of_scan hscan
    · intro a count index storage patching refusal hpatch hrefusal
      exact husable.not_forWidth_of_patchEntries hpatch hrefusal

/-- A doubleword address constant with a table that has wide pointers and ends with the given packed
entry. -/
def doublewordImage (entry : Storage) : Storage :=
  [0x00, 0x00, 0x00, 0x00, 0x00, 0x00, 0x10, 0x00,
    0xD9, 0xC5, 0xD3, 0xD6, 0xC3, 0xE3, 0xC2, 0xD3, 0x00, 0x00, 0x00, 0x00, 0x00, 0x00, 0x10, 0x00,
    0x00, 0x00, 0x00, 0x00, 0x00, 0x00, 0x10, 0x00, 0x00, 0x00, 0x00, 0x00, 0x00, 0x00, 0x10, 0x3A,
    0x00, 0x00, 0x00, 0x00, 0x00, 0x00, 0x00, 0x02, 0x00, 0x00, 0x00, 0x00, 0x00, 0x00, 0x10, 0x3B,
    0x08, 0x00] ++ entry

/-- The wide table is refused by a 31-bit relocation for its pointers.  A 64-bit one takes it, and
when its entry has become one for a doubleword far behind the region, it is turned down for another
reason than its width. -/
theorem refused_for_width_doubleword :
    (∃ run, relocate .bits31 ⟨0x5000, doublewordImage [0xE0, 0x00]⟩ 0x5008 .clear
        (some ⟨0xFFFF⟩) = .ok run ∧ run.outcome = .error (.addressTooWide 8 4) ∧
      run.region = ⟨0x5000, doublewordImage [0xE0, 0x00]⟩ ∧ run.saveArea = .clear) ∧
    ∃ found, survey .bits64 ⟨0x5000, doublewordImage [0xE0, 0x00]⟩ 0x5008 = .ok (.ok found) ∧
      ∃ refusal, scan .bits64 ⟨0x5000, doublewordImage [0xFF, 0xFF]⟩ found =
        .ok (.error refusal) ∧ ¬ refusal.ForWidth := by
  constructor
  · obtain ⟨⟨run, hrun, hiff, hrefusal⟩, -⟩ := refused_for_width_iff .bits31
      ⟨0x5000, doublewordImage [0xE0, 0x00]⟩ 0x5008 .clear (some ⟨0xFFFF⟩)
    have htable : Region.HasFreshWideTable ⟨0x5000, doublewordImage [0xE0, 0x00]⟩ 0x5008 :=
      ⟨8, ⟨Header.mark, 0x1000, 0x1000, 0x103A, 2, 0x103B, 8, .notStarted⟩, by decide,
        by decide +kernel, by decide +kernel, rfl⟩
    obtain ⟨refusal, houtcome, hwidth⟩ := hiff.mpr ⟨htable, Or.inr rfl⟩
    obtain ⟨rfl, hregion, hregisters⟩ := hrefusal refusal houtcome hwidth
    exact ⟨run, hrun, houtcome, hregion, hregisters⟩
  · have hsurvey : survey .bits64 ⟨0x5000, doublewordImage [0xE0, 0x00]⟩ 0x5008 = .ok (.ok
        { offset := 8, pointerSize := 8, codec := ⟨2, 3, by decide, by decide⟩, listOffset := 58
          listLength := 2
          header := ⟨Header.mark, 0x1000, 0x1000, 0x103A, 2, 0x103B, 8, .notStarted⟩ }) := by
      decide +kernel
    obtain ⟨-, hentries⟩ := refused_for_width_iff .bits64
      ⟨0x5000, doublewordImage [0xE0, 0x00]⟩ 0x5008 .clear none
    refine ⟨_, hsurvey, .entryOutsideRegion 0 0x1FFF, by decide +kernel, ?_⟩
    exact (hentries _ hsurvey).1 ⟨0x5000, doublewordImage [0xFF, 0xFF]⟩ _ (by decide +kernel)

end Relocation
