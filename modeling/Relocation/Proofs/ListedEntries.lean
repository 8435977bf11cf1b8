import Relocation.CommandLine.Execute
import Relocation.Proofs.Building
import Relocation.Proofs.ListingText
import Relocation.Proofs.ModeBit

/-!
# What a listing shows is what a relocation reads

A listing looks up the table of an image at the address the image is listed at, a relocation at the
address the image is loaded at.  The two come to the entry list on different ways: the listing takes
the base it was told from the address of the first entry, the relocation takes the assembled base of
the header from it.  This file shows that they read the same bytes.  `headerAt_of_movedTable` says
that both find the same header, and `Stands.listEntries_eq` and `Stands.surveyRegardless_eq` that
both reach the entry list under the same condition.  `DumpOptions.Dumps` says which entries the
printed lines show, `Survey.Validates` which entries the scan reads and checks, and both hold of the
same list (`list_of_surveyRegardless`, `validates_entries`).

The main result is `listing_shows_what_relocation_reads`.
-/

namespace Relocation

open CommandLine

/-! ### Tables that have moved with their image -/

section Moving

variable {base table newBase moved : Doubleword}

/-- The address of a table moves by the distance between the two bases. -/
lemma movedTable_eq_ok_iff :
    movedTable base table newBase = .ok moved ↔
      base ≤ table ∧ moved.toNat = newBase.toNat + (table.toNat - base.toNat) := by
  unfold movedTable
  by_cases hle : base ≤ table
  · have hsub : table.sub? base = some (table - base) :=
      Doubleword.sub?_eq_some_iff.mpr ⟨hle, rfl⟩
    rw [hsub]
    dsimp only
    rw [← UInt64.toNat_sub_of_le _ _ hle, and_iff_right hle, ← Doubleword.add?_eq_some_iff]
    cases newBase.add? (table - base) with
    | none => simp
    | some sum => simp
  · have hsub : table.sub? base = none := if_neg hle
    rw [hsub]
    simp [hle]

/-- A table moves with its image unless it lies in front of the image or would move past the top of
storage. -/
lemma exists_movedTable_iff :
    (∃ moved, movedTable base table newBase = .ok moved) ↔
      base ≤ table ∧ newBase.toNat + (table.toNat - base.toNat) < 2 ^ 64 := by
  constructor
  · rintro ⟨moved, hmoved⟩
    obtain ⟨hle, hsum⟩ := movedTable_eq_ok_iff.mp hmoved
    exact ⟨hle, hsum ▸ moved.toNat_lt⟩
  · rintro ⟨hle, hlt⟩
    refine ⟨UInt64.ofNat (newBase.toNat + (table.toNat - base.toNat)), ?_⟩
    exact movedTable_eq_ok_iff.mpr ⟨hle, UInt64.toNat_ofNat_of_lt' hlt⟩

/-- A table that has moved with its image has the offset that it had. -/
lemma offset?_of_movedTable (h : movedTable base table newBase = .ok moved) (image : Storage)
    (length : Nat) :
    Region.offset? ⟨newBase, image⟩ moved length = Region.offset? ⟨base, image⟩ table length := by
  obtain ⟨hle, hsum⟩ := movedTable_eq_ok_iff.mp h
  have hle' : newBase ≤ moved := by
    rw [UInt64.le_iff_toNat_le]
    omega
  have hsame : (moved - newBase).toNat = (table - base).toNat := by
    rw [UInt64.toNat_sub_of_le _ _ hle', UInt64.toNat_sub_of_le _ _ hle]
    omega
  simp only [Region.offset?, Region.ContainsOffset, Region.size, hle, hle', hsame]

/-- A table that has moved with its image has the header that it had. -/
theorem headerAt_of_movedTable (h : movedTable base table newBase = .ok moved) (image : Storage) :
    Region.headerAt ⟨newBase, image⟩ moved = Region.headerAt ⟨base, image⟩ table := by
  unfold Region.headerAt
  rw [offset?_of_movedTable h]

end Moving

/-! ### The entry list -/

/-- Cutting the entry list into pieces gives the entries of the table. -/
lemma Survey.map_unpack_pieces {found : Survey} {storage : Storage}
    (h : found.listOffset + found.listLength ≤ storage.length) :
    (((storage.part found.listOffset found.listLength).pieces found.codec.entrySize).map
      fun piece => found.codec.unpack (Doubleword.ofBytes piece)) = found.entries storage := by
  apply List.ext_getElem
  · simp [Survey.entries, Survey.entryCount, Storage.pieces, Storage.length_part h]
  · intro k hk hk'
    rw [List.length_map] at hk
    simp only [List.getElem_map, getElem_pieces_part h hk, Survey.entries, List.getElem_range]
    rfl

section Listing

variable {image : Storage} {base table : Doubleword} {located : FoundHeader} {codec : EntryCodec}

/-- The entries of a table that is listed at its assembled base are shown if the list lies in the
image. -/
theorem FoundHeader.Stands.listEntries_eq (h : located.Stands ⟨base, image⟩ table)
    (hcodec : located.header.codec? = some codec) (hbase : located.header.assembledBase = base) :
    Region.listEntries ⟨base, image⟩ located.header =
      .ok (if located.ListInside ⟨base, image⟩ then
          .ok ⟨codec.lengthBits, (located.toSurvey codec).entries image⟩
        else .error .outside) := by
  obtain ⟨-, hle, -, -⟩ := h.consistent
  have hbits : Header.lengthBits? located.header.registerWidth = some codec.lengthBits := by
    rcases (Header.codec?_eq_some_iff.mp hcodec).2 with ⟨hwidth, hbits⟩ | ⟨hwidth, hbits⟩
    · rw [hwidth, hbits]
      rfl
    · rw [hwidth, hbits]
      rfl
  unfold Region.listEntries
  rw [hbits]
  dsimp only
  by_cases hinside : located.ListInside ⟨base, image⟩
  · have hoffset : Region.offset? ⟨base, image⟩ located.header.firstEntry
        located.header.listLength.toNat = some (located.toSurvey codec).listOffset := by
      rw [offset?_eq_some_iff, ← hbase]
      exact ⟨hle, rfl, hinside⟩
    have hlist : (located.toSurvey codec).listOffset + (located.toSurvey codec).listLength ≤
        image.length := hinside
    have hslice : image.slice (located.toSurvey codec).listOffset
        located.header.listLength.toNat = .ok _ := Storage.slice_eq hlist
    rw [hoffset, if_pos hinside, ← Survey.map_unpack_pieces hlist]
    simp only [hslice, Checked.ok_bind, Header.entries, hcodec, EntryCodec.readList_eq]
    rfl
  · have hoffset : Region.offset? ⟨base, image⟩ located.header.firstEntry
        located.header.listLength.toNat = none := by
      apply if_neg
      rintro ⟨-, hcontains⟩
      rw [← hbase] at hcontains
      exact hinside hcontains
    rw [hoffset, if_neg hinside]

/-- The listing of a table that was found has the header and what is known of the entries. -/
lemma FoundHeader.Stands.list_eq (h : located.Stands ⟨base, image⟩ table)
    {entries : Except ListFault EntryListing}
    (hentries : Region.listEntries ⟨base, image⟩ located.header = .ok entries) :
    Region.list ⟨base, image⟩ table = .ok (.ok ⟨table, located.header, entries⟩) := by
  unfold Region.list
  rw [headerAt_eq_ok_iff.mpr h, Checked.ok_bind]
  dsimp only
  rw [hentries]
  rfl

/-- The survey comes to the entry list of a table that was found exactly when the list lies in the
region. -/
lemma FoundHeader.Stands.surveyRegardless_ne_iff {region : Region}
    (h : located.Stands region table) :
    surveyRegardless region table ≠ .ok (.error (.badTablePointer table)) ↔
      located.ListInside region := by
  obtain ⟨codec, hcodec⟩ := h.exists_codec
  rw [h.surveyRegardless_eq hcodec]
  by_cases hinside : located.ListInside region
  · simp [hinside]
  · simp [hinside]

/-- A listing with entries is printed, the header first. -/
lemma list_of_shown {header : Header} {shown : EntryListing}
    (h : Region.list ⟨base, image⟩ table = .ok (.ok ⟨table, header, .ok shown⟩)) (file : String) :
    DumpOptions.list ⟨file, base, table⟩ image =
      ⟨(header.report table ++ shown.report).map .text, .success⟩ := by
  unfold DumpOptions.list
  rw [h, List.map_append]
  rfl

/-- The command prints the header and then lines that show these entries and no others. -/
structure CommandLine.DumpOptions.Dumps (options : DumpOptions) (image : Storage) (header : Header)
    (listing : EntryListing) (lines : List String) : Prop where
  printed : options.list image = ⟨(header.report options.table ++ lines).map .text, .success⟩
  shown : listing.ShownBy lines
  only : ∀ other : EntryListing, other.ShownBy lines → other.entries = listing.entries

/-- A listing with entries is dumped. -/
lemma dumps_of_shown {header : Header} {shown : EntryListing}
    (h : Region.list ⟨base, image⟩ table = .ok (.ok ⟨table, header, .ok shown⟩)) (file : String) :
    DumpOptions.Dumps ⟨file, base, table⟩ image header shown shown.report where
  printed := list_of_shown h file
  shown := shown.shownBy_report
  only _ hother := hother.unique shown.shownBy_report

/-- A listing without entries is no success. -/
lemma ending_list_of_fault {header : Header} {fault : ListFault}
    (h : Region.list ⟨base, image⟩ table = .ok (.ok ⟨table, header, .error fault⟩))
    (file : String) :
    (DumpOptions.list ⟨file, base, table⟩ image).ending ≠ .success := by
  unfold DumpOptions.list
  rw [h]
  exact Ending.noConfusion

/-- Listing a table at its assembled base succeeds exactly when the entry list lies in the image. -/
lemma FoundHeader.Stands.ending_list_iff (h : located.Stands ⟨base, image⟩ table)
    (hbase : located.header.assembledBase = base) (file : String) :
    (DumpOptions.list ⟨file, base, table⟩ image).ending = .success ↔
      located.ListInside ⟨base, image⟩ := by
  obtain ⟨codec, hcodec⟩ := h.exists_codec
  have hlist := h.list_eq (h.listEntries_eq hcodec hbase)
  by_cases hinside : located.ListInside ⟨base, image⟩
  · rw [if_pos hinside] at hlist
    rw [list_of_shown hlist]
    exact iff_of_true rfl hinside
  · rw [if_neg hinside] at hlist
    exact iff_of_false (ending_list_of_fault hlist file) hinside

/-- When the survey of a moved image comes to the entry list, the list lies in the image, and the
listing shows the entries of the table that was found. -/
lemma FoundHeader.Stands.list_of_surveyRegardless {newBase moved : Doubleword} {found : Survey}
    (h : located.Stands ⟨base, image⟩ table) (h' : located.Stands ⟨newBase, image⟩ moved)
    (hbase : located.header.assembledBase = base)
    (hfound : surveyRegardless ⟨newBase, image⟩ moved = .ok (.ok found)) :
    found.listOffset + found.listLength ≤ image.length ∧
      Region.list ⟨base, image⟩ table =
        .ok (.ok ⟨table, located.header, .ok ⟨found.codec.lengthBits, found.entries image⟩⟩) := by
  obtain ⟨codec, hcodec⟩ := h.exists_codec
  have hlist := h.list_eq (h.listEntries_eq hcodec hbase)
  rw [h'.surveyRegardless_eq hcodec] at hfound
  by_cases hinside : located.ListInside ⟨newBase, image⟩
  · -- the condition does not depend on where the image is
    have hinside' : located.ListInside ⟨base, image⟩ := hinside
    rw [if_pos hinside] at hfound
    rw [if_pos hinside'] at hlist
    cases hfound
    exact ⟨hinside, hlist⟩
  · rw [if_neg hinside] at hfound
    cases hfound

end Listing

/-! ### The scan -/

/-- Checks entries one after the other, the first of them being number `index`. -/
def checkEntries (mode : AddressingMode) (regionSize : Nat) : Nat → List Entry → Except Refusal Unit
  | _, [] => .ok ()
  | index, entry :: rest =>
    match checkEntry mode regionSize index entry with
    | .error refusal => .error refusal
    | .ok () => checkEntries mode regionSize (index + 1) rest

/-- Checking packed entries is checking what they unpack to. -/
lemma scanEntries_eq_checkEntries {mode : AddressingMode} {codec : EntryCodec} {regionSize : Nat}
    {pieces : List Storage} (h : ∀ piece ∈ pieces, piece.length = codec.entrySize) (index : Nat) :
    scanEntries mode codec regionSize index pieces =
      .ok (checkEntries mode regionSize index
        (pieces.map fun piece => codec.unpack (Doubleword.ofBytes piece))) := by
  induction pieces generalizing index with
  | nil => rfl
  | cons piece rest ih =>
    obtain ⟨hpiece, hrest⟩ := List.forall_mem_cons.mp h
    rw [scanEntries, EntryCodec.read_eq hpiece, Checked.ok_bind, List.map_cons, checkEntries]
    cases checkEntry mode regionSize index (codec.unpack (Doubleword.ofBytes piece)) with
    | error refusal => rfl
    | ok => exact ih hrest (index + 1)

/-- The scan checks the entries of the table in their order. -/
theorem scan_eq_checkEntries {region : Region} {found : Survey}
    (h : found.listOffset + found.listLength ≤ region.data.length) (mode : AddressingMode) :
    scan mode region found =
      .ok (checkEntries mode region.data.length 0 (found.entries region.data)) := by
  rw [scan, Storage.slice_eq h, Checked.ok_bind,
    scanEntries_eq_checkEntries (fun _ => EntryCodec.length_of_mem_pieces),
    Survey.map_unpack_pieces h]
  rfl

/-- The scan of a table reads these entries, one from each piece of the list, and checks them in
this order. -/
structure Survey.Validates (found : Survey) (region : Region) (entries : List Entry) : Prop where
  reads : ∃ list, region.data.slice found.listOffset found.listLength = .ok list ∧
    (∀ mode, scan mode region found =
      scanEntries mode found.codec region.size 0 (list.pieces found.codec.entrySize)) ∧
    (list.pieces found.codec.entrySize).mapM found.codec.read = .ok entries
  checks : ∀ mode, scan mode region found = .ok (checkEntries mode region.size 0 entries)

/-- The scan reads and checks the entries of the table. -/
theorem Survey.validates_entries {region : Region} {found : Survey}
    (h : found.listOffset + found.listLength ≤ region.data.length) :
    found.Validates region (found.entries region.data) where
  reads := by
    refine ⟨_, Storage.slice_eq h, fun mode => ?_, ?_⟩
    · rw [scan, Storage.slice_eq h, Checked.ok_bind]
    · rw [← Survey.map_unpack_pieces h]
      exact EntryCodec.readList_eq _ _
  checks := scan_eq_checkEntries h

/-! ### Listing and relocating -/

/-- A listing and a relocation of the same image read the same table.  The address of the table
moves with the image whenever the result is an address; the header is then found at the same offset,
and it is the same.  If the image is listed at its assembled base, all entries are shown exactly
when the survey, its questions for the status and the width left aside, comes to the list.  The
listing then has the entries of the table, the lines printed behind the header show these entries
and no others, and the scan reads and checks the same entries in the same order.  A relocation that
completes has patched as many entries as lines are printed for them. -/
theorem listing_shows_what_relocation_reads (image : Storage) (base table newBase : Doubleword) :
    ((∃ moved, movedTable base table newBase = .ok moved) ↔
      base ≤ table ∧ newBase.toNat + (table.toNat - base.toNat) < 2 ^ 64) ∧
    ∀ moved, movedTable base table newBase = .ok moved →
      Region.offset? ⟨newBase, image⟩ moved 8 = Region.offset? ⟨base, image⟩ table 8 ∧
      Region.headerAt ⟨newBase, image⟩ moved = Region.headerAt ⟨base, image⟩ table ∧
      ∀ located, Region.headerAt ⟨base, image⟩ table = .ok (.ok located) →
        located.header.assembledBase = base →
        (∀ mode, survey mode ⟨newBase, image⟩ moved =
          if located.header.status ≠ .notStarted then .ok (.error .alreadyRelocated)
          else if mode.pointerSize < located.pointerSize then
            .ok (.error (.addressTooWide located.pointerSize mode.pointerSize))
          else surveyRegardless ⟨newBase, image⟩ moved) ∧
        (∀ file, (DumpOptions.list ⟨file, base, table⟩ image).ending = .success ↔
          surveyRegardless ⟨newBase, image⟩ moved ≠ .ok (.error (.badTablePointer moved))) ∧
        (∀ found, surveyRegardless ⟨newBase, image⟩ moved = .ok (.ok found) →
          ∃ shown : EntryListing,
            shown.entries = found.entries image ∧ shown.lengthBits = found.codec.lengthBits ∧
            Region.list ⟨base, image⟩ table = .ok (.ok ⟨table, located.header, .ok shown⟩) ∧
            (∀ file, ∃ lines,
              DumpOptions.Dumps ⟨file, base, table⟩ image located.header shown lines) ∧
            found.Validates ⟨newBase, image⟩ shown.entries) ∧
        ∀ mode saveArea mask run completion,
          relocate mode ⟨newBase, image⟩ moved saveArea mask = .ok run →
          run.outcome = .ok completion →
          ∃ shown : EntryListing,
            Region.list ⟨base, image⟩ table = .ok (.ok ⟨table, located.header, .ok shown⟩) ∧
            completion.entriesPatched = shown.entries.length ∧
            ∀ file, ∃ lines,
              DumpOptions.Dumps ⟨file, base, table⟩ image located.header shown lines ∧
              completion.entriesPatched = lines.length := by
  refine ⟨exists_movedTable_iff, fun moved hmoved => ?_⟩
  have hsame := headerAt_of_movedTable hmoved image
  refine ⟨offset?_of_movedTable hmoved image 8, hsame, fun located hlocated hbase => ?_⟩
  have hstands := headerAt_eq_ok_iff.mp hlocated
  have hheader := hsame.trans hlocated
  have hstands' := headerAt_eq_ok_iff.mp hheader
  refine ⟨fun mode => survey_of_headerAt hheader, ?_, ?_, ?_⟩
  · intro file
    exact (hstands.ending_list_iff hbase file).trans hstands'.surveyRegardless_ne_iff.symm
  · intro found hfound
    obtain ⟨hinside, hlist⟩ := hstands.list_of_surveyRegardless hstands' hbase hfound
    exact ⟨_, rfl, rfl, hlist, fun file => ⟨_, dumps_of_shown hlist file⟩,
      Survey.validates_entries hinside⟩
  · intro mode saveArea mask run completion hrun hcompletion
    obtain ⟨found, patching, husable, hpatchRun, hrefusal, -, -, hpatched⟩ :=
      (relocates_of_eq_ok hrun).of_outcome_ok hcompletion
    have hfound := surveyRegardless_of_survey (survey_eq_ok_iff.mpr husable)
    obtain ⟨-, hlist⟩ := hstands.list_of_surveyRegardless hstands' hbase hfound
    have hcount : completion.entriesPatched = (found.entries image).length := by
      rw [hpatched, hpatchRun.length_patches hrefusal]
      exact (Survey.length_entries image).symm
    refine ⟨_, hlist, hcount, fun file => ?_⟩
    have hdumps := dumps_of_shown hlist file
    exact ⟨_, hdumps, hcount.trans hdumps.shown.1.symm⟩

/-- The listing of two words at their assembled base shows the two entries that a relocation to
`0x5000` checks and patches. -/
theorem listing_shows_two_words :
    movedTable 0x1000 0x1008 0x5000 = .ok 0x5008 ∧
    ∃ located found shown run completion,
      Region.headerAt ⟨0x1000, carryingImage⟩ 0x1008 = .ok (.ok located) ∧
      located.header.assembledBase = 0x1000 ∧
      surveyRegardless ⟨0x5000, carryingImage⟩ 0x5008 = .ok (.ok found) ∧
      Region.list ⟨0x1000, carryingImage⟩ 0x1008 = .ok (.ok ⟨0x1008, located.header, .ok shown⟩) ∧
      shown.entries = [⟨4, 0⟩, ⟨4, 4⟩] ∧
      found.Validates ⟨0x5000, carryingImage⟩ [⟨4, 0⟩, ⟨4, 4⟩] ∧
      relocate .bits31 ⟨0x5000, carryingImage⟩ 0x5008 .clear none = .ok run ∧
      run.outcome = .ok completion ∧ completion.entriesPatched = 2 ∧
      ∃ lines,
        DumpOptions.Dumps ⟨"image", 0x1000, 0x1008⟩ carryingImage located.header shown lines ∧
        lines.length = 2 := by
  have hmoved : movedTable 0x1000 0x1008 0x5000 = .ok 0x5008 := by decide
  have hlocated : Region.headerAt ⟨0x1000, carryingImage⟩ 0x1008 = .ok (.ok
      ⟨8, 4, ⟨Header.mark, 0x1000, 0x1004, 0x1026, 2, 0x1029, 4, .notStarted⟩⟩) := by
    decide +kernel
  have hfound : surveyRegardless ⟨0x5000, carryingImage⟩ 0x5008 = .ok (.ok
      { offset := 8, pointerSize := 4, codec := ⟨2, 2, by decide, by decide⟩, listOffset := 38
        listLength := 4
        header := ⟨Header.mark, 0x1000, 0x1004, 0x1026, 2, 0x1029, 4, .notStarted⟩ }) := by
    decide +kernel
  have hentries : Region.listEntries ⟨0x1000, carryingImage⟩
      ⟨Header.mark, 0x1000, 0x1004, 0x1026, 2, 0x1029, 4, .notStarted⟩ =
        .ok (.ok ⟨2, [⟨4, 0⟩, ⟨4, 4⟩]⟩) := by
    decide +kernel
  obtain ⟨-, hreads⟩ := listing_shows_what_relocation_reads carryingImage 0x1000 0x1008 0x5000
  obtain ⟨-, -, hlisted⟩ := hreads 0x5008 hmoved
  obtain ⟨-, -, hshown, hpatched⟩ := hlisted _ hlocated rfl
  obtain ⟨shown, -, -, hlist, -, hvalidates⟩ := hshown _ hfound
  have hlist' := (headerAt_eq_ok_iff.mp hlocated).list_eq hentries
  rw [hlist] at hlist'
  cases hlist'
  obtain ⟨run, hrun, -⟩ := exists_relocates .bits31 ⟨0x5000, carryingImage⟩ 0x5008 .clear none
  have hcompleted : (relocate .bits31 ⟨0x5000, carryingImage⟩ 0x5008 .clear none).map
      (fun run => run.outcome) = .ok (.ok ⟨some 0x5004, .up 0x4000, 2, 0⟩) := by
    decide +kernel
  rw [hrun] at hcompleted
  have hcompletion := Except.ok.inj hcompleted
  obtain ⟨shown, hlist', hcount, hdumps⟩ := hpatched .bits31 .clear none run _ hrun hcompletion
  rw [hlist] at hlist'
  cases hlist'
  obtain ⟨lines, hdump, hlines⟩ := hdumps "image"
  exact ⟨hmoved, _, _, _, run, _, hlocated, rfl, hfound, hlist, rfl, hvalidates, hrun, hcompletion,
    hcount, lines, hdump, hlines.symm⟩

end Relocation
