import Relocation.Proofs.DisjointFields
import Relocation.Proofs.DraftCalls
import Relocation.Proofs.NarrowReading

/-!
# From the builder to the relocated program

A table that was built for a region is found again in the image, at whatever address the image is
loaded, and relocating by it adjusts exactly the address constants that were accepted.

`Build` is one build: the requests that were made and what they gave.  The file shows that the
survey of the loaded image finds the table of the build (`Build.Holds.usable_found`), that its
entries are the accepted ones (`Build.Holds.entryAt_found`) and that none of them is at fault or
touches the table (`Build.Holds.faultless_found`, `Build.Holds.listApart_found`).  The relocation of
the image then completes (`Build.relocates_image`).
-/

namespace Relocation

/-- A build: a table is opened for the region, address constants are added to it, it is closed, and
region and table are laid out as an image. -/
structure Build (mode : AddressingMode) (region : Region) where
  entrySize : UInt8
  transfer : Option Doubleword
  constants : List AddressConstant
  placement : Placement
  opened : Draft
  /-- The entries for those address constants that were not refused. -/
  accepted : List Entry
  filled : Draft
  table : BuiltTable
  closed : Draft
  image : Storage
  opened_eq : (Draft.ofRegion mode region).openTable entrySize transfer = (.ok (), opened)
  filled_eq : opened.addEntries constants = .ok (accepted, filled)
  table_eq : filled.closeTable placement = .ok (.ok table, closed)
  image_eq : region.withTable table = .ok (.ok image)

namespace Build

variable {mode : AddressingMode} {region : Region}

/-- Offset of the table in the image. -/
def offset (build : Build mode region) : Nat :=
  (build.table.address - region.base).toNat

/-- The transfer address, zero when there is none. -/
def transferAddress (build : Build mode region) : Doubleword :=
  build.transfer.getD 0

/-- The address of the table when the image is loaded at `base`. -/
def tableAt (build : Build mode region) (base : Doubleword) : Doubleword :=
  base + (build.table.address - region.base)

/-! ### What a build holds -/

/-- What is known of a build whose entries are packed by the codec. -/
structure Holds (build : Build mode region) (codec : EntryCodec) : Prop where
  entrySize : codec.entrySize = build.entrySize.toNat
  lengthBits : codec.lengthBits = mode.lengthBits
  table : build.table.LaysOut mode region.base
    ⟨codec, build.transferAddress, codec.packList build.accepted⟩
  admitted : ∀ entry ∈ build.accepted, entry.Admitted mode codec region.data.length
  /-- The table stands where its placement wants it behind the region. -/
  address : (Draft.ofRegion mode region).tableAddress build.placement =
    .ok (some build.table.address)
  base_le : region.base ≤ build.table.address
  image : ∃ gap, region.data.length + gap = build.offset ∧
    build.image = region.data ++ List.replicate gap 0 ++ build.table.encode

/-- Once the table of a build is open, with an empty list, adding the address constants is a
sequence of calls. -/
lemma exists_performs (build : Build mode region) :
    ∃ (codec : EntryCodec) (steps : List DraftStep), codec.entrySize = build.entrySize.toNat ∧
      codec.lengthBits = mode.lengthBits ∧
      build.opened = { Draft.ofRegion mode region with
        state := .opened ⟨codec, build.transferAddress, []⟩ } ∧
      build.opened.Ordered ∧
      build.opened.Performs (build.constants.map .addEntry) steps build.filled ∧
      Draft.accepted steps = build.accepted := by
  obtain ⟨codec, hsize, hbits, hopened⟩ := Draft.openTable_eq_ok build.opened_eq
  have hordered : build.opened.Ordered := by
    rw [hopened]
    exact fun _ => Draft.ordered_new mode region.base region.size (by simp [Draft.new])
  obtain ⟨steps, hperforms, haccepted⟩ :=
    Draft.exists_performs_of_addEntries hordered build.filled_eq
  exact ⟨codec, steps, hsize, hbits, hopened, hordered, hperforms, haccepted⟩

/-- Every build holds its accepted entries, packed by some codec. -/
theorem exists_holds (build : Build mode region) : ∃ codec, build.Holds codec := by
  obtain ⟨codec, steps, hsize, hbits, hopened, hordered, hperforms, haccepted⟩ :=
    build.exists_performs
  have hstate := congrArg Draft.state hopened
  have hmode := congrArg Draft.mode hopened
  have hfilled := hperforms.eq_extend hstate
  have hkept := (hperforms.keeps hordered
    (Draft.keeps_of_opened hstate (by rw [hmode]; exact hbits))).2
  rw [List.nil_append, haccepted, hfilled, haccepted, hopened] at hkept
  have hadmitted := OpenTable.Holds.admitted hkept
  have htable := build.table_eq
  rw [hfilled, haccepted, hopened] at htable
  obtain ⟨hstart, hlays⟩ := Draft.closeTable_eq_ok rfl htable
  have haddress : (Draft.ofRegion mode region).tableAddress build.placement =
      .ok (some build.table.address) := by
    cases hplacement : build.placement <;> rwa [hplacement] at hstart
  -- the header fits behind the start of the table, so that is not the highest address
  have hfirst : build.table.header.firstEntry.toNat =
      build.table.address.toNat + (8 + 5 * mode.pointerSize + 2) := hlays.firstEntry
  have hlt := build.table.header.firstEntry.toNat_lt
  obtain ⟨hbase, himage⟩ := Region.withTable_eq_ok build.image_eq (by omega)
  refine ⟨codec, hsize, hbits, hlays, fun entry hentry => ?_, haddress, hbase, himage⟩
  obtain ⟨hfits, htwo, hlength, hstop⟩ := hadmitted entry hentry
  have hend : region.end.toNat ≤ region.base.toNat + region.data.length :=
    region.toNat_end.trans_le (min_le_left _ _)
  exact ⟨hfits, htwo, hlength, hstop.trans (Nat.sub_le_iff_le_add'.mpr hend)⟩

/-- The table of a build, as a survey of the loaded image finds it. -/
def found (build : Build mode region) (codec : EntryCodec) : Survey where
  offset := build.offset
  pointerSize := mode.pointerSize
  header := build.table.header
  codec := codec
  listOffset := build.offset + Header.size mode.pointerSize
  listLength := build.accepted.length * codec.entrySize

namespace Holds

variable {build : Build mode region} {codec : EntryCodec}

/-! ### The header -/

/-- The list starts behind the header. -/
lemma toNat_firstEntry_sub (h : build.Holds codec) :
    build.table.header.assembledBase ≤ build.table.header.firstEntry ∧
      (build.table.header.firstEntry - build.table.header.assembledBase).toNat =
        build.offset + Header.size mode.pointerSize := by
  have hfirst := h.table.firstEntry
  have hoffset : build.offset = build.table.address.toNat - region.base.toNat :=
    UInt64.toNat_sub_of_le _ _ h.base_le
  have hbase := UInt64.le_iff_toNat_le.mp h.base_le
  rw [h.table.assembledBase]
  have hle : region.base ≤ build.table.header.firstEntry := by
    rw [UInt64.le_iff_toNat_le]
    omega
  refine ⟨hle, ?_⟩
  rw [UInt64.toNat_sub_of_le _ _ hle]
  omega

/-- The list has the bytes of the accepted entries. -/
lemma toNat_listEnd_sub (h : build.Holds codec) :
    build.table.header.firstEntry ≤ build.table.header.listEnd ∧
      (build.table.header.listEnd - build.table.header.firstEntry).toNat =
        build.accepted.length * codec.entrySize := by
  have hend := h.table.listEnd
  rw [EntryCodec.length_packList] at hend
  have hle : build.table.header.firstEntry ≤ build.table.header.listEnd := by
    rw [UInt64.le_iff_toNat_le]
    omega
  refine ⟨hle, ?_⟩
  rw [UInt64.toNat_sub_of_le _ _ hle]
  omega

/-- The entry size of the header is that of the codec. -/
lemma toNat_entrySize (h : build.Holds codec) :
    build.table.header.entrySize.toNat = codec.entrySize :=
  h.table.toNat_entrySize

/-- The list holds a whole number of entries. -/
lemma whole (h : build.Holds codec) :
    (build.table.header.listEnd - build.table.header.firstEntry) %
      build.table.header.entrySize.toUInt64 = 0 := by
  apply UInt64.toNat_inj.mp
  rw [UInt64.toNat_mod, h.toNat_listEnd_sub.2, UInt8.toNat_toUInt64, h.toNat_entrySize,
    Nat.mul_mod_left]
  rfl

/-- The header of a built table is consistent. -/
lemma consistent (h : build.Holds codec) : build.table.header.Consistent := by
  have hpos := codec.entrySize_pos
  refine ⟨fun hzero => ?_, h.toNat_firstEntry_sub.1, h.toNat_listEnd_sub.1, h.whole⟩
  have hsize := h.toNat_entrySize
  rw [hzero] at hsize
  change 0 = codec.entrySize at hsize
  omega

/-- The header tells the codec. -/
lemma codec?_eq (h : build.Holds codec) : build.table.header.codec? = some codec :=
  h.table.codec?_eq h.lengthBits

/-! ### The image -/

/-- In the image the table stands at its offset. -/
lemma drop_image (h : build.Holds codec) :
    build.image.drop build.offset =
      build.table.header.encode mode.pointerSize ++ codec.packList build.accepted := by
  obtain ⟨gap, hgap, himage⟩ := h.image
  rw [himage, List.drop_left' (by simpa using hgap), BuiltTable.encode, h.table.pointerSize,
    h.table.entries]

/-- The image ends with the table. -/
lemma length_image (h : build.Holds codec) :
    build.image.length = build.offset + Header.size mode.pointerSize +
      build.accepted.length * codec.entrySize := by
  obtain ⟨gap, hgap, himage⟩ := h.image
  rw [himage, BuiltTable.encode, h.table.pointerSize, h.table.entries]
  simp only [List.length_append, List.length_replicate, Header.length_encode,
    EntryCodec.length_packList]
  omega

/-- The region stands at the start of the image, in front of the table. -/
lemma agreesOn_region (h : build.Holds codec) :
    region.data.length ≤ build.offset ∧
      build.image.AgreesOn region.data 0 region.data.length := by
  obtain ⟨gap, hgap, himage⟩ := h.image
  refine ⟨by omega, fun i _ hi => ?_⟩
  rw [himage, List.append_assoc, List.getElem?_append_left hi]

/-! ### The loaded table -/

/-- The list has one entry for each accepted address constant. -/
lemma entryCount_found (build : Build mode region) (codec : EntryCodec) :
    (build.found codec).entryCount = build.accepted.length :=
  Nat.mul_div_cancel _ codec.entrySize_pos

/-- The entries of the list are the accepted ones. -/
lemma entryAt_found (h : build.Holds codec) {i : Nat} (hi : i < build.accepted.length) :
    (build.found codec).entryAt build.image i = build.accepted[i] := by
  have hfits : ∀ entry ∈ build.accepted, codec.Fits entry :=
    fun entry hentry => (h.admitted entry hentry).fits
  have hheader : (build.table.header.encode mode.pointerSize).length =
      Header.size mode.pointerSize := Header.length_encode _ _
  have hpart := Storage.part_append_right (build.table.header.encode mode.pointerSize)
    (codec.packList build.accepted) (i * codec.entrySize) codec.entrySize
  rw [hheader, ← h.drop_image, Storage.part_drop, ← Nat.add_assoc] at hpart
  rw [← EntryCodec.unpack_field_packList hfits hi, Survey.entryAt]
  simp only [found, Storage.field]
  rw [hpart]

/-- No entry of the list is at fault. -/
lemma faultless_found (h : build.Holds codec) :
    (build.found codec).Faultless build.image := by
  intro i hi
  rw [entryCount_found] at hi
  obtain ⟨-, htwo, -, hstop⟩ := h.admitted _ (List.getElem_mem hi)
  have hlength := h.length_image
  have hregion := h.agreesOn_region.1
  have hlong : ¬ build.accepted[i].length < 2 := by
    rw [UInt8.lt_iff_toNat_lt, not_lt]
    exact htwo
  rw [h.entryAt_found hi, Entry.fault?, if_neg hlong, if_neg (by omega)]

/-- The accepted fields lie in front of the table, so they do not touch its list. -/
lemma listApart_found (h : build.Holds codec) :
    (build.found codec).ListApart build.image := by
  constructor
  · left
    simp only [found, Header.statusOffset, Header.size]
    omega
  · intro i hi
    rw [entryCount_found] at hi
    have hstop := (h.admitted _ (List.getElem_mem hi)).stop_le
    have hregion := h.agreesOn_region.1
    rw [h.entryAt_found hi]
    left
    simp only [found]
    omega

/-- The table of a build whose fields do not overlap does not interfere with itself. -/
lemma tableApart_found (h : build.Holds codec)
    (hapart : build.accepted.Pairwise fun e f => e.ApartFrom f.start f.stop) :
    (build.found codec).TableApart build.image where
  list_header := fun i _ hi => Or.inl hi
  field_header := fun j hj => by
    rw [entryCount_found] at hj
    rw [h.entryAt_found hj]
    exact Or.inl ((h.admitted _ (List.getElem_mem hj)).stop_le.trans h.agreesOn_region.1)
  field_list := h.listApart_found.fields
  field_field := fun j k hlt hk => by
    rw [entryCount_found] at hk
    rw [h.entryAt_found hk, h.entryAt_found (hlt.trans hk)]
    exact List.pairwise_iff_getElem.mp hapart j k (hlt.trans hk) hk hlt

/-- The header of a built table stands in the loaded image, if its addresses fit into its pointers
and a wide header cannot be taken for a narrow one. -/
lemma stands_found (h : build.Holds codec)
    (hfits : build.table.header.FitsIn mode.pointerSize)
    (htransfer : mode.pointerSize = 8 →
      ∀ size ∈ [2, 3, 4], build.transferAddress.toNat % 2 ^ 32 ≠ size)
    {base : Doubleword} (hbase : base.toNat + build.offset < 2 ^ 64) :
    FoundHeader.Stands ⟨build.offset, mode.pointerSize, build.table.header⟩ ⟨base, build.image⟩
      (build.tableAt base) := by
  have hpointer : mode.pointerSize = 4 ∨ mode.pointerSize = 8 := by cases mode <;> decide
  have hsize : Header.size mode.pointerSize = 8 + 5 * mode.pointerSize + 2 := rfl
  have hlength := h.length_image
  have hview := Header.view_encode (by omega) (by omega) hfits (codec.packList build.accepted)
  have htable : build.table.header.transferAddress = build.transferAddress :=
    h.table.transferAddress
  rw [← htable] at htransfer
  refine ⟨?_, ?_, ?_, ?_, ?_⟩
  · have hsum : (build.tableAt base).toNat = base.toNat + build.offset := by
      rw [tableAt, UInt64.toNat_add]
      exact Nat.mod_eq_of_lt hbase
    rw [UInt64.le_iff_toNat_le, hsum]
    exact Nat.le_add_right _ _
  · change build.offset = (base + (build.table.address - region.base) - base).toNat
    rw [UInt64.add_comm, UInt64.add_sub_cancel]
    rfl
  · change build.offset + 8 ≤ build.image.length
    omega
  · have hmark : (Header.view (build.image.drop build.offset) mode.pointerSize).eyecatcher =
        Header.mark := by
      rw [h.drop_image, hview, h.table.eyecatcher]
    rw [← hmark, Header.view, Storage.field, Storage.field, Storage.part_drop]
    rfl
  · change Header.locate (build.image.drop build.offset) = _
    rw [h.drop_image]
    exact Header.locate_encode hpointer hfits h.table.registerWidth (by simp [h.codec?_eq])
      h.consistent (codec.packList build.accepted)
      (fun hwide => Header.not_laid_four_encode (htransfer hwide) _)

/-- The table of a build may be used in the loaded image, by every mode whose pointers are at least
as wide as those of the table. -/
theorem usable_found (h : build.Holds codec)
    (hfits : build.table.header.FitsIn mode.pointerSize)
    (htransfer : mode.pointerSize = 8 →
      ∀ size ∈ [2, 3, 4], build.transferAddress.toNat % 2 ^ 32 ≠ size)
    {mode' : AddressingMode} (hmode : mode.pointerSize ≤ mode'.pointerSize)
    {base : Doubleword} (hbase : base.toNat + build.offset < 2 ^ 64) :
    (build.found codec).Usable mode' ⟨base, build.image⟩ (build.tableAt base) := by
  have hlist : build.table.header.listLength =
      build.table.header.listEnd - build.table.header.firstEntry :=
    if_pos h.toNat_listEnd_sub.1
  refine ⟨h.stands_found hfits htransfer hbase, h.table.status, hmode, h.codec?_eq,
    h.toNat_firstEntry_sub.1, h.toNat_firstEntry_sub.2.symm, ?_, ?_, h.length_image.ge⟩
  · change _ = build.table.header.listLength.toNat
    rw [hlist]
    exact h.toNat_listEnd_sub.2.symm
  · change build.table.header.listLength % _ = 0
    rw [hlist]
    exact h.whole

/-- The loaded image has moved from where the region was assembled to where it stands. -/
lemma adjustment_found (h : build.Holds codec) (base : Doubleword) (storage : Storage) :
    (build.found codec).adjustment ⟨base, storage⟩ = .between region.base base := by
  rw [Survey.adjustment, found, h.table.assembledBase]

/-! ### Patching the image -/

variable {mode' : AddressingMode} {base : Doubleword} {a : Adjustment} {patching : Patching}

/-- The entries that are patched are the accepted ones. -/
lemma entries_patched (h : build.Holds codec)
    (husable : (build.found codec).Usable mode' ⟨base, build.image⟩ (build.tableAt base))
    (hrun : PatchRun mode' (build.found codec) a (build.found codec).entryCount 0
      ((build.found codec).mark build.image .inProgress) patching) :
    patching.patches.map Patch.entry = build.accepted := by
  rw [(h.listApart_found.of_patchRun husable h.faultless_found hrun).2, entryCount_found]
  apply List.ext_getElem
  · simp
  · intro i hi hi'
    rw [List.getElem_map, List.getElem_range, h.entryAt_found hi']

end Holds

/-- What the loaded image has become: the accepted fields are adjusted, the table is marked as
completed, and nothing else has changed. -/
structure Relocated (build : Build mode region) (mode' : AddressingMode) (base : Doubleword)
    (storage : Storage) : Prop where
  length : storage.length = build.image.length
  fields : ∀ entry ∈ build.accepted, storage.part entry.start entry.length.toNat =
    Doubleword.toBytes entry.length.toNat
      (mode'.adjust (region.data.field entry.start entry.length.toNat) entry.length.toNat
        (.between region.base base))
  status : storage[build.offset + Header.statusOffset mode.pointerSize]? =
    some Status.completed.flags
  rest : ∀ i, i ≠ build.offset + Header.statusOffset mode.pointerSize →
    (∀ entry ∈ build.accepted, i < entry.start ∨ entry.stop ≤ i) → storage[i]? = build.image[i]?

/-- A run of the patch loop over fields that are pairwise apart relocates the image. -/
lemma Holds.relocated {build : Build mode region} {codec : EntryCodec} (h : build.Holds codec)
    (hapart : build.accepted.Pairwise fun e f => e.ApartFrom f.start f.stop)
    {mode' : AddressingMode} {base : Doubleword} {patching : Patching}
    (husable : (build.found codec).Usable mode' ⟨base, build.image⟩ (build.tableAt base))
    (hrun : PatchRun mode' (build.found codec) (.between region.base base)
      (build.found codec).entryCount 0 ((build.found codec).mark build.image .inProgress)
      patching) :
    build.Relocated mode' base ((build.found codec).mark patching.storage .completed) := by
  have hrelocated : (build.found codec).Relocated mode' (.between region.base base) build.image
      ((build.found codec).mark patching.storage .completed) :=
    (h.tableApart_found hapart).relocated husable h.faultless_found hrun
  obtain ⟨-, hregion⟩ := h.agreesOn_region
  refine ⟨hrelocated.length, fun entry hentry => ?_, hrelocated.status, fun i hi houtside => ?_⟩
  · have hstop := (h.admitted entry hentry).stop_le
    obtain ⟨j, hj, rfl⟩ := List.getElem_of_mem hentry
    have hbefore : build.image.AgreesOn region.data build.accepted[j].start
        build.accepted[j].stop := hregion.mono (Nat.zero_le _) hstop
    have hfield := hrelocated.fields j (by rwa [entryCount_found])
    rwa [h.entryAt_found hj, hbefore.field_eq le_rfl le_rfl] at hfield
  · refine hrelocated.rest i hi fun j hj => ?_
    rw [entryCount_found] at hj
    rw [h.entryAt_found hj]
    exact houtside _ (List.getElem_mem hj)

/-! ### The whole way -/

/-- Relocating the image of a build succeeds wherever it is loaded, by every mode whose pointers are
at least as wide as those of the table: every accepted entry is patched, the transfer address is
adjusted if there is one, and the image is relocated.  This takes addresses that fit into the
pointers of the header, a header that cannot be mistaken for a narrow one, and fields that do not
overlap. -/
theorem relocates_image (build : Build mode region)
    (hfits : build.table.header.FitsIn mode.pointerSize)
    (htransfer : mode.pointerSize = 8 →
      ∀ size ∈ [2, 3, 4], build.transferAddress.toNat % 2 ^ 32 ≠ size)
    (hapart : build.accepted.Pairwise fun e f => e.ApartFrom f.start f.stop)
    (mode' : AddressingMode) (hmode : mode.pointerSize ≤ mode'.pointerSize)
    (base : Doubleword) (hbase : base.toNat + build.offset < 2 ^ 64)
    (saveArea : SaveArea) (mask : Option RegisterMask) :
    ∃ run completion,
      relocate mode' ⟨base, build.image⟩ (build.tableAt base) saveArea mask = .ok run ∧
      run.outcome = .ok completion ∧
      completion.entriesPatched = build.accepted.length ∧
      completion.adjustment = .between region.base base ∧
      completion.transferAddress =
        (if build.transferAddress = 0 then none
        else some (mode'.adjust build.transferAddress mode.pointerSize
          (.between region.base base))) ∧
      run.region.base = base ∧ build.Relocated mode' base run.region.data := by
  obtain ⟨codec, h⟩ := build.exists_holds
  have husable := h.usable_found hfits htransfer hmode hbase
  obtain ⟨run, hrelocate, hways⟩ :=
    exists_relocates mode' ⟨base, build.image⟩ (build.tableAt base) saveArea mask
  cases hways with
  | turnedDown hsurvey =>
    rw [survey_eq_ok_iff.mpr husable] at hsurvey
    cases hsurvey
  | faulty usable fault =>
    obtain rfl := usable.unique husable
    obtain ⟨i, hi, hsome, -⟩ := fault
    rw [h.faultless_found i hi] at hsome
    cases hsome
  | broken usable faultless patchRun hrefusal =>
    obtain rfl := usable.unique husable
    rw [h.listApart_found.patchRun_refusal husable faultless patchRun] at hrefusal
    cases hrefusal
  | completed usable faultless patchRun hrefusal hregisters =>
    obtain rfl := usable.unique husable
    have hadjustment : (build.found codec).adjustment ⟨base, build.image⟩ =
        .between region.base base := by
      rw [Survey.adjustment, found, h.table.assembledBase]
    have hwidth : (build.found codec).header.registerWidth.toNat = mode.pointerSize := by
      rw [found, h.table.registerWidth]
      cases mode <;> rfl
    have htransferAddress : (build.found codec).header.transferAddress = build.transferAddress :=
      h.table.transferAddress
    rw [hadjustment] at patchRun
    refine ⟨_, _, hrelocate, rfl, ?_, hadjustment, ?_, rfl, h.relocated hapart husable patchRun⟩
    · dsimp only
      rw [patchRun.length_patches hrefusal, Holds.entryCount_found]
    · dsimp only
      rw [hadjustment, Survey.transferAddress, htransferAddress, hwidth]

/-- A build with a field of four bytes, of which the low-order three are described, a constant that
is refused for its width, and a field of two bytes. -/
def narrowed : Build .bits24 ⟨0x1000, [0x80, 0x00, 0x10, 0x04, 0x10, 0x02, 0x00, 0x00]⟩ where
  entrySize := 2
  transfer := some 0x1000
  constants := [⟨⟨"FIRST", 0x1000, none⟩, .explicit 4 0⟩, ⟨⟨"SHORT", 0x1000, none⟩, .explicit 1 0⟩,
    ⟨⟨"LAST", 0x1000, none⟩, .explicit 2 4⟩]
  placement := .append
  opened := ⟨.bits24, 0x1000, 0x1008, .opened ⟨⟨2, 2, by decide, by decide⟩, 0x1000, []⟩⟩
  accepted := [⟨3, 1⟩, ⟨2, 4⟩]
  filled := ⟨.bits24, 0x1000, 0x1008,
    .opened ⟨⟨2, 2, by decide, by decide⟩, 0x1000, [0x80, 0x01, 0x40, 0x04]⟩⟩
  table := ⟨0x1008, ⟨Header.mark, 0x1000, 0x1000, 0x1026, 2, 0x1029, 4, .notStarted⟩,
    [0x80, 0x01, 0x40, 0x04], 4⟩
  closed := ⟨.bits24, 0x1000, 0x102A, .closed⟩
  image := [0x80, 0x00, 0x10, 0x04, 0x10, 0x02, 0x00, 0x00,
    0xD9, 0xC5, 0xD3, 0xD6, 0xC3, 0xE3, 0xC2, 0xD3, 0x00, 0x00, 0x10, 0x00, 0x00, 0x00, 0x10, 0x00,
    0x00, 0x00, 0x10, 0x26, 0x00, 0x00, 0x00, 0x02, 0x00, 0x00, 0x10, 0x29, 0x04, 0x00,
    0x80, 0x01, 0x40, 0x04]
  opened_eq := by decide +kernel
  filled_eq := by decide +kernel
  table_eq := by decide +kernel
  image_eq := by decide +kernel

/-- The narrowed build is relocated by another mode; the high-order byte of its first field stays
as it is. -/
theorem relocates_image_narrowed :
    narrowed.table.header.FitsIn 4 ∧
    (narrowed.accepted.Pairwise fun e f => e.ApartFrom f.start f.stop) ∧
    ∃ run completion,
      relocate .bits31 ⟨0x5000, narrowed.image⟩ 0x5008 .clear none = .ok run ∧
      run.outcome = .ok completion ∧ completion.entriesPatched = 2 ∧
      completion.adjustment = .up 0x4000 ∧ completion.transferAddress = some 0x5000 ∧
      run.region.data[0]? = some 0x80 ∧ run.region.data.part 1 3 = [0x00, 0x50, 0x04] ∧
      run.region.data.part 4 2 = [0x50, 0x02] := by
  have hfits : narrowed.table.header.FitsIn 4 := by constructor <;> decide
  have hapart : narrowed.accepted.Pairwise fun e f => e.ApartFrom f.start f.stop := by decide
  obtain ⟨run, completion, hrun, houtcome, hcount, hadjustment, htransfer, -, hrelocated⟩ :=
    relocates_image narrowed hfits (fun h => absurd h (by decide)) hapart .bits31 (by decide) 0x5000
      (by decide) .clear none
  have hhigh := hrelocated.rest 0 (by decide) (by decide)
  have hfirst := hrelocated.fields ⟨3, 1⟩ (by decide)
  have hlast := hrelocated.fields ⟨2, 4⟩ (by decide)
  exact ⟨hfits, hapart, run, completion, hrun, houtcome, hcount, hadjustment, htransfer, hhigh,
    hfirst.trans (by decide +kernel), hlast.trans (by decide +kernel)⟩

end Build

end Relocation
