import Relocation.Proofs.EndToEnd
import Relocation.Run.Disposition

/-!
# Fields of four bytes and their low-order three

With 24-bit addresses the high-order byte of a four-byte field is not part of the address.  A table
built for these addresses describes the low-order three bytes of such a field, one built for 31-bit
addresses all four.  This file shows that the difference is one of description only: adjusting the
three bytes and adjusting the four under 24-bit addresses write the same storage
(`Entry.NarrowsTo.adjustIn_eq`), hence so do whole lists of entries, in whatever way their fields
overlap (`Entry.adjustAll_eq_of_narrowsTo`).

Two builds from the same requests, one in each mode, have the same header and images that differ in
their entry lists only.  `Build.narrowing_preserves_relocation` says that they are relocated alike.
-/

namespace Relocation

/-! ### One field -/

/-- The second entry describes what the first describes, or the low-order three bytes of its
four. -/
def Entry.NarrowsTo (wide narrow : Entry) : Prop :=
  narrow = wide ∨ wide.length = 4 ∧ narrow.length = 3 ∧ narrow.start = wide.start + 1

/-- Adjusting a four-byte field under 24-bit addresses keeps its first byte and adjusts the other
three as a field of their own. -/
lemma toBytes_adjust_fullword {storage : Storage} {start : Nat} (h : start + 4 ≤ storage.length)
    (a : Adjustment) :
    Doubleword.toBytes 4 (AddressingMode.bits24.adjust (storage.field start 4) 4 a) =
      storage.part start 1 ++ Doubleword.toBytes 3
        (AddressingMode.bits24.adjust (storage.field (start + 1) 3) 3 a) := by
  have hsplit : (storage.field start 4).toNat =
      (storage.field start 1).toNat * 256 ^ 3 + (storage.field (start + 1) 3).toNat :=
    Storage.toNat_field_add h (le_of_lt (by decide : 1 + 3 < 8))
  have hhigh := storage.toNat_field_lt start (by decide : 1 ≤ 8)
  have hlow := storage.toNat_field_lt (start + 1) (by decide : 3 ≤ 8)
  have hwide := AddressingMode.bits24.toNat_adjust (storage.field start 4) 4 a
  have hnarrow := AddressingMode.bits24.toNat_adjust (storage.field (start + 1) 3) 3 a
  have hbits : AddressingMode.bits24.addressBits 4 = 24 := rfl
  have hbits' : AddressingMode.bits24.addressBits 3 = 24 := rfl
  rw [hbits] at hwide
  rw [hbits'] at hnarrow
  have hkept : (storage.field start 1).toNat =
      (AddressingMode.bits24.adjust (storage.field start 4) 4 a).toNat / 256 ^ 3 := by
    omega
  have hmoved : (AddressingMode.bits24.adjust (storage.field start 4) 4 a).toNat % 256 ^ 3 =
      (AddressingMode.bits24.adjust (storage.field (start + 1) 3) 3 a).toNat % 256 ^ 3 := by
    omega
  have hfirst : Doubleword.toBytes 1 (storage.field start 1) = storage.part start 1 :=
    Storage.toBytes_field (by omega) (by decide)
  rw [Doubleword.toBytes_add 1 3 hkept, hfirst,
    (Doubleword.toBytes_inj_iff (by decide)).mpr hmoved]

/-- Under 24-bit addresses it does not matter whether an entry describes the four bytes of a field
or the low-order three. -/
theorem Entry.NarrowsTo.adjustIn_eq {wide narrow : Entry} (h : wide.NarrowsTo narrow)
    {storage : Storage} (hstop : wide.stop ≤ storage.length) (a : Adjustment) :
    wide.adjustIn .bits24 a storage = narrow.adjustIn .bits24 a storage := by
  rcases h with rfl | ⟨hfour, hthree, hstart⟩
  · rfl
  · have hwide : wide.length.toNat = 4 := by
      rw [hfour]
      rfl
    have hnarrow : narrow.length.toNat = 3 := by
      rw [hthree]
      rfl
    have hinside : wide.start + 4 ≤ storage.length := by
      rwa [Entry.stop, hwide] at hstop
    rw [adjustIn, adjustIn, hwide, hnarrow, hstart, toBytes_adjust_fullword hinside]
    exact Storage.put_part_append (by rwa [Doubleword.length_toBytes])

/-! ### Lists of entries -/

/-- Under 24-bit addresses it does not matter for a list of entries either, even where the fields
overlap: each step finds the same storage and leaves the same storage. -/
theorem Entry.adjustAll_eq_of_narrowsTo {wide narrow : List Entry}
    (h : List.Forall₂ Entry.NarrowsTo wide narrow) (a : Adjustment) {storage : Storage}
    (hstop : ∀ entry ∈ wide, entry.stop ≤ storage.length) :
    adjustAll .bits24 a wide storage = adjustAll .bits24 a narrow storage := by
  induction h generalizing storage with
  | nil => rfl
  | @cons first first' wide narrow hfirst hrest ih =>
    obtain ⟨hhead, htail⟩ := List.forall_mem_cons.mp hstop
    have hlength : (first.adjustIn .bits24 a storage).length = storage.length :=
      length_adjustIn hhead
    calc adjustAll .bits24 a (first :: wide) storage
        = adjustAll .bits24 a wide (first.adjustIn .bits24 a storage) := rfl
      _ = adjustAll .bits24 a narrow (first.adjustIn .bits24 a storage) :=
        ih fun entry hentry => (htail entry hentry).trans_eq hlength.symm
      _ = adjustAll .bits24 a (first' :: narrow) storage := by
        rw [hfirst.adjustIn_eq hhead]
        rfl

/-! ### The entries of two builds -/

/-- From the same address constant a draft for 31-bit addresses and one for 24-bit addresses make
entries of which the second narrows the first. -/
lemma Draft.narrowsTo_of_entryFor? {region : Region} {constant : AddressConstant}
    {wide narrow : Entry}
    (hwide : (Draft.ofRegion .bits31 region).entryFor? constant = some wide)
    (hnarrow : (Draft.ofRegion .bits24 region).entryFor? constant = some narrow) :
    wide.NarrowsTo narrow := by
  obtain ⟨requested, field, hrequested, hfit, hwide⟩ := entryFor?_eq_some_iff.mp hwide
  obtain ⟨requested', field', hrequested', hfit', hnarrow⟩ := entryFor?_eq_some_iff.mp hnarrow
  obtain rfl := Except.ok.inj (hrequested.symm.trans hrequested')
  rcases fit?_cases hfit with ⟨rfl, -⟩ | ⟨hmode, -⟩
  · rcases fit?_cases hfit' with ⟨rfl, -⟩ | ⟨-, hfour, hthree, hnext⟩
    · exact Or.inl (Option.some.inj (hnarrow.symm.trans hwide))
    · obtain ⟨hlength, hstart, -⟩ := entryWithin?_eq_some hwide
      obtain ⟨hlength', hstart', -⟩ := entryWithin?_eq_some hnarrow
      refine Or.inr ⟨hlength.trans hfour, hlength'.trans hthree, ?_⟩
      calc narrow.start
          = (constant.label.address - region.base).toNat + field'.displacement.toNat := hstart'
        _ = (constant.label.address - region.base).toNat + field.displacement.toNat + 1 := by
          rw [hnext, Nat.add_assoc]
        _ = wide.start + 1 := congrArg (· + 1) hstart.symm
  · cases hmode

namespace Build

section TwoBuilds

variable {mode mode' : AddressingMode} {region : Region}

/-- Every address constant that the build asked for was accepted. -/
def AcceptsAll (build : Build mode region) : Prop :=
  build.accepted.length = build.constants.length

/-- Two builds for one region ask for the same. -/
structure SameRequests (build : Build mode region) (other : Build mode' region) : Prop where
  entrySize : build.entrySize = other.entrySize
  transfer : build.transfer = other.transfer
  constants : build.constants = other.constants
  placement : build.placement = other.placement

/-- A byte of the image belongs to the entry list of the table. -/
def InList (build : Build mode region) (i : Nat) : Prop :=
  build.offset + Header.size mode.pointerSize ≤ i ∧
    i < build.offset + Header.size mode.pointerSize + build.table.entries.length

/-- When all is accepted, the accepted entries are those for the address constants. -/
lemma AcceptsAll.entryFor? {build : Build mode region} (h : build.AcceptsAll) :
    List.Forall₂ (fun constant entry =>
      (Draft.ofRegion mode region).entryFor? constant = some entry)
      build.constants build.accepted := by
  obtain ⟨codec, steps, -, -, hopened, -, hperforms, haccepted⟩ := build.exists_performs
  rw [AcceptsAll, ← haccepted] at h
  have hmade := hperforms.forall₂_entryFor? h
  rw [haccepted, hopened] at hmade
  exact hmade

variable {build : Build mode region} {other : Build mode' region} {codec codec' : EntryCodec}

/-- The same requests put the table at the same address. -/
lemma Holds.address_eq (h : build.Holds codec) (h' : other.Holds codec')
    (hsame : build.SameRequests other) : build.table.address = other.table.address := by
  have hstart : (Draft.ofRegion mode region).tableAddress build.placement =
      (Draft.ofRegion mode' region).tableAddress build.placement := by
    cases build.placement <;> rfl
  have heq := h.address.symm.trans (hstart.trans (by rw [hsame.placement, h'.address]))
  exact Option.some.inj (Except.ok.inj heq)

/-- The same requests with as many entries accepted lead to the same header, if the pointers are
equally wide. -/
lemma Holds.header_eq (h : build.Holds codec) (h' : other.Holds codec')
    (hsame : build.SameRequests other) (hpointer : mode.pointerSize = mode'.pointerSize)
    (hcount : build.accepted.length = other.accepted.length) :
    build.table.header = other.table.header := by
  have hsize : codec.entrySize = codec'.entrySize := by
    rw [h.entrySize, h'.entrySize, hsame.entrySize]
  apply h.table.header_eq h'.table (h.address_eq h' hsame) hpointer hsize
  · rw [transferAddress, transferAddress, hsame.transfer]
  · rw [EntryCodec.length_packList, EntryCodec.length_packList, hcount, hsize]

/-- A survey of the two images then finds the same. -/
lemma Holds.found_eq (h : build.Holds codec) (h' : other.Holds codec')
    (hsame : build.SameRequests other) (hpointer : mode.pointerSize = mode'.pointerSize)
    (hcount : build.accepted.length = other.accepted.length) :
    build.found codec = other.found codec' := by
  have hheader := h.header_eq h' hsame hpointer hcount
  have hcodec : codec = codec' := by
    have hcodec := h.codec?_eq
    rw [hheader, h'.codec?_eq] at hcodec
    exact (Option.some.inj hcodec).symm
  have hoffset : build.offset = other.offset := by
    rw [offset, offset, h.address_eq h' hsame]
  rw [found, found, hheader, hcodec, hoffset, hpointer, hcount]

/-- The two images then have the same length. -/
lemma Holds.length_image_eq (h : build.Holds codec) (h' : other.Holds codec')
    (hsame : build.SameRequests other) (hpointer : mode.pointerSize = mode'.pointerSize)
    (hcount : build.accepted.length = other.accepted.length) :
    build.image.length = other.image.length := by
  have hfound := h.found_eq h' hsame hpointer hcount
  calc build.image.length
      = (build.found codec).listOffset + (build.found codec).listLength := h.length_image
    _ = (other.found codec').listOffset + (other.found codec').listLength := by rw [hfound]
    _ = other.image.length := h'.length_image.symm

/-- Nothing stands behind the entry list. -/
lemma Holds.length_image_le (h : build.Holds codec) {i : Nat} (hlist : ¬ build.InList i)
    (hbehind : build.offset + Header.size mode.pointerSize ≤ i) : build.image.length ≤ i := by
  have hlength : build.table.entries.length = build.accepted.length * codec.entrySize := by
    rw [h.table.entries, EntryCodec.length_packList]
  rw [h.length_image, ← hlength]
  exact not_lt.mp fun hlt => hlist ⟨hbehind, hlt⟩

/-- The image up to its entry list is the region, a gap of zeros and the header. -/
lemma Holds.take_image (h : build.Holds codec) :
    build.image.take (build.offset + Header.size mode.pointerSize) =
      region.data ++ List.replicate (build.offset - region.data.length) 0 ++
        build.table.header.encode mode.pointerSize := by
  obtain ⟨gap, hgap, himage⟩ := h.image
  have hsub : build.offset - region.data.length = gap := by omega
  rw [himage, BuiltTable.encode, h.table.pointerSize, hsub, ← List.append_assoc]
  apply List.take_left'
  simp only [List.length_append, List.length_replicate, Header.length_encode]
  omega

/-- The two images agree in front of their entry lists. -/
lemma Holds.agreesOn_image (h : build.Holds codec) (h' : other.Holds codec')
    (hsame : build.SameRequests other) (hpointer : mode.pointerSize = mode'.pointerSize)
    (hcount : build.accepted.length = other.accepted.length) :
    build.image.AgreesOn other.image 0 (build.offset + Header.size mode.pointerSize) := by
  have hoffset : build.offset = other.offset := by
    rw [offset, offset, h.address_eq h' hsame]
  have htake : build.image.take (build.offset + Header.size mode.pointerSize) =
      other.image.take (build.offset + Header.size mode.pointerSize) := by
    rw [h.take_image, h.header_eq h' hsame hpointer hcount, hoffset, hpointer, h'.take_image]
  intro i _ hi
  rw [← List.getElem?_take_of_lt hi, htake, List.getElem?_take_of_lt hi]

end TwoBuilds

/-! ### Narrow and wide tables -/

variable {region : Region} {narrow : Build .bits24 region} {wide : Build .bits31 region}

/-- When both builds accept all, the entries of the one narrow those of the other. -/
lemma narrowsTo_accepted (hsame : narrow.SameRequests wide) (hnarrow : narrow.AcceptsAll)
    (hwide : wide.AcceptsAll) : List.Forall₂ Entry.NarrowsTo wide.accepted narrow.accepted := by
  have hmade := hnarrow.entryFor?
  have hmade' := hwide.entryFor?
  rw [hsame.constants] at hmade
  rw [List.forall₂_iff_get] at hmade hmade' ⊢
  obtain ⟨hlength, hentry⟩ := hmade
  obtain ⟨hlength', hentry'⟩ := hmade'
  refine ⟨hlength'.symm.trans hlength, fun i hi hi' => ?_⟩
  have hconstant : i < wide.constants.length := by omega
  exact Draft.narrowsTo_of_entryFor? (hentry' i hconstant hi) (hentry i hconstant hi')

/-- Patching the two images under 24-bit addresses keeps them in agreement in front of their entry
lists. -/
lemma agreesOn_patched {codec codec' : EntryCodec} (h : narrow.Holds codec)
    (h' : wide.Holds codec') (hsame : narrow.SameRequests wide) (hnarrow : narrow.AcceptsAll)
    (hwide : wide.AcceptsAll) {base : Doubleword} {a : Adjustment} {patching patching' : Patching}
    (husable : (narrow.found codec).Usable .bits24 ⟨base, narrow.image⟩ (narrow.tableAt base))
    (husable' : (wide.found codec').Usable .bits24 ⟨base, wide.image⟩ (wide.tableAt base))
    (hrun : PatchRun .bits24 (narrow.found codec) a (narrow.found codec).entryCount 0
      ((narrow.found codec).mark narrow.image .inProgress) patching)
    (hrun' : PatchRun .bits24 (wide.found codec') a (wide.found codec').entryCount 0
      ((wide.found codec').mark wide.image .inProgress) patching') :
    patching.storage.AgreesOn patching'.storage 0 (narrow.offset + Header.size 4) := by
  have hnarrows := narrowsTo_accepted hsame hnarrow hwide
  have hcount := hnarrows.length_eq.symm
  have hentries := h.entries_patched husable hrun
  have hentries' := h'.entries_patched husable' hrun'
  have hfound := h.found_eq h' hsame rfl hcount
  have hagrees := h.agreesOn_image h' hsame rfl hcount
  have hregion := h.agreesOn_region.1
  rw [← hfound] at husable' hrun'
  have hlength := length_mark husable.header_inside .inProgress
  have hlength' := length_mark husable'.header_inside .inProgress
  have hfits : narrow.offset + Header.size 4 ≤ narrow.image.length := husable.header_inside
  have hfits' : narrow.offset + Header.size 4 ≤ wide.image.length := husable'.header_inside
  have hstop : ∀ entry ∈ wide.accepted, entry.stop ≤ narrow.offset + Header.size 4 :=
    fun entry hentry => ((h'.admitted entry hentry).stop_le.trans hregion).trans
      (Nat.le_add_right _ _)
  rw [hrun.storage_eq_adjustAll, hrun'.storage_eq_adjustAll, hentries, hentries',
    ← Entry.adjustAll_eq_of_narrowsTo hnarrows a fun entry hentry =>
      (hstop entry hentry).trans (hfits.trans_eq hlength.symm)]
  exact Entry.agreesOn_adjustAll
    (hagrees.mark husable.header_inside husable'.header_inside .inProgress)
    (fun entry hentry => ⟨Nat.zero_le _, hstop entry hentry⟩) (hfits.trans_eq hlength.symm)
    (hfits'.trans_eq hlength'.symm)

/-- A program that was built with narrow fields and one that was built with wide fields, from the
same requests that both builds accept, are relocated alike under 24-bit addresses, wherever they are
loaded: the relocations complete with the same report and return code, leave the same registers, and
the images are the same outside the entry lists.  The fields may overlap in any way. -/
theorem narrowing_preserves_relocation (narrow : Build .bits24 region)
    (wide : Build .bits31 region) (hsame : narrow.SameRequests wide) (hnarrow : narrow.AcceptsAll)
    (hwide : wide.AcceptsAll) (hfits : narrow.table.header.FitsIn 4) (base : Doubleword)
    (hbase : base.toNat + narrow.offset < 2 ^ 64) (saveArea : SaveArea)
    (mask : Option RegisterMask) :
    ∃ run run' completion,
      relocate .bits24 ⟨base, narrow.image⟩ (narrow.tableAt base) saveArea mask = .ok run ∧
      relocate .bits24 ⟨base, wide.image⟩ (wide.tableAt base) saveArea mask = .ok run' ∧
      run.outcome = .ok completion ∧ run'.outcome = .ok completion ∧
      completion.adjustment = .between region.base base ∧
      completion.entriesPatched = narrow.constants.length ∧
      run.saveArea = run'.saveArea ∧
      run.disposition.returnCode = run'.disposition.returnCode ∧
      run.region.data.length = run'.region.data.length ∧
      ∀ i, ¬ narrow.InList i → ¬ wide.InList i →
        run.region.data[i]? = run'.region.data[i]? := by
  obtain ⟨codec, h⟩ := narrow.exists_holds
  obtain ⟨codec', h'⟩ := wide.exists_holds
  have hcount : narrow.accepted.length = wide.accepted.length := by
    rw [hnarrow, hwide, hsame.constants]
  have hfound := h.found_eq h' hsame rfl hcount
  have hoffset : narrow.offset = wide.offset := congrArg Survey.offset hfound
  have husable := h.usable_found hfits (fun hwidth => absurd hwidth (by decide))
    (le_refl AddressingMode.bits24.pointerSize) hbase
  have husable' := h'.usable_found (h.header_eq h' hsame rfl hcount ▸ hfits)
    (fun hwidth => absurd hwidth (by decide)) (le_refl AddressingMode.bits24.pointerSize)
    (hoffset ▸ hbase)
  obtain ⟨run, patching, hrelocate, hcompletes⟩ :=
    h.listApart_found.exists_completes husable h.faultless_found saveArea mask
  obtain ⟨run', patching', hrelocate', hcompletes'⟩ :=
    h'.listApart_found.exists_completes husable' h'.faultless_found saveArea mask
  obtain ⟨hrun, hregisters, hregion, houtcome⟩ := hcompletes
  obtain ⟨hrun', hregisters', hregion', houtcome'⟩ := hcompletes'
  rw [h.adjustment_found] at hrun hregisters houtcome
  rw [h'.adjustment_found] at hrun' hregisters' houtcome'
  have hpatched := agreesOn_patched h h' hsame hnarrow hwide husable husable' hrun hrun'
  have hlength : patching.storage.length = narrow.image.length := husable.length_patched hrun
  have hlength' : patching'.storage.length = wide.image.length := husable'.length_patched hrun'
  have hinside := husable.header_inside.trans_eq hlength.symm
  have hinside' := husable'.header_inside.trans_eq hlength'.symm
  have hsize := h.length_image_eq h' hsame rfl hcount
  rw [← hfound] at hregisters' houtcome' hinside' hregion'
  obtain ⟨hchanges, harea⟩ := Prod.mk.inj (Except.ok.inj (hregisters.symm.trans hregisters'))
  rw [← hchanges] at houtcome'
  have hbytes := hpatched.mark hinside hinside' .completed
  refine ⟨run, run', _, hrelocate, hrelocate', houtcome, houtcome', rfl, ?_, harea, ?_, ?_, ?_⟩
  · exact (Holds.entryCount_found narrow codec).trans hnarrow
  · rw [Run.disposition, Run.disposition, houtcome, houtcome']
  · rw [hregion, hregion']
    dsimp only
    rw [length_mark hinside, length_mark hinside', hlength, hlength', hsize]
  · intro i hi _
    rw [hregion, hregion']
    dsimp only
    rcases Nat.lt_or_ge i (narrow.offset + Header.size 4) with hfront | hbehind
    · exact hbytes i (Nat.zero_le i) hfront
    · have hend := h.length_image_le hi hbehind
      rw [List.getElem?_eq_none, List.getElem?_eq_none]
      · rwa [length_mark hinside', hlength', ← hsize]
      · rwa [length_mark hinside, hlength]

/-- Two words that share two bytes, and a halfword that begins inside the second. -/
def overlappingRegion : Region :=
  ⟨0x1000, [0x80, 0x00, 0x10, 0x04, 0xFF, 0xFF, 0x10, 0x02]⟩

/-- The address constants of the region. -/
def overlappingConstants : List AddressConstant :=
  [⟨⟨"FIRST", 0x1000, none⟩, .explicit 4 0⟩, ⟨⟨"SECOND", 0x1000, none⟩, .explicit 4 2⟩,
    ⟨⟨"LAST", 0x1004, none⟩, .explicit 2 1⟩]

/-- Entries of two bytes, two bits of which hold the length. -/
def halfwordCodec : EntryCodec :=
  (EntryCodec.of? 2 2).get (by decide)

/-- The build of the region for 24-bit addresses. -/
def overlappingNarrow : Build .bits24 overlappingRegion where
  entrySize := 2
  transfer := some 0x1000
  constants := overlappingConstants
  placement := .append
  opened := ⟨.bits24, 0x1000, 0x1008, .opened ⟨halfwordCodec, 0x1000, []⟩⟩
  accepted := [⟨3, 1⟩, ⟨3, 3⟩, ⟨2, 5⟩]
  filled := ⟨.bits24, 0x1000, 0x1008,
    .opened ⟨halfwordCodec, 0x1000, [0x80, 0x01, 0x80, 0x03, 0x40, 0x05]⟩⟩
  table := ⟨0x1008, ⟨Header.mark, 0x1000, 0x1000, 0x1026, 2, 0x102B, 4, .notStarted⟩,
    [0x80, 0x01, 0x80, 0x03, 0x40, 0x05], 4⟩
  closed := ⟨.bits24, 0x1000, 0x102C, .closed⟩
  image := [0x80, 0x00, 0x10, 0x04, 0xFF, 0xFF, 0x10, 0x02,
    0xD9, 0xC5, 0xD3, 0xD6, 0xC3, 0xE3, 0xC2, 0xD3, 0x00, 0x00, 0x10, 0x00, 0x00, 0x00, 0x10, 0x00,
    0x00, 0x00, 0x10, 0x26, 0x00, 0x00, 0x00, 0x02, 0x00, 0x00, 0x10, 0x2B, 0x04, 0x00,
    0x80, 0x01, 0x80, 0x03, 0x40, 0x05]
  opened_eq := by decide +kernel
  filled_eq := by decide +kernel
  table_eq := by decide +kernel
  image_eq := by decide +kernel

/-- The build of the region for 31-bit addresses. -/
def overlappingWide : Build .bits31 overlappingRegion where
  entrySize := 2
  transfer := some 0x1000
  constants := overlappingConstants
  placement := .append
  opened := ⟨.bits31, 0x1000, 0x1008, .opened ⟨halfwordCodec, 0x1000, []⟩⟩
  accepted := [⟨4, 0⟩, ⟨4, 2⟩, ⟨2, 5⟩]
  filled := ⟨.bits31, 0x1000, 0x1008,
    .opened ⟨halfwordCodec, 0x1000, [0xC0, 0x00, 0xC0, 0x02, 0x40, 0x05]⟩⟩
  table := ⟨0x1008, ⟨Header.mark, 0x1000, 0x1000, 0x1026, 2, 0x102B, 4, .notStarted⟩,
    [0xC0, 0x00, 0xC0, 0x02, 0x40, 0x05], 4⟩
  closed := ⟨.bits31, 0x1000, 0x102C, .closed⟩
  image := [0x80, 0x00, 0x10, 0x04, 0xFF, 0xFF, 0x10, 0x02,
    0xD9, 0xC5, 0xD3, 0xD6, 0xC3, 0xE3, 0xC2, 0xD3, 0x00, 0x00, 0x10, 0x00, 0x00, 0x00, 0x10, 0x00,
    0x00, 0x00, 0x10, 0x26, 0x00, 0x00, 0x00, 0x02, 0x00, 0x00, 0x10, 0x2B, 0x04, 0x00,
    0xC0, 0x00, 0xC0, 0x02, 0x40, 0x05]
  opened_eq := by decide +kernel
  filled_eq := by decide +kernel
  table_eq := by decide +kernel
  image_eq := by decide +kernel

/-- The two builds of the region with overlapping words are relocated alike. -/
theorem narrowing_preserves_relocation_overlapping :
    overlappingNarrow.SameRequests overlappingWide ∧ overlappingNarrow.AcceptsAll ∧
    overlappingWide.AcceptsAll ∧ overlappingNarrow.table.header.FitsIn 4 ∧
    ∃ run run' completion,
      relocate .bits24 ⟨0x123456, overlappingNarrow.image⟩ 0x12345E .clear (some ⟨0xFFFF⟩) =
        .ok run ∧
      relocate .bits24 ⟨0x123456, overlappingWide.image⟩ 0x12345E .clear (some ⟨0xFFFF⟩) =
        .ok run' ∧
      run.outcome = .ok completion ∧ run'.outcome = .ok completion ∧
      completion.adjustment = .up 0x122456 ∧ completion.entriesPatched = 3 ∧
      run.saveArea = run'.saveArea ∧
      ∀ i, i < 38 → run.region.data[i]? = run'.region.data[i]? := by
  have hsame : overlappingNarrow.SameRequests overlappingWide := ⟨rfl, rfl, rfl, rfl⟩
  have hfits : overlappingNarrow.table.header.FitsIn 4 := by constructor <;> decide
  obtain ⟨run, run', completion, hrun, hrun', houtcome, houtcome', hadjustment, hcount, harea, -, -,
      hbytes⟩ :=
    narrowing_preserves_relocation overlappingNarrow overlappingWide hsame rfl rfl hfits 0x123456
      (by decide) .clear (some ⟨0xFFFF⟩)
  refine ⟨hsame, rfl, rfl, hfits, run, run', completion, hrun, hrun', houtcome, houtcome',
    hadjustment, hcount, harea, fun i hi => hbytes i ?_ ?_⟩
  · rintro ⟨hlist, -⟩
    exact absurd (hi.trans_le hlist) (lt_irrefl i)
  · rintro ⟨hlist, -⟩
    exact absurd (hi.trans_le hlist) (lt_irrefl i)

end Build

end Relocation
