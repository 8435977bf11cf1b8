import Relocation.Proofs.EntryCodec
import Relocation.Table.Header

/-!
# Finding the layout of a header

A header is read without knowing how wide its pointers are: four bytes are tried, then eight.  This
file says what a reader finds, without program checks and short cuts.  `Header.view` is the header
that a layout shows in some bytes, `Header.Laid` is the condition under which the reader accepts
that layout, and `Header.locate_eq` is the reader in these terms.

Two consequences are used later.  The status byte has no part in the choice of the layout, so a
header whose status is rewritten is found again with the new status (`Header.locate_of_status`).
And a header that was written shows itself with its addresses cut to its pointers
(`Header.view_encode_cutTo`), so it is found again as long as they fit and no other layout is taken
for it (`Header.locate_encode`).
-/

namespace Relocation

namespace Header

/-! ### The parts of a layout -/

/-- A header has ten bytes besides its five pointers. -/
lemma size_eq (w : Nat) : size w = 10 + 5 * w := by
  unfold size
  omega

/-- The five pointers are parts of the header. -/
lemma pointerOffset_add_le_size (w : Nat) {index : Nat} (h : index < 5) :
    pointerOffset w index + w ≤ size w := by
  have hle : index * w ≤ 4 * w := Nat.mul_le_mul_right w (Nat.le_of_lt_succ h)
  unfold pointerOffset size
  omega

/-- The register width is a byte of the header. -/
lemma registerWidthOffset_lt_size (w : Nat) : registerWidthOffset w < size w := by
  unfold registerWidthOffset size
  omega

/-- The status byte is a byte of the header. -/
lemma statusOffset_lt_size (w : Nat) : statusOffset w < size w := by
  unfold statusOffset size
  omega

/-! ### Reading one layout -/

/-- The header in some bytes when its pointers have the given size. -/
def view (bytes : Storage) (pointerSize : Nat) : Header where
  eyecatcher := bytes.field 0 8
  assembledBase := bytes.field (pointerOffset pointerSize 0) pointerSize
  transferAddress := bytes.field (pointerOffset pointerSize 1) pointerSize
  firstEntry := bytes.field (pointerOffset pointerSize 2) pointerSize
  entrySize :=
    if bytes.field (pointerOffset pointerSize 3) pointerSize < 256 then
      (bytes.field (pointerOffset pointerSize 3) pointerSize).toUInt8
    else 0
  lastEntryByte := bytes.field (pointerOffset pointerSize 4) pointerSize
  registerWidth := bytes.byte (registerWidthOffset pointerSize)
  status := Status.ofFlags (bytes.byte (statusOffset pointerSize))

section Reading

variable {bytes : Storage} {w : Nat}

/-- Bytes that are enough are read as the header they show. -/
lemma read_eq (hw : w ≤ 8) (h : size w ≤ bytes.length) :
    read bytes w = .ok (some (view bytes w)) := by
  have hsize := size_eq w
  have hlimit : UInt64.size = 2 ^ 64 := rfl
  have hpointer (index : Nat) (hindex : index < 5) :
      bytes.fetch (pointerOffset w index) w = .ok (bytes.field (pointerOffset w index) w) :=
    Storage.fetch_eq ((pointerOffset_add_le_size w hindex).trans h) hw
  rw [read, if_neg (by omega), if_neg (by omega), Storage.fetch_eq (by omega) (by omega),
    hpointer 0 (by omega), hpointer 1 (by omega), hpointer 2 (by omega), hpointer 3 (by omega),
    hpointer 4 (by omega), Storage.byteAt_eq ((registerWidthOffset_lt_size w).trans_le h),
    Storage.byteAt_eq ((statusOffset_lt_size w).trans_le h)]
  rfl

end Reading

/-! ### Accepting a layout -/

/-- The entry list starts at or above the assembled base, does not end before it starts, and holds a
whole number of entries. -/
def Consistent (header : Header) : Prop :=
  header.entrySize ≠ 0 ∧ header.assembledBase ≤ header.firstEntry ∧
    header.firstEntry ≤ header.listEnd ∧
    (header.listEnd - header.firstEntry) % header.entrySize.toUInt64 = 0

instance (header : Header) : Decidable header.Consistent :=
  inferInstanceAs (Decidable (_ ∧ _ ∧ _ ∧ _))

/-- An entry size that is not zero stays so as a doubleword. -/
lemma toUInt64_ne_zero {size : UInt8} (h : size ≠ 0) : size.toUInt64 ≠ 0 := by
  intro hzero
  apply h
  apply UInt8.toNat_inj.mp
  have hnat := congrArg UInt64.toNat hzero
  simpa using hnat

/-- The test for consistency is never stopped: it divides by the entry size after looking at it. -/
lemma isConsistent_eq (header : Header) :
    header.isConsistent = .ok (decide header.Consistent) := by
  unfold isConsistent
  split
  · rename_i h
    obtain ⟨hsize, hbase, hend⟩ := h
    have hlength : header.listEnd.difference header.firstEntry =
        .ok (header.listEnd - header.firstEntry) := if_pos hend
    have hrest : Doubleword.remainder (header.listEnd - header.firstEntry)
        header.entrySize.toUInt64 =
          .ok ((header.listEnd - header.firstEntry) % header.entrySize.toUInt64) :=
      if_neg (toUInt64_ne_zero hsize)
    rw [hlength, Checked.ok_bind, hrest, Checked.ok_bind, Checked.pure_eq_ok]
    simp [Consistent, hsize, hbase, hend, BEq.beq]
  · rename_i h
    congr 1
    symm
    rw [decide_eq_false_iff_not]
    rintro ⟨hsize, hbase, hend, -⟩
    exact h ⟨hsize, hbase, hend⟩

/-- Entries have a codec exactly when they have two, three or four bytes and registers four or
eight; the registers decide how many bits hold the width. -/
lemma codec?_eq_some_iff {header : Header} {codec : EntryCodec} :
    header.codec? = some codec ↔ codec.entrySize = header.entrySize.toNat ∧
      (header.registerWidth = 4 ∧ codec.lengthBits = 2 ∨
        header.registerWidth = 8 ∧ codec.lengthBits = 3) := by
  unfold codec? lengthBits?
  by_cases h4 : header.registerWidth = 4
  · simp [h4, EntryCodec.of?_eq_some_iff]
  · by_cases h8 : header.registerWidth = 8
    · simp [h8, EntryCodec.of?_eq_some_iff]
    · simp [h4, h8]

/-- The bytes start with a header whose pointers have the size `w`. -/
structure Laid (bytes : Storage) (w : Nat) : Prop where
  /-- There are enough bytes. -/
  fits : size w ≤ bytes.length
  /-- The header says that its pointers have this size. -/
  width : (view bytes w).registerWidth = UInt8.ofNat w
  /-- The status byte has no unknown flags. -/
  plain : Status.PlainFlags (bytes.byte (statusOffset w))
  /-- Entries of this size can be unpacked. -/
  codec : (view bytes w).codec?.isSome
  consistent : (view bytes w).Consistent

instance (bytes : Storage) (w : Nat) : Decidable (Laid bytes w) :=
  decidable_of_iff
    (size w ≤ bytes.length ∧ (view bytes w).registerWidth = UInt8.ofNat w ∧
      Status.PlainFlags (bytes.byte (statusOffset w)) ∧ (view bytes w).codec?.isSome ∧
      (view bytes w).Consistent)
    ⟨fun ⟨h₁, h₂, h₃, h₄, h₅⟩ => ⟨h₁, h₂, h₃, h₄, h₅⟩,
      fun ⟨h₁, h₂, h₃, h₄, h₅⟩ => ⟨h₁, h₂, h₃, h₄, h₅⟩⟩

section Probing

variable {bytes : Storage} {w : Nat}

/-- A probe of bytes that are too few finds nothing. -/
lemma probe_of_short (h : bytes.length < size w) : probe bytes w = .ok none := by
  have hstatus : bytes[statusOffset w]? = none :=
    List.getElem?_eq_none (by unfold statusOffset; unfold size at h; omega)
  unfold probe
  rw [hstatus]
  split <;> rfl

/-- A probe accepts the layouts that `Laid` describes, and is never stopped. -/
theorem probe_eq (hw : w ≤ 8) :
    probe bytes w = .ok (if Laid bytes w then some (view bytes w) else none) := by
  by_cases hfits : size w ≤ bytes.length
  · have hwidth : registerWidthAt? bytes w = some (view bytes w).registerWidth :=
      Storage.getElem?_eq_byte ((registerWidthOffset_lt_size w).trans_le hfits)
    have hstatus : bytes[statusOffset w]? = some (bytes.byte (statusOffset w)) :=
      Storage.getElem?_eq_byte ((statusOffset_lt_size w).trans_le hfits)
    unfold probe
    rw [hwidth, hstatus, read_eq hw hfits]
    by_cases hreg : (view bytes w).registerWidth = UInt8.ofNat w
    · rw [if_neg (by rw [hreg]; simp)]
      by_cases hplain : Status.PlainFlags (bytes.byte (statusOffset w))
      · by_cases hcodec : (view bytes w).codec?.isSome
        · by_cases hcons : (view bytes w).Consistent
          · have hlaid : Laid bytes w := ⟨hfits, hreg, hplain, hcodec, hcons⟩
            simp [hplain, hcodec, isConsistent_eq, hcons, hlaid]
          · have hlaid : ¬ Laid bytes w := fun h => hcons h.consistent
            simp [hplain, hcodec, isConsistent_eq, hcons, hlaid]
        · have hlaid : ¬ Laid bytes w := fun h => hcodec h.codec
          simp [hplain, hcodec, hlaid]
      · have hlaid : ¬ Laid bytes w := fun h => hplain h.plain
        simp [hplain, hlaid]
    · rw [if_pos (by simpa using hreg), if_neg (fun h : Laid bytes w => hreg h.width)]
  · rw [probe_of_short (by omega), if_neg (fun h : Laid bytes w => hfits h.fits)]

end Probing

/-- The reader of a header takes the narrow layout before the wide one. -/
theorem locate_eq (bytes : Storage) :
    locate bytes =
      .ok (if Laid bytes 4 then some (4, view bytes 4)
        else if Laid bytes 8 then some (8, view bytes 8) else none) := by
  unfold locate
  rw [probe_eq (by decide), probe_eq (by decide)]
  by_cases h4 : Laid bytes 4
  · simp [h4]
  · by_cases h8 : Laid bytes 8
    · simp [h4, h8]
    · simp [h4, h8]

/-- What it takes for a header to be found with pointers of a given size. -/
theorem locate_eq_some_iff {bytes : Storage} {w : Nat} {header : Header} :
    locate bytes = .ok (some (w, header)) ↔
      (w = 4 ∨ w = 8 ∧ ¬ Laid bytes 4) ∧ Laid bytes w ∧ header = view bytes w := by
  rw [locate_eq]
  by_cases h4 : Laid bytes 4
  · simp only [h4, if_true, Except.ok.injEq, Option.some_inj, Prod.mk.injEq, not_true, and_false,
      or_false]
    constructor
    · rintro ⟨rfl, rfl⟩
      exact ⟨rfl, h4, rfl⟩
    · rintro ⟨rfl, -, rfl⟩
      exact ⟨rfl, rfl⟩
  · by_cases h8 : Laid bytes 8
    · simp only [h4, h8, if_true, if_false, Except.ok.injEq, Option.some_inj, Prod.mk.injEq]
      constructor
      · rintro ⟨rfl, rfl⟩
        exact ⟨Or.inr ⟨rfl, not_false⟩, h8, rfl⟩
      · rintro ⟨rfl | ⟨rfl, -⟩, hlaid, rfl⟩
        · exact absurd hlaid h4
        · exact ⟨rfl, rfl⟩
    · simp only [h4, h8, if_false, Except.ok.injEq]
      constructor
      · intro h
        contradiction
      · rintro ⟨rfl | ⟨rfl, -⟩, hlaid, -⟩
        · exact absurd hlaid h4
        · exact absurd hlaid h8

/-! ### Rewriting the status -/

/-- The flag byte of a status has no unknown flags. -/
lemma plainFlags_flags (status : Status) : Status.PlainFlags status.flags := by
  cases status <;> decide

section Marking

variable {storage : Storage} {start w : Nat}

/-- Setting the status of a header inside the storage. -/
lemma setStatus_eq (h : start + size w ≤ storage.length) (status : Status) :
    setStatus storage start w status =
      .ok (storage.put (start + statusOffset w) [status.flags]) := by
  have hlt := statusOffset_lt_size w
  apply Storage.overlay_eq
  rw [List.length_singleton]
  omega

/-- Setting the status changes one byte. -/
lemma getElem?_put_status (h : start + size w ≤ storage.length) (status : Status) (i : Nat) :
    (storage.put (start + statusOffset w) [status.flags])[i]? =
      if i = start + statusOffset w then some status.flags else storage[i]? := by
  have hlt := statusOffset_lt_size w
  have hfits : start + statusOffset w + [status.flags].length ≤ storage.length := by
    rw [List.length_singleton]
    omega
  rw [Storage.getElem?_put hfits, List.length_singleton]
  by_cases hi : i = start + statusOffset w
  · rw [if_pos (by omega), if_pos hi, hi, Nat.sub_self]
    rfl
  · rw [if_neg (by omega), if_neg hi]

end Marking

section Changes

variable {s t : Storage} {w : Nat}

/-- The pointer fields and the register width stand in front of the status byte. -/
lemma view_of_agreesOn (h : s.AgreesOn t 0 (statusOffset w)) :
    view t w = { view s w with status := Status.ofFlags (t.byte (statusOffset w)) } := by
  have hoffset : statusOffset w = 8 + 5 * w + 1 := rfl
  have hpointer (index : Nat) (hindex : index < 5) :
      s.field (pointerOffset w index) w = t.field (pointerOffset w index) w := by
    have hle : index * w ≤ 4 * w := Nat.mul_le_mul_right w (by omega)
    exact h.field_eq (by omega) (by unfold pointerOffset; omega)
  have hwidth : s.byte (registerWidthOffset w) = t.byte (registerWidthOffset w) :=
    h.byte_eq (by omega) (by unfold registerWidthOffset; omega)
  have hmark : s.field 0 8 = t.field 0 8 := h.field_eq (by omega) (by omega)
  simp only [view, hmark, hpointer 0 (by omega), hpointer 1 (by omega), hpointer 2 (by omega),
    hpointer 3 (by omega), hpointer 4 (by omega), hwidth]

/-- A layout stays acceptable when only the status byte changes, to plain flags. -/
lemma Laid.of_agreesOn (hlaid : Laid s w) (h : s.AgreesOn t 0 (statusOffset w))
    (hfits : size w ≤ t.length) (hplain : Status.PlainFlags (t.byte (statusOffset w))) :
    Laid t w := by
  have hview := view_of_agreesOn h
  -- neither the codec nor the consistency of a header looks at its status
  refine ⟨hfits, ?_, hplain, ?_, ?_⟩
  · rw [hview]
    exact hlaid.width
  · rw [hview]
    exact hlaid.codec
  · rw [hview]
    exact hlaid.consistent

/-- Whether a layout is acceptable depends on the bytes of the header only. -/
lemma laid_congr (h : s.AgreesOn t 0 (size w)) (hs : size w ≤ s.length) (ht : size w ≤ t.length) :
    Laid s w ↔ Laid t w := by
  have hoffset := statusOffset_lt_size w
  have hbyte : s.byte (statusOffset w) = t.byte (statusOffset w) :=
    h.byte_eq (Nat.zero_le _) hoffset
  have hfront : s.AgreesOn t 0 (statusOffset w) := h.mono le_rfl hoffset.le
  constructor
  · intro hlaid
    exact hlaid.of_agreesOn hfront ht (hbyte ▸ hlaid.plain)
  · intro hlaid
    exact hlaid.of_agreesOn hfront.symm hs (hbyte ▸ hlaid.plain)

/-- A header whose status was rewritten is found in the same layout, with the new status. -/
theorem locate_of_status {header : Header} {status : Status}
    (hlocate : locate s = .ok (some (w, header))) (h : s.AgreesOn t 0 (statusOffset w))
    (hfits : size w ≤ t.length) (hstatus : t.byte (statusOffset w) = status.flags) :
    locate t = .ok (some (w, { header with status := status })) := by
  obtain ⟨hw, hlaid, rfl⟩ := locate_eq_some_iff.mp hlocate
  have hlaid' : Laid t w :=
    hlaid.of_agreesOn h hfits (by rw [hstatus]; exact plainFlags_flags status)
  have hview : view t w = { view s w with status := status } := by
    rw [view_of_agreesOn h, hstatus, Status.ofFlags_flags]
  have hchoice : w = 4 ∨ w = 8 ∧ ¬ Laid t 4 := by
    rcases hw with hw | ⟨rfl, hnarrow⟩
    · exact Or.inl hw
    · -- the narrow header ends before the status byte of the wide one
      have hshort : s.AgreesOn t 0 (size 4) := h.mono le_rfl (by decide)
      have hsize : size 4 ≤ size 8 := by decide
      have hcongr := laid_congr hshort (hsize.trans hlaid.fits) (hsize.trans hfits)
      exact Or.inr ⟨rfl, fun hlaid4 => hnarrow (hcongr.mpr hlaid4)⟩
  exact locate_eq_some_iff.mpr ⟨hchoice, hlaid', hview.symm⟩

end Changes

/-! ### Headers that were written -/

/-- The four addresses of a header fit into pointers of the given size. -/
structure FitsIn (header : Header) (w : Nat) : Prop where
  assembledBase : header.assembledBase.toNat < 256 ^ w
  transferAddress : header.transferAddress.toNat < 256 ^ w
  firstEntry : header.firstEntry.toNat < 256 ^ w
  lastEntryByte : header.lastEntryByte.toNat < 256 ^ w

/-- Eight bytes hold every address. -/
lemma fitsIn_eight (header : Header) : header.FitsIn 8 :=
  ⟨header.assembledBase.toNat_lt, header.transferAddress.toNat_lt, header.firstEntry.toNat_lt,
    header.lastEntryByte.toNat_lt⟩

section Writing

variable {header : Header} {w : Nat}

/-- A written header has the bytes of a header. -/
@[simp] lemma length_encode (header : Header) (w : Nat) : (header.encode w).length = size w := by
  simp [encode, size]
  omega

/-- Behind a value in storage the bytes are those that follow it. -/
lemma getElem?_toBytes_append (n : Nat) (value : Doubleword) (rest : Storage) (i : Nat) :
    (Doubleword.toBytes n value ++ rest)[n + i]? = rest[i]? := by
  rw [List.getElem?_append_right (by simp), Doubleword.length_toBytes, Nat.add_sub_cancel_left]

/-- Behind a value in storage the fields are those that follow it. -/
lemma field_toBytes_append (n : Nat) (value : Doubleword) (rest : Storage) (start length : Nat) :
    Storage.field (Doubleword.toBytes n value ++ rest) (n + start) length =
      rest.field start length := by
  have hpart := Storage.part_append_right (Doubleword.toBytes n value) rest start length
  rw [Doubleword.length_toBytes] at hpart
  rw [Storage.field, Storage.field, hpart]

/-- A value in storage is the first field, as far as it fits. -/
lemma field_toBytes {n : Nat} (hn : n ≤ 8) (value : Doubleword) (rest : Storage) :
    Storage.field (Doubleword.toBytes n value ++ rest) 0 n = value.truncate n := by
  have hall := Storage.part_all (Doubleword.toBytes n value)
  rw [Doubleword.length_toBytes] at hall
  rw [Storage.field, Storage.part_append_left (by simp), hall,
    Doubleword.ofBytes_toBytes_eq_truncate hn]

/-- The header with its addresses cut to pointers of the given size. -/
def cutTo (header : Header) (w : Nat) : Header :=
  { header with
    assembledBase := header.assembledBase.truncate w
    transferAddress := header.transferAddress.truncate w
    firstEntry := header.firstEntry.truncate w
    lastEntryByte := header.lastEntryByte.truncate w }

/-- Cutting the addresses of a header changes nothing exactly when they fit. -/
lemma cutTo_eq_self_iff : header.cutTo w = header ↔ header.FitsIn w := by
  constructor
  · intro heq
    have hfield (address : Header → Doubleword)
        (hcut : address (header.cutTo w) = (address header).truncate w) :
        (address header).toNat < 256 ^ w := by
      rw [heq] at hcut
      exact Doubleword.truncate_eq_self_iff.mp hcut.symm
    exact ⟨hfield assembledBase rfl, hfield transferAddress rfl, hfield firstEntry rfl,
      hfield lastEntryByte rfl⟩
  · rintro ⟨hbase, htransfer, hfirst, hlast⟩
    simp only [cutTo, Doubleword.truncate_eq_self_iff.mpr hbase,
      Doubleword.truncate_eq_self_iff.mpr htransfer, Doubleword.truncate_eq_self_iff.mpr hfirst,
      Doubleword.truncate_eq_self_iff.mpr hlast]

/-- A written header shows itself with its addresses cut to its pointers, whatever follows it. -/
theorem view_encode_cutTo (hw : 1 ≤ w) (hw' : w ≤ 8) (header : Header) (rest : Storage) :
    view (header.encode w ++ rest) w = header.cutTo w := by
  have hbytes : header.encode w ++ rest =
      Doubleword.toBytes 8 header.eyecatcher ++ (Doubleword.toBytes w header.assembledBase ++
      (Doubleword.toBytes w header.transferAddress ++ (Doubleword.toBytes w header.firstEntry ++
      (Doubleword.toBytes w header.entrySize.toUInt64 ++
      (Doubleword.toBytes w header.lastEntryByte ++
      (header.registerWidth :: header.status.flags :: rest)))))) := by
    simp [encode]
  have h0 : pointerOffset w 0 = 8 + 0 := by unfold pointerOffset; omega
  have h1 : pointerOffset w 1 = 8 + (w + 0) := by unfold pointerOffset; omega
  have h2 : pointerOffset w 2 = 8 + (w + (w + 0)) := by unfold pointerOffset; omega
  have h3 : pointerOffset w 3 = 8 + (w + (w + (w + 0))) := by unfold pointerOffset; omega
  have h4 : pointerOffset w 4 = 8 + (w + (w + (w + (w + 0)))) := by unfold pointerOffset; omega
  have h5 : registerWidthOffset w = 8 + (w + (w + (w + (w + (w + 0))))) := by
    unfold registerWidthOffset
    omega
  have h6 : statusOffset w = 8 + (w + (w + (w + (w + (w + 1))))) := by
    unfold statusOffset
    omega
  have hmark : header.eyecatcher.truncate 8 = header.eyecatcher :=
    Doubleword.truncate_eq_self_iff.mpr header.eyecatcher.toNat_lt
  -- an entry size is one byte, so that it fits into every pointer
  have hsize : Doubleword.truncate w header.entrySize.toUInt64 = header.entrySize.toUInt64 := by
    rw [Doubleword.truncate_eq_self_iff]
    calc header.entrySize.toUInt64.toNat < 256 ^ 1 := by simpa using header.entrySize.toNat_lt
      _ ≤ 256 ^ w := Nat.pow_le_pow_right (by decide) hw
  have hentry : header.entrySize.toUInt64 < 256 := by
    rw [UInt64.lt_iff_toNat_lt]
    simpa using header.entrySize.toNat_lt
  simp only [view, hbytes, h0, h1, h2, h3, h4, h5, h6, Storage.byte, getElem?_toBytes_append,
    field_toBytes_append, field_toBytes hw', field_toBytes (le_refl 8), hmark, hsize,
    if_pos hentry]
  simp [cutTo]

/-- A written header is read with its addresses cut to its pointers, whatever follows it. -/
lemma read_encode (hw : 1 ≤ w) (hw' : w ≤ 8) (header : Header) (rest : Storage) :
    read (header.encode w ++ rest) w = .ok (some (header.cutTo w)) := by
  rw [read_eq hw' (by simp), view_encode_cutTo hw hw']

/-- A written header shows itself, whatever follows it, if its addresses fit into its pointers. -/
lemma view_encode (hw : 1 ≤ w) (hw' : w ≤ 8) (h : header.FitsIn w) (rest : Storage) :
    view (header.encode w ++ rest) w = header := by
  rw [view_encode_cutTo hw hw', cutTo_eq_self_iff.mpr h]

/-- The status byte of a written header. -/
lemma byte_statusOffset_encode (header : Header) (w : Nat) (rest : Storage) :
    Storage.byte (header.encode w ++ rest) (statusOffset w) = header.status.flags := by
  have hoffset : statusOffset w = 8 + (w + (w + (w + (w + (w + 1))))) := by
    unfold statusOffset
    omega
  simp only [encode, List.append_assoc, Storage.byte, hoffset, getElem?_toBytes_append]
  simp

/-- A written header is laid out in its own layout, if it is one that a reader accepts. -/
lemma laid_encode (hw : 1 ≤ w) (hw' : w ≤ 8) (h : header.FitsIn w)
    (hwidth : header.registerWidth = UInt8.ofNat w) (hcodec : header.codec?.isSome)
    (hconsistent : header.Consistent) (rest : Storage) : Laid (header.encode w ++ rest) w := by
  have hview := view_encode hw hw' h rest
  refine ⟨by simp, ?_, ?_, ?_, ?_⟩
  · rw [hview, hwidth]
  · rw [byte_statusOffset_encode]
    exact plainFlags_flags header.status
  · rw [hview]
    exact hcodec
  · rw [hview]
    exact hconsistent

/-- A written header is found, in its own layout, if a wide one does not show a narrow one as well. -/
theorem locate_encode (hw : w = 4 ∨ w = 8) (h : header.FitsIn w)
    (hwidth : header.registerWidth = UInt8.ofNat w) (hcodec : header.codec?.isSome)
    (hconsistent : header.Consistent) (rest : Storage)
    (hnarrow : w = 8 → ¬ Laid (header.encode 8 ++ rest) 4) :
    locate (header.encode w ++ rest) = .ok (some (w, header)) := by
  have hone : 1 ≤ w := by omega
  have height : w ≤ 8 := by omega
  have hlaid := laid_encode hone height h hwidth hcodec hconsistent rest
  refine locate_eq_some_iff.mpr ⟨?_, hlaid, (view_encode hone height h rest).symm⟩
  rcases hw with rfl | rfl
  · exact Or.inl rfl
  · exact Or.inr ⟨rfl, hnarrow rfl⟩

end Writing

end Header

end Relocation
