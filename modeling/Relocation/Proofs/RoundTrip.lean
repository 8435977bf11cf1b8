import Relocation.Proofs.HeaderLayout

/-!
# Headers and entries, written and read

A header and a packed entry are each written by one function and read by another, which find the
parts on their own.  This file says that the two directions undo each other, and where they do not.

Two steps of reading a header lose something: an entry size that is not a byte reads as zero, and the
flag byte reads as one of three statuses.  Writing loses the high-order bytes of an address that does
not fit into a pointer.  A header comes back from its bytes exactly when its addresses fit, and bytes
come back from their header exactly when neither loss has happened
(`Header.encode_view_eq_take_iff`).  The status byte can be rewritten in place without a trace in
any other part of the header.

A packed entry has no bits to spare, so that packing is a bijection between the entries with room and
the strings of bytes of the right length.

The main results are `Header.written_and_read_back` and `EntryCodec.packing_bijective`.
-/

namespace Relocation

/-- A flag byte comes back from its status when it is the flag byte of one. -/
lemma Status.flags_ofFlags_iff {flags : UInt8} :
    (ofFlags flags).flags = flags ↔ flags = 0x00 ∨ flags = 0x80 ∨ flags = 0xC0 := by
  constructor
  · intro h
    cases hstatus : ofFlags flags with
    | notStarted => exact Or.inl (by rw [← h, hstatus]; rfl)
    | inProgress => exact Or.inr (Or.inl (by rw [← h, hstatus]; rfl))
    | completed => exact Or.inr (Or.inr (by rw [← h, hstatus]; rfl))
  · rintro (rfl | rfl | rfl) <;> decide

/-- Two bytes of storage that follow each other. -/
lemma Storage.part_two {storage : Storage} {start : Nat} (h : start + 2 ≤ storage.length) :
    storage.part start 2 = [storage.byte start, storage.byte (start + 1)] := by
  apply List.ext_getElem?
  intro i
  rw [getElem?_part]
  match i with
  | 0 => exact getElem?_eq_byte (by omega)
  | 1 => exact getElem?_eq_byte (by omega)
  | i + 2 => simp

namespace Header

/-! ### Headers -/

section Headers

variable {bytes : Storage} {header : Header} {w : Nat}

/-- A header is read when there are enough bytes, and it is the one that they show. -/
lemma read_eq_some_iff (hw : w ≤ 8) :
    read bytes w = .ok (some header) ↔ size w ≤ bytes.length ∧ header = view bytes w := by
  by_cases h : size w ≤ bytes.length
  · rw [read_eq hw h, Except.ok.injEq, Option.some_inj, eq_comm]
    exact ⟨fun heq => ⟨h, heq⟩, fun heq => heq.2⟩
  · have hlimit : UInt64.size = 2 ^ 64 := rfl
    have hsize := size_eq w
    have hnone : read bytes w = .ok none := by
      rw [read, if_neg (by omega), if_pos (by omega)]
    rw [hnone]
    exact iff_of_false (by simp) fun heq => h heq.1

/-- The bytes of a header are its mark, its five pointers and two single bytes. -/
lemma take_size_eq (h : size w ≤ bytes.length) :
    bytes.take (size w) =
      bytes.part 0 8 ++ (bytes.part (pointerOffset w 0) w ++
      (bytes.part (pointerOffset w 1) w ++ (bytes.part (pointerOffset w 2) w ++
      (bytes.part (pointerOffset w 3) w ++ (bytes.part (pointerOffset w 4) w ++
      [bytes.byte (registerWidthOffset w), bytes.byte (statusOffset w)]))))) := by
  have hsize : size w = 8 + (w + (w + (w + (w + (w + 2))))) := by
    unfold size
    omega
  have hoffset (index : Nat) : pointerOffset w (index + 1) = pointerOffset w index + w := by
    unfold pointerOffset
    rw [Nat.succ_mul, Nat.add_assoc]
  have hfirst : pointerOffset w 0 = 0 + 8 := by
    unfold pointerOffset
    omega
  have hlast : registerWidthOffset w = pointerOffset w 4 + w := by
    unfold registerWidthOffset pointerOffset
    omega
  have htwo : bytes.part (registerWidthOffset w) 2 =
      [bytes.byte (registerWidthOffset w), bytes.byte (statusOffset w)] := by
    apply Storage.part_two
    unfold registerWidthOffset
    omega
  have hall : bytes.take (size w) = bytes.part 0 (size w) := by
    rw [Storage.part, List.drop_zero]
  rw [hall, ← htwo, hsize, Storage.part_add, Storage.part_add, Storage.part_add, Storage.part_add,
    Storage.part_add, Storage.part_add, hlast, hoffset 3, hoffset 2, hoffset 1, hoffset 0, hfirst]

/-- The entry size that a header shows is written as it was read exactly when it is a byte. -/
lemma toBytes_entrySize_view_iff (hw : w ≤ 8) (h : size w ≤ bytes.length) :
    Doubleword.toBytes w (view bytes w).entrySize.toUInt64 = bytes.part (pointerOffset w 3) w ↔
      bytes.field (pointerOffset w 3) w ≤ 255 := by
  have hinside : pointerOffset w 3 + w ≤ bytes.length :=
    (pointerOffset_add_le_size w (by decide)).trans h
  have hlt := bytes.toNat_field_lt (pointerOffset w 3) hw
  rw [← Storage.toBytes_field hinside hw, Doubleword.toBytes_inj_iff hw, Nat.mod_eq_of_lt hlt,
    UInt64.le_iff_toNat_le]
  unfold view
  dsimp only
  generalize bytes.field (pointerOffset w 3) w = size at hlt ⊢
  split
  · rename_i hbyte
    have hbyte : size.toNat < 256 := hbyte
    rw [UInt8.toNat_toUInt64, UInt64.toNat_toUInt8, Nat.mod_eq_of_lt hbyte, Nat.mod_eq_of_lt hlt]
    exact iff_of_true rfl (Nat.le_of_lt_succ hbyte)
  · rename_i hwide
    have hwide : ¬ size.toNat < 256 := hwide
    refine iff_of_false (fun hzero => ?_) fun hle => hwide (Nat.lt_succ_of_le hle)
    have hzero : 0 = size.toNat := by simpa [Nat.mod_eq_of_lt hlt] using hzero
    omega

/-- The header that some bytes show is written as these bytes exactly when its entry size is a byte
and its flag byte that of a status. -/
theorem encode_view_eq_take_iff (hw : w ≤ 8) (h : size w ≤ bytes.length) :
    (view bytes w).encode w = bytes.take (size w) ↔
      bytes.field (pointerOffset w 3) w ≤ 255 ∧
        (bytes.byte (statusOffset w) = 0x00 ∨ bytes.byte (statusOffset w) = 0x80 ∨
          bytes.byte (statusOffset w) = 0xC0) := by
  have hsize := size_eq w
  have hinside (index : Nat) (hindex : index < 5) : pointerOffset w index + w ≤ bytes.length :=
    (pointerOffset_add_le_size w hindex).trans h
  have hmark : Doubleword.toBytes 8 (view bytes w).eyecatcher = bytes.part 0 8 :=
    Storage.toBytes_field (by omega) le_rfl
  have hpointer (index : Nat) (hindex : index < 5) :
      Doubleword.toBytes w (bytes.field (pointerOffset w index) w) =
        bytes.part (pointerOffset w index) w :=
    Storage.toBytes_field (hinside index hindex) hw
  have hencode : (view bytes w).encode w =
      bytes.part 0 8 ++ (bytes.part (pointerOffset w 0) w ++
      (bytes.part (pointerOffset w 1) w ++ (bytes.part (pointerOffset w 2) w ++
      (Doubleword.toBytes w (view bytes w).entrySize.toUInt64 ++
      (bytes.part (pointerOffset w 4) w ++
      [bytes.byte (registerWidthOffset w),
        (Status.ofFlags (bytes.byte (statusOffset w))).flags]))))) := by
    rw [encode, hmark, ← hpointer 0 (by decide), ← hpointer 1 (by decide),
      ← hpointer 2 (by decide), ← hpointer 4 (by decide)]
    rfl
  have hlength : (Doubleword.toBytes w (view bytes w).entrySize.toUInt64).length =
      (bytes.part (pointerOffset w 3) w).length := by
    rw [Doubleword.length_toBytes, Storage.length_part (hinside 3 (by decide))]
  rw [hencode, take_size_eq h, ← toBytes_entrySize_view_iff hw h, ← Status.flags_ofFlags_iff]
  simp only [List.append_cancel_left_eq]
  constructor
  · intro heq
    obtain ⟨hentry, hrest⟩ := List.append_inj heq hlength
    simp only [List.append_cancel_left_eq, List.cons.injEq, true_and, and_true] at hrest
    exact ⟨hentry, hrest⟩
  · rintro ⟨hentry, hflags⟩
    rw [hentry, hflags]

/-- Setting the status of a header inside the storage changes its status and nothing else of it. -/
lemma view_put_status {storage : Storage} {start : Nat} (h : start + size w ≤ storage.length)
    (status : Status) :
    view ((storage.put (start + statusOffset w) [status.flags]).drop start) w =
      { view (storage.drop start) w with status := status } := by
  have hagrees : Storage.AgreesOn (storage.drop start)
      ((storage.put (start + statusOffset w) [status.flags]).drop start) 0 (statusOffset w) := by
    intro i _ hi
    rw [List.getElem?_drop, List.getElem?_drop, getElem?_put_status h, if_neg (by omega)]
  have hbyte : Storage.byte ((storage.put (start + statusOffset w) [status.flags]).drop start)
      (statusOffset w) = status.flags := by
    rw [Storage.byte, List.getElem?_drop, getElem?_put_status h, if_pos rfl, Option.getD_some]
  rw [view_of_agreesOn hagrees, hbyte, Status.ofFlags_flags]

end Headers

/-- For every size of pointers: a header that is written and read again, whatever follows it, comes
back exactly when its addresses fit.  Bytes that were read as a header come back when it is written
exactly when the entry size in them is a byte and their flag byte is that of a status.  Setting the
status changes no other byte, and the header that is read afterwards differs in its status only. -/
theorem written_and_read_back (w : Nat) (hw : 1 ≤ w) (hw' : w ≤ 8) :
    (∀ header : Header, ∃ written, header.write w = .ok written ∧
      ∀ rest, read (written ++ rest) w = .ok (some header) ↔ header.FitsIn w) ∧
    (∀ bytes header, read bytes w = .ok (some header) →
      ∃ entrySize flags, bytes.fetch (pointerOffset w 3) w = .ok entrySize ∧
        bytes.byteAt (statusOffset w) = .ok flags ∧
        (header.write w = .ok (bytes.take (size w)) ↔
          entrySize ≤ 255 ∧ (flags = 0x00 ∨ flags = 0x80 ∨ flags = 0xC0))) ∧
    ∀ (storage : Storage) (start : Nat) (status : Status), start + size w ≤ storage.length →
      ∃ marked header, setStatus storage start w status = .ok marked ∧
        marked.length = storage.length ∧
        (∀ i, i ≠ start + statusOffset w → marked[i]? = storage[i]?) ∧
        read (storage.drop start) w = .ok (some header) ∧
        read (marked.drop start) w = .ok (some { header with status := status }) := by
  have hwrite (header : Header) : header.write w = .ok (header.encode w) := if_pos hw'
  have hlt := statusOffset_lt_size w
  refine ⟨?_, ?_, ?_⟩
  · intro header
    refine ⟨_, hwrite header, fun rest => ?_⟩
    rw [read_encode hw hw', Except.ok.injEq, Option.some_inj, cutTo_eq_self_iff]
  · intro bytes header hread
    obtain ⟨hfits, rfl⟩ := (read_eq_some_iff hw').mp hread
    have hpointer := (pointerOffset_add_le_size w (by decide : 3 < 5)).trans hfits
    refine ⟨_, _, Storage.fetch_eq hpointer hw', Storage.byteAt_eq (hlt.trans_le hfits), ?_⟩
    rw [hwrite, Except.ok.injEq]
    exact encode_view_eq_take_iff hw' hfits
  · intro storage start status hinside
    have hlength : (storage.put (start + statusOffset w) [status.flags]).length =
        storage.length := Storage.length_put (by rw [List.length_singleton]; omega)
    refine ⟨_, _, setStatus_eq hinside status, hlength, ?_, read_eq hw' ?_, ?_⟩
    · intro i hi
      rw [getElem?_put_status hinside, if_neg hi]
    · rw [List.length_drop]
      omega
    · rw [← view_put_status hinside]
      exact read_eq hw' (by rw [List.length_drop, hlength]; omega)

/-- A header with pointers of two bytes whose entry size is no byte and whose flag byte is not that
of a status. -/
def strayHeader : Storage :=
  [0xD9, 0xC5, 0xD3, 0xD6, 0xC3, 0xE3, 0xC2, 0xD3, 0x10, 0x00, 0xFF, 0xFF, 0x00, 0x07, 0x01, 0x00,
    0x00, 0x06, 0x09, 0x40]

/-- With pointers of two bytes a header with the greatest entry size comes back.  The stray header
does not come back from what it is read as, and can be rewritten where it stands. -/
theorem written_and_read_back_stray :
    (∃ written, Header.write ⟨mark, 0x1000, 0xFFFF, 7, 255, 6, 9, .inProgress⟩ 2 = .ok written ∧
      read (written ++ [0xAA]) 2 =
        .ok (some ⟨mark, 0x1000, 0xFFFF, 7, 255, 6, 9, .inProgress⟩)) ∧
    (∃ header, read strayHeader 2 = .ok (some header) ∧
      header.write 2 ≠ .ok (strayHeader.take (size 2))) ∧
    ∃ marked header, setStatus (0xAA :: strayHeader) 1 2 .inProgress = .ok marked ∧
      read strayHeader 2 = .ok (some header) ∧
      read (marked.drop 1) 2 = .ok (some { header with status := .inProgress }) := by
  obtain ⟨hheaders, hbytes, hstatus⟩ := written_and_read_back 2 (by decide) (by decide)
  refine ⟨?_, ?_, ?_⟩
  · obtain ⟨written, hwrite, hread⟩ := hheaders ⟨mark, 0x1000, 0xFFFF, 7, 255, 6, 9, .inProgress⟩
    exact ⟨written, hwrite, (hread [0xAA]).mpr (by constructor <;> decide)⟩
  · have hread : read strayHeader 2 =
        .ok (some ⟨mark, 0x1000, 0xFFFF, 7, 0, 6, 9, .completed⟩) := by
      decide +kernel
    obtain ⟨entrySize, flags, hsize, -, hiff⟩ := hbytes strayHeader _ hread
    refine ⟨_, hread, fun hback => ?_⟩
    have hfetch : strayHeader.fetch (pointerOffset 2 3) 2 = .ok 0x100 := by decide +kernel
    obtain rfl := Except.ok.inj (hsize.symm.trans hfetch)
    exact absurd (hiff.mp hback).1 (by decide)
  · obtain ⟨marked, header, hset, -, -, hread, hmarked⟩ :=
      hstatus (0xAA :: strayHeader) 1 .inProgress (by decide)
    exact ⟨marked, header, hset, hread, hmarked⟩

end Header

/-! ### Entries -/

namespace EntryCodec

variable {codec : EntryCodec} {packed : Doubleword}

/-- An unpacked entry has room in a packed entry. -/
lemma fits_unpack (h : packed.toNat < 256 ^ codec.entrySize) : codec.Fits (codec.unpack packed) := by
  refine ⟨?_, length_unpack_le h, ?_⟩
  · rw [toNat_length_unpack h]
    exact Nat.le_add_left 1 _
  · rw [toNat_displacement_unpack]
    exact Nat.mod_lt _ (Nat.two_pow_pos _)

/-- Unpacking loses nothing. -/
theorem encode?_unpack (h : packed.toNat < 256 ^ codec.entrySize) :
    codec.encode? (codec.unpack packed) = some packed := by
  refine encode?_eq_some_iff.mpr ⟨fits_unpack h, ?_⟩
  rw [toNat_length_unpack h, toNat_displacement_unpack, Nat.add_sub_cancel, Nat.div_add_mod']

/-- An entry can be packed exactly when both of its parts have room.  The packed entry then has the
bytes of one entry, and these read back as the entry.  All strings of that many bytes are packed
entries: each can be read, and packing and writing what was read gives the same bytes. -/
theorem packing_bijective {entrySize lengthBits : Nat} {codec : EntryCodec}
    (h : of? entrySize lengthBits = some codec) :
    (∀ entry, (∃ packed, codec.encode? entry = some packed) ↔
      1 ≤ entry.length.toNat ∧ entry.length.toNat ≤ 2 ^ lengthBits ∧
        entry.displacement.toNat < 2 ^ (8 * entrySize - lengthBits)) ∧
    (∀ entry packed, codec.encode? entry = some packed →
      packed.toNat < 2 ^ (8 * entrySize) ∧
        ∃ bytes, codec.write packed = .ok bytes ∧ bytes.length = entrySize ∧
          codec.read bytes = .ok entry) ∧
    ∀ bytes : Storage, bytes.length = entrySize →
      ∃ packed entry, Doubleword.read bytes = .ok packed ∧ codec.decode packed = .ok entry ∧
        codec.encode? entry = some packed ∧ codec.write packed = .ok bytes := by
  obtain ⟨rfl, rfl⟩ := of?_eq_some_iff.mp h
  have hpow : 2 ^ (8 * codec.entrySize) = 256 ^ codec.entrySize := pow_mul 2 8 codec.entrySize
  refine ⟨?_, ?_, ?_⟩
  · intro entry
    constructor
    · rintro ⟨packed, hpacked⟩
      exact (encode?_eq_some_iff.mp hpacked).1
    · intro hfits
      exact ⟨_, encode?_eq_some_iff.mpr ⟨hfits, toNat_pack hfits⟩⟩
  · intro entry packed hpacked
    have hlength := Doubleword.length_toBytes codec.entrySize packed
    refine ⟨hpow ▸ toNat_lt_of_encode? hpacked, _, codec.write_eq packed, hlength, ?_⟩
    rw [read_eq hlength, unpack_ofBytes_toBytes hpacked]
  · intro bytes hlength
    have hle : bytes.length ≤ 8 := hlength.trans_le codec.entrySize_le
    have hlt : (Doubleword.ofBytes bytes).toNat < 256 ^ codec.entrySize :=
      hlength ▸ Doubleword.toNat_ofBytes_lt hle
    refine ⟨_, _, if_pos hle, decode_eq hlt, encode?_unpack hlt, ?_⟩
    rw [write_eq, ← hlength, Doubleword.toBytes_ofBytes hle]

/-- In three bytes with three bits for the width, the longest entry at the greatest displacement is
packed into all ones, and back. -/
theorem packing_bijective_all_ones :
    ∃ codec, of? 3 3 = some codec ∧
      (∃ packed, codec.encode? ⟨8, 0x1FFFFF⟩ = some packed ∧ packed.toNat < 2 ^ 24 ∧
        ∃ bytes, codec.write packed = .ok bytes ∧ codec.read bytes = .ok ⟨8, 0x1FFFFF⟩) ∧
      (¬ ∃ packed, codec.encode? ⟨8, 0x200000⟩ = some packed) ∧
      ∃ packed entry, Doubleword.read [0xFF, 0xFF, 0xFF] = .ok packed ∧
        codec.decode packed = .ok entry ∧ codec.encode? entry = some packed ∧
        codec.write packed = .ok [0xFF, 0xFF, 0xFF] := by
  obtain ⟨hroom, hpacks, hreads⟩ := packing_bijective (rfl : of? 3 3 = some _)
  refine ⟨_, rfl, ?_, ?_, hreads [0xFF, 0xFF, 0xFF] rfl⟩
  · obtain ⟨packed, hpacked⟩ := (hroom ⟨8, 0x1FFFFF⟩).mpr (by decide)
    obtain ⟨hlt, bytes, hwrite, -, hread⟩ := hpacks _ packed hpacked
    exact ⟨packed, hpacked, hlt, bytes, hwrite, hread⟩
  · rw [hroom]
    decide

end EntryCodec

end Relocation
