import Relocation.Proofs.Storage
import Relocation.Table.Entry

/-!
# Packed entries

An entry is packed into `8 * entrySize` bits: `lengthBits` of them hold the width less one, the
other `displacementBits` the displacement.  This file reads the codec over the natural numbers,
where packing is `(length - 1) * 2 ^ displacementBits + displacement` and unpacking is quotient and
remainder by `2 ^ displacementBits`.

The main results are `read_eq` (an entry can be read from any bytes of the right number),
`readList_eq` (so a list of them from any bytes), `encode?_eq_some_iff` (what can be packed, and
into which number) and `unpack_of_encode?` (packing loses nothing).
-/

namespace Relocation

namespace EntryCodec

/-- A codec is that of its entry size and its number of length bits. -/
lemma of?_eq_some_iff {codec : EntryCodec} {entrySize lengthBits : Nat} :
    of? entrySize lengthBits = some codec ↔
      codec.entrySize = entrySize ∧ codec.lengthBits = lengthBits := by
  obtain ⟨size, bits, hsize, hbits⟩ := codec
  unfold of?
  split
  · simp [eq_comm]
  · rename_i h
    simp only [reduceCtorEq, false_iff]
    rintro ⟨rfl, rfl⟩
    exact h ⟨hsize, hbits⟩

/-! ### The numbers of a codec -/

section Numbers

variable (codec : EntryCodec)

/-- Width and displacement share the bits of a packed entry. -/
lemma displacementBits_add_lengthBits :
    codec.displacementBits + codec.lengthBits = 8 * codec.entrySize := by
  have hsize := codec.entrySize_cases
  have hbits := codec.lengthBits_cases
  unfold displacementBits
  omega

/-- An entry has bytes. -/
lemma entrySize_pos : 0 < codec.entrySize := by
  have hsize := codec.entrySize_cases
  omega

/-- A packed entry has at most four bytes, so it is read in one piece. -/
lemma entrySize_le : codec.entrySize ≤ 8 := by
  have hsize := codec.entrySize_cases
  omega

/-- A displacement has at most thirty bits. -/
lemma displacementBits_le : codec.displacementBits ≤ 30 := by
  have hsize := codec.entrySize_cases
  have hbits := codec.lengthBits_cases
  unfold displacementBits
  omega

/-- There are at most `2 ^ 30` displacements. -/
lemma two_pow_displacementBits_le : 2 ^ codec.displacementBits ≤ 2 ^ 30 :=
  Nat.pow_le_pow_right (by decide) codec.displacementBits_le

/-- There are at most eight widths. -/
lemma two_pow_lengthBits_le : 2 ^ codec.lengthBits ≤ 8 := by
  rcases codec.lengthBits_cases with h | h <;> rw [h] <;> decide

/-- The packed entries are the pairs of a width and a displacement. -/
lemma pow_entrySize :
    256 ^ codec.entrySize = 2 ^ codec.lengthBits * 2 ^ codec.displacementBits := by
  rw [← pow_add, Nat.add_comm, codec.displacementBits_add_lengthBits, pow_mul]
  norm_num

/-- The weight of the width, as a number. -/
lemma toNat_lengthFactor : codec.lengthFactor.toNat = 2 ^ codec.displacementBits := by
  have hle := codec.two_pow_displacementBits_le
  rw [lengthFactor, Nat.one_shiftLeft]
  exact UInt64.toNat_ofNat_of_lt' (by simp [UInt64.size]; omega)

/-- The greatest displacement, as a number. -/
lemma toNat_maxDisplacement : codec.maxDisplacement.toNat = 2 ^ codec.displacementBits - 1 := by
  have hone : (1 : Doubleword) ≤ codec.lengthFactor := by
    rw [UInt64.le_iff_toNat_le, toNat_lengthFactor]
    exact Nat.one_le_two_pow
  rw [maxDisplacement, UInt64.toNat_sub_of_le _ _ hone, toNat_lengthFactor]
  rfl

/-- The greatest width, as a number. -/
lemma toNat_maxLength : codec.maxLength.toNat = 2 ^ codec.lengthBits := by
  have hle := codec.two_pow_lengthBits_le
  rw [maxLength, Nat.one_shiftLeft]
  exact UInt8.toNat_ofNat_of_lt' (by simp [UInt8.size]; omega)

end Numbers

/-! ### Unpacking -/

/-- The entry in a packed value. -/
def unpack (codec : EntryCodec) (packed : Doubleword) : Entry :=
  ⟨(packed >>> UInt64.ofNat codec.displacementBits).toUInt8 + 1, packed &&& codec.maxDisplacement⟩

section Unpacking

variable {codec : EntryCodec} {packed : Doubleword}

/-- What stands to the left of the displacement is less than the number of widths. -/
lemma div_two_pow_lt (h : packed.toNat < 256 ^ codec.entrySize) :
    packed.toNat / 2 ^ codec.displacementBits < 2 ^ codec.lengthBits := by
  rw [Nat.div_lt_iff_lt_mul (by positivity), ← pow_entrySize]
  exact h

/-- The bits to the left of the displacement survive being read as one byte. -/
lemma toNat_shiftRight_displacementBits (h : packed.toNat < 256 ^ codec.entrySize) :
    (packed >>> UInt64.ofNat codec.displacementBits).toUInt8.toNat =
      packed.toNat / 2 ^ codec.displacementBits := by
  have hbits := codec.displacementBits_le
  have hle := codec.two_pow_lengthBits_le
  have hlt := div_two_pow_lt h
  have hshift : (UInt64.ofNat codec.displacementBits).toNat % 64 = codec.displacementBits := by
    rw [UInt64.toNat_ofNat_of_lt' (by simp [UInt64.size]; omega)]
    omega
  rw [UInt64.toNat_toUInt8, UInt64.toNat_shiftRight, hshift, Nat.shiftRight_eq_div_pow]
  exact Nat.mod_eq_of_lt (hlt.trans_le (hle.trans (by decide)))

/-- The width of an unpacked entry. -/
lemma toNat_length_unpack (h : packed.toNat < 256 ^ codec.entrySize) :
    (codec.unpack packed).length.toNat = packed.toNat / 2 ^ codec.displacementBits + 1 := by
  have hle := codec.two_pow_lengthBits_le
  have hlt := div_two_pow_lt h
  rw [unpack, UInt8.toNat_add, toNat_shiftRight_displacementBits h]
  simp
  omega

/-- The displacement of an unpacked entry. -/
lemma toNat_displacement_unpack (codec : EntryCodec) (packed : Doubleword) :
    (codec.unpack packed).displacement.toNat = packed.toNat % 2 ^ codec.displacementBits := by
  rw [unpack, UInt64.toNat_and, toNat_maxDisplacement, Nat.and_two_pow_sub_one_eq_mod]

/-- The width of an unpacked entry is one that the codec can hold. -/
lemma length_unpack_le (h : packed.toNat < 256 ^ codec.entrySize) :
    (codec.unpack packed).length.toNat ≤ 2 ^ codec.lengthBits := by
  rw [toNat_length_unpack h]
  exact div_two_pow_lt h

/-- Decoding a packed entry is unpacking it: the width less one is never `255`. -/
lemma decode_eq (h : packed.toNat < 256 ^ codec.entrySize) :
    codec.decode packed = .ok (codec.unpack packed) := by
  have hle := codec.two_pow_lengthBits_le
  have hlt := div_two_pow_lt h
  have hne : (packed >>> UInt64.ofNat codec.displacementBits).toUInt8 ≠ 255 := by
    intro heq
    have hnat := congrArg UInt8.toNat heq
    rw [toNat_shiftRight_displacementBits h] at hnat
    simp at hnat
    omega
  exact if_neg hne

/-- An entry can be read from any bytes of the right number. -/
theorem read_eq {bytes : Storage} (h : bytes.length = codec.entrySize) :
    codec.read bytes = .ok (codec.unpack (Doubleword.ofBytes bytes)) := by
  have hle : bytes.length ≤ 8 := h ▸ codec.entrySize_le
  have hread : Doubleword.read bytes = .ok (Doubleword.ofBytes bytes) := if_pos hle
  rw [read, hread]
  exact decode_eq (h ▸ Doubleword.toNat_ofBytes_lt hle)

/-- Every piece of a list has the bytes of one entry. -/
lemma length_of_mem_pieces {list piece : Storage} {size : Nat} (h : piece ∈ list.pieces size) :
    piece.length = size := by
  obtain ⟨k, hk, rfl⟩ := List.mem_map.mp h
  have hmul : (k + 1) * size ≤ list.length :=
    (Nat.mul_le_mul_right size (List.mem_range.mp hk)).trans (Nat.div_mul_le_self _ _)
  rw [Nat.succ_mul] at hmul
  exact Storage.length_part hmul

/-- The entries can be read from any list of bytes; what is left over at the end is passed over. -/
theorem readList_eq (codec : EntryCodec) (list : Storage) :
    codec.readList list =
      .ok ((list.pieces codec.entrySize).map fun piece =>
        codec.unpack (Doubleword.ofBytes piece)) :=
  Checked.mapM_eq_ok fun _ hpiece => read_eq (length_of_mem_pieces hpiece)

end Unpacking

/-! ### Packing -/

/-- Both parts of the entry have room in a packed entry. -/
def Fits (codec : EntryCodec) (entry : Entry) : Prop :=
  1 ≤ entry.length.toNat ∧ entry.length.toNat ≤ 2 ^ codec.lengthBits ∧
    entry.displacement.toNat < 2 ^ codec.displacementBits

section Packing

variable {codec : EntryCodec} {entry : Entry} {packed : Doubleword}

/-- The codec turns down exactly the entries without room. -/
lemma refused_iff (codec : EntryCodec) (entry : Entry) :
    (entry.length = 0 ∨ codec.maxLength < entry.length ∨
      codec.maxDisplacement < entry.displacement) ↔ ¬ codec.Fits entry := by
  have hpos : 0 < 2 ^ codec.displacementBits := by positivity
  have hzero : entry.length = 0 ↔ entry.length.toNat = 0 := UInt8.toNat_inj.symm
  rw [hzero, UInt8.lt_iff_toNat_lt, UInt64.lt_iff_toNat_lt, toNat_maxLength,
    toNat_maxDisplacement, Fits]
  omega

/-- Packing an entry with room does not wrap around. -/
lemma toNat_pack (h : codec.Fits entry) :
    ((entry.length - 1).toUInt64 * codec.lengthFactor + entry.displacement).toNat =
      (entry.length.toNat - 1) * 2 ^ codec.displacementBits + entry.displacement.toNat := by
  obtain ⟨hone, hlength, hdisplacement⟩ := h
  have hfactor := codec.two_pow_displacementBits_le
  have hlengths := codec.two_pow_lengthBits_le
  have hone' : (1 : UInt8) ≤ entry.length := UInt8.le_iff_toNat_le.mpr hone
  have hless : (entry.length - 1).toUInt64.toNat = entry.length.toNat - 1 := by
    rw [UInt8.toNat_toUInt64, UInt8.toNat_sub_of_le _ _ hone']
    rfl
  have hproduct : (entry.length.toNat - 1) * 2 ^ codec.displacementBits ≤ 7 * 2 ^ 30 :=
    Nat.mul_le_mul (by omega) hfactor
  rw [UInt64.toNat_add, UInt64.toNat_mul, hless, toNat_lengthFactor,
    Nat.mod_eq_of_lt (hproduct.trans_lt (by decide)), Nat.mod_eq_of_lt (by omega)]

/-- An entry can be packed exactly when both parts have room, and then into this number. -/
theorem encode?_eq_some_iff :
    codec.encode? entry = some packed ↔ codec.Fits entry ∧
      packed.toNat =
        (entry.length.toNat - 1) * 2 ^ codec.displacementBits + entry.displacement.toNat := by
  by_cases h : codec.Fits entry
  · rw [encode?, if_neg (by rw [refused_iff]; exact not_not_intro h), Option.some_inj,
      ← UInt64.toNat_inj, toNat_pack h]
    exact ⟨fun heq => ⟨h, heq.symm⟩, fun heq => heq.2.symm⟩
  · rw [encode?, if_pos ((refused_iff codec entry).mpr h)]
    exact ⟨fun heq => by contradiction, fun heq => absurd heq.1 h⟩

/-- A packed entry has the bytes of one entry. -/
lemma toNat_lt_of_encode? (h : codec.encode? entry = some packed) :
    packed.toNat < 256 ^ codec.entrySize := by
  obtain ⟨⟨hone, hlength, hdisplacement⟩, hpacked⟩ := encode?_eq_some_iff.mp h
  calc packed.toNat
      < (entry.length.toNat - 1) * 2 ^ codec.displacementBits + 2 ^ codec.displacementBits := by
        omega
    _ = entry.length.toNat * 2 ^ codec.displacementBits := by
        rw [← Nat.succ_mul]
        congr 1
        omega
    _ ≤ 2 ^ codec.lengthBits * 2 ^ codec.displacementBits := Nat.mul_le_mul_right _ hlength
    _ = 256 ^ codec.entrySize := codec.pow_entrySize.symm

/-- Packing loses nothing. -/
theorem unpack_of_encode? (h : codec.encode? entry = some packed) :
    codec.unpack packed = entry := by
  obtain ⟨⟨hone, hlength, hdisplacement⟩, hpacked⟩ := encode?_eq_some_iff.mp h
  have hlt := toNat_lt_of_encode? h
  have hdiv : packed.toNat / 2 ^ codec.displacementBits = entry.length.toNat - 1 := by
    rw [hpacked, Nat.mul_comm, Nat.mul_add_div (by positivity), Nat.div_eq_of_lt hdisplacement,
      Nat.add_zero]
  have hmod : packed.toNat % 2 ^ codec.displacementBits = entry.displacement.toNat := by
    rw [hpacked, Nat.mul_comm, Nat.mul_add_mod, Nat.mod_eq_of_lt hdisplacement]
  have hwidth : (codec.unpack packed).length = entry.length := by
    apply UInt8.toNat_inj.mp
    rw [toNat_length_unpack hlt, hdiv]
    omega
  have hdistance : (codec.unpack packed).displacement = entry.displacement := by
    apply UInt64.toNat_inj.mp
    rw [toNat_displacement_unpack, hmod]
  exact congrArg₂ Entry.mk hwidth hdistance

/-- The bytes of a packed entry read back as the entry. -/
lemma unpack_ofBytes_toBytes (h : codec.encode? entry = some packed) :
    codec.unpack (Doubleword.ofBytes (Doubleword.toBytes codec.entrySize packed)) = entry := by
  rw [Doubleword.ofBytes_toBytes codec.entrySize_le (toNat_lt_of_encode? h), unpack_of_encode? h]

/-- A packed entry can be written. -/
lemma write_eq (codec : EntryCodec) (packed : Doubleword) :
    codec.write packed = .ok (Doubleword.toBytes codec.entrySize packed) :=
  if_pos codec.entrySize_le

end Packing

end EntryCodec

end Relocation
