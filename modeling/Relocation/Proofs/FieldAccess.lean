import Relocation.Proofs.Storage

/-!
# Reading and writing fields

Headers, packed entries and address constants are all fields of storage: up to eight bytes that hold
a number, the most significant byte first.  This file says what a field shows (`Storage.Shows`), and
that writing and reading agree with it.  A number that is written shows its low-order bytes and
nothing else changes; a number that is read is the one that the field shows.

The main result is `field_access_exact`.
-/

namespace Relocation.Storage

/-- The bytes from offset `start` on are the low-order bytes of the number, the most significant one
first. -/
def Shows (storage : Storage) (start length n : Nat) : Prop :=
  ∀ i < length, storage[start + i]? = some (UInt8.ofNat (n / 256 ^ (length - 1 - i)))

section Fields

variable {storage : Storage} {start length : Nat}

/-! ### Writing -/

/-- A field that was written shows the number. -/
lemma shows_put_toBytes (h : start + length ≤ storage.length) (value : Doubleword) :
    (storage.put start (Doubleword.toBytes length value)).Shows start length value.toNat := by
  intro i hi
  rw [getElem?_put (by simpa using h), Doubleword.length_toBytes, if_pos (by omega),
    Nat.add_sub_cancel_left, Doubleword.getElem?_toBytes hi]

/-- A field that was written holds as much of the number as there is room for. -/
lemma field_put_toBytes (h : start + length ≤ storage.length) (hlength : length ≤ 8)
    (value : Doubleword) :
    (storage.put start (Doubleword.toBytes length value)).field start length =
      value.truncate length := by
  have hroom : start + (Doubleword.toBytes length value).length ≤ storage.length := by simpa using h
  have hpart := part_put hroom
  rw [Doubleword.length_toBytes] at hpart
  rw [field, hpart, Doubleword.ofBytes_toBytes_eq_truncate hlength]

/-- Writing a field changes no field that has no byte in common with it.  Fields without bytes are
among these wherever they stand, so that the order of the offsets alone does not decide. -/
lemma AgreesOn.put_of_disjoint {bytes : Storage} (h : start + bytes.length ≤ storage.length)
    {start' length' : Nat}
    (hdisjoint : (List.range' start bytes.length).Disjoint (List.range' start' length')) :
    (storage.put start bytes).AgreesOn storage start' (start' + length') := by
  intro i hlower hupper
  apply getElem?_put_of_apart h
  by_contra hinside
  exact hdisjoint (List.mem_range'_1.mpr (by omega)) (List.mem_range'_1.mpr ⟨hlower, hupper⟩)

/-! ### Reading -/

/-- A field shows the number that is read from it. -/
lemma shows_field (h : start + length ≤ storage.length) (hlength : length ≤ 8) :
    storage.Shows start length (storage.field start length).toNat := by
  intro i hi
  rw [← Doubleword.getElem?_toBytes hi, toBytes_field h hlength, getElem?_part, if_pos hi]

/-- Writing back what was read changes nothing. -/
lemma store_field (h : start + length ≤ storage.length) (hlength : length ≤ 8) :
    storage.store start length (storage.field start length) = .ok storage := by
  rw [store_eq h hlength, toBytes_field h hlength, put_part h]

end Fields

/-- A field of at most eight bytes inside the storage can be written and read.  After a number was
written, the field shows its low-order bytes and is read as what is left of the number in them, all
other bytes are as before, and so are the fields that have no byte in common with it.  What is read
is the number that the field shows, which has room in it, and writing it back changes nothing. -/
theorem field_access_exact (storage : Storage) (start length : Nat)
    (hinside : start + length ≤ storage.length) (hlength : length ≤ 8) :
    (∀ value : Doubleword, ∃ after, storage.store start length value = .ok after ∧
      after.length = storage.length ∧ after.Shows start length value.toNat ∧
      (∃ back, after.fetch start length = .ok back ∧
        back.toNat = value.toNat % 256 ^ length) ∧
      (∀ i, i < start ∨ start + length ≤ i → after[i]? = storage[i]?) ∧
      ∀ start' length', start' + length' ≤ storage.length → length' ≤ 8 →
        (List.range' start length).Disjoint (List.range' start' length') →
        ∃ other, storage.fetch start' length' = .ok other ∧
          after.fetch start' length' = .ok other) ∧
    ∃ value : Doubleword, storage.fetch start length = .ok value ∧
      value.toNat < 256 ^ length ∧ storage.Shows start length value.toNat ∧
      storage.store start length value = .ok storage := by
  refine ⟨fun value => ?_, ?_⟩
  · have hroom : start + (Doubleword.toBytes length value).length ≤ storage.length := by
      rwa [Doubleword.length_toBytes]
    have hafter := length_put hroom
    refine ⟨_, store_eq hinside hlength value, hafter, shows_put_toBytes hinside value, ?_, ?_, ?_⟩
    · refine ⟨_, fetch_eq (by omega) hlength, ?_⟩
      rw [field_put_toBytes hinside hlength, Doubleword.toNat_truncate]
    · intro i hi
      rw [← Doubleword.length_toBytes length value] at hi
      exact getElem?_put_of_apart hroom hi
    · intro start' length' hinside' hlength' hdisjoint
      rw [← Doubleword.length_toBytes length value] at hdisjoint
      have hagrees := AgreesOn.put_of_disjoint hroom hdisjoint
      refine ⟨_, fetch_eq hinside' hlength', ?_⟩
      rw [fetch_eq (by omega) hlength', hagrees.field_eq le_rfl le_rfl]
  · exact ⟨_, fetch_eq hinside hlength, toNat_field_lt storage start hlength,
      shows_field hinside hlength, store_field hinside hlength⟩

/-- Three bytes in the middle take the end of a longer number and leave the bytes beside them
alone. -/
theorem field_access_exact_middle :
    1 + 3 ≤ ([0x11, 0x22, 0x33, 0x44, 0x55] : Storage).length ∧ 3 ≤ 8 ∧
    (∃ after, store [0x11, 0x22, 0x33, 0x44, 0x55] 1 3 0xABCDEF12 = .ok after ∧
      after[1]? = some 0xCD ∧ (∃ back, after.fetch 1 3 = .ok back ∧ back.toNat = 0xCDEF12) ∧
      after[0]? = some 0x11 ∧
      (List.range' 1 3).Disjoint (List.range' 4 1) ∧
      ∃ other, fetch [0x11, 0x22, 0x33, 0x44, 0x55] 4 1 = .ok other ∧
        after.fetch 4 1 = .ok other) ∧
    ∃ value : Doubleword, fetch [0x11, 0x22, 0x33, 0x44, 0x55] 1 3 = .ok value ∧
      value.toNat < 256 ^ 3 ∧
      store [0x11, 0x22, 0x33, 0x44, 0x55] 1 3 value = .ok [0x11, 0x22, 0x33, 0x44, 0x55] := by
  have hapart : (List.range' 1 3).Disjoint (List.range' 4 1) :=
    List.disjoint_left.mpr (by decide)
  obtain ⟨hwrite, value, hfetch, hlt, -, hback⟩ :=
    field_access_exact [0x11, 0x22, 0x33, 0x44, 0x55] 1 3 (by decide) (by decide)
  obtain ⟨after, hstore, -, hshows, hread, hframe, hother⟩ := hwrite 0xABCDEF12
  refine ⟨by decide, by decide, ⟨after, hstore, ?_, hread, ?_, hapart, ?_⟩, value, hfetch, hlt,
    hback⟩
  · exact hshows 0 (by decide)
  · exact hframe 0 (by decide)
  · exact hother 4 1 (by decide) (by decide) hapart

end Relocation.Storage
