import Relocation.AddressingMode
import Relocation.Proofs.Storage

/-!
# Adjusting addresses over the integers

An adjustment moves the low-order bits of a field, which hold the address, and leaves the bits to
the left of them alone.  The definitions work on doublewords that wrap around, with masks of several
shapes.  This file gives them one meaning over the integers: `Adjustment.toInt` is the distance with
its sign, `AddressingMode.addressBits` the number of bits that hold the address, and
`AddressingMode.toNat_adjust` says that those bits are added to modulo a power of two while the rest
of the field is kept.

What the modes have in common and where they differ is then a matter of arithmetic.  A field that
does not move is cut to its width and otherwise unchanged (`AddressingMode.adjust_of_toInt_eq_zero`).
-/

namespace Relocation

/-! ### Sums and differences modulo a power of two -/

namespace Doubleword

/-- A sum of doublewords is the sum of their values modulo `2 ^ 64`. -/
lemma toNat_add_eq_emod (a b : Doubleword) :
    ((a + b).toNat : Int) = (a.toNat + b.toNat : Int) % 2 ^ 64 := by
  rw [UInt64.toNat_add]
  omega

/-- A difference of doublewords is the difference of their values modulo `2 ^ 64`. -/
lemma toNat_sub_eq_emod (a b : Doubleword) :
    ((a - b).toNat : Int) = (a.toNat - b.toNat : Int) % 2 ^ 64 := by
  have hlt := b.toNat_lt
  rw [UInt64.toNat_sub]
  omega

/-- A mask of the low-order `k` bits takes the remainder by `2 ^ k`. -/
lemma toNat_and_lowMask {k : Nat} {mask : Doubleword} (hmask : mask.toNat = 2 ^ k - 1)
    (value : Doubleword) : (value &&& mask).toNat = value.toNat % 2 ^ k := by
  rw [UInt64.toNat_and, hmask, Nat.and_two_pow_sub_one_eq_mod]

/-- A mask of `j` bits to the left of the low-order `k` keeps these bits in their place. -/
lemma toNat_and_highMask {j k : Nat} {mask : Doubleword} (hmask : mask.toNat = (2 ^ j - 1) <<< k)
    (value : Doubleword) :
    (value &&& mask).toNat = (value.toNat % 2 ^ (k + j) / 2 ^ k) <<< k := by
  rw [UInt64.toNat_and, hmask]
  apply Nat.eq_of_testBit_eq
  intro i
  rw [Nat.testBit_and, Nat.testBit_shiftLeft, Nat.testBit_shiftLeft, Nat.testBit_two_pow_sub_one,
    Nat.testBit_div_two_pow, Nat.testBit_mod_two_pow]
  rcases Nat.lt_or_ge i k with hi | hi
  · simp [Nat.not_le.mpr hi]
  · have hiff : i - k < j ↔ i < k + j := by omega
    simp [hi, Nat.sub_add_cancel hi, hiff, Bool.and_comm]

/-- The mask of the low-order bytes, as a number. -/
lemma toNat_lowMask (bytes : Nat) : (lowMask bytes).toNat = 2 ^ (8 * min bytes 8) - 1 := by
  have hle : 2 ^ (8 * min bytes 8) ≤ 2 ^ 64 := Nat.pow_le_pow_right (by decide) (by omega)
  rw [lowMask, Nat.one_shiftLeft]
  exact UInt64.toNat_ofNat_of_lt' (by simp only [UInt64.size]; omega)

end Doubleword

namespace Adjustment

/-- The distance as an integer, negative towards lower addresses. -/
def toInt : Adjustment → Int
  | up distance => distance.toNat
  | down distance => -distance.toNat

/-- The adjustment between two addresses is their difference. -/
lemma toInt_between (origin target : Doubleword) :
    (between origin target).toInt = target.toNat - origin.toNat := by
  unfold between
  split
  · rename_i h
    have hle := UInt64.le_iff_toNat_le.mp h
    rw [toInt, UInt64.toNat_sub_of_le _ _ h]
    omega
  · rename_i h
    have hle := UInt64.le_iff_toNat_le.mp (Std.le_of_not_ge h)
    rw [toInt, UInt64.toNat_sub_of_le _ _ (Std.le_of_not_ge h)]
    omega

/-- Under a mask of `k` bits a value is moved modulo `2 ^ k`. -/
theorem toNat_applyMasked {k : Nat} (hk : k ≤ 64) {mask : Doubleword}
    (hmask : mask.toNat = 2 ^ k - 1) (a : Adjustment) (value : Doubleword) :
    ((a.applyMasked value mask).toNat : Int) = (value.toNat + a.toInt) % 2 ^ k := by
  have hdvd : (2 : Int) ^ k ∣ 2 ^ 64 := pow_dvd_pow 2 hk
  have hand (v : Doubleword) : ((v &&& mask).toNat : Int) = (v.toNat : Int) % 2 ^ k := by
    rw [Doubleword.toNat_and_lowMask hmask]
    push_cast
    rfl
  cases a with
  | up distance =>
    rw [applyMasked, hand, Doubleword.toNat_add_eq_emod, Int.emod_emod_of_dvd _ hdvd, hand,
      Int.emod_add_emod]
    rfl
  | down distance =>
    rw [applyMasked, hand, Doubleword.toNat_sub_eq_emod, Int.emod_emod_of_dvd _ hdvd, hand,
      Int.emod_sub_emod, Int.sub_eq_add_neg]
    rfl

end Adjustment

namespace AddressingMode

/-- The low-order bits of a field of `length` bytes that hold the address. -/
def addressBits : AddressingMode → Nat → Nat
  | bits24, 4 => 24
  | bits31, 4 => 31
  | _, length => 8 * min length 8

/-- The address has room in its field. -/
lemma addressBits_le (mode : AddressingMode) (length : Nat) : mode.addressBits length ≤ 8 * length := by
  unfold addressBits
  split <;> omega

/-- A number of bytes, counted in bits. -/
lemma pow_bytes_eq (length : Nat) : 256 ^ length = 2 ^ (8 * length) := by
  rw [pow_mul]
  norm_num

/-- The field is as large as its address, a whole number of times. -/
lemma two_pow_addressBits_dvd (mode : AddressingMode) (length : Nat) :
    2 ^ mode.addressBits length ∣ 256 ^ length := by
  rw [pow_bytes_eq]
  exact pow_dvd_pow 2 (mode.addressBits_le length)

/-- The `j` bits to the left of the low-order `k` are kept, and these are moved modulo `2 ^ k`. -/
lemma toNat_keep_or_applyMasked {j k : Nat} (hk : k ≤ 64) {high low : Doubleword}
    (hhigh : high.toNat = (2 ^ j - 1) <<< k) (hlow : low.toNat = 2 ^ k - 1) (value : Doubleword)
    (a : Adjustment) :
    (((value &&& high) ||| a.applyMasked value low).toNat : Int) =
      (value.toNat % 2 ^ (k + j) / 2 ^ k * 2 ^ k : Nat) + (value.toNat + a.toInt) % 2 ^ k := by
  have hmoved := a.toNat_applyMasked hk hlow value
  have hlt : (a.applyMasked value low).toNat < 2 ^ k := by
    have hlt := Int.emod_lt_of_pos (value.toNat + a.toInt) (by positivity : (0 : Int) < 2 ^ k)
    rw [← hmoved] at hlt
    exact_mod_cast hlt
  rw [UInt64.toNat_or, Doubleword.toNat_and_highMask hhigh, ← Nat.shiftLeft_add_eq_or_of_lt hlt,
    Nat.shiftLeft_eq, Nat.cast_add, hmoved]

/-- The address in a field is moved modulo the power of two that it has room for, and the bits to
the left of it are kept. -/
theorem toNat_adjust (mode : AddressingMode) (value : Doubleword) (length : Nat) (a : Adjustment) :
    ((mode.adjust value length a).toNat : Int) =
      (value.toNat % 256 ^ length / 2 ^ mode.addressBits length * 2 ^ mode.addressBits length :
        Nat) + (value.toNat + a.toInt) % 2 ^ mode.addressBits length := by
  unfold adjust
  split
  · have hpow : 256 ^ 4 = 2 ^ (24 + 8) := by norm_num
    rw [addressBits, hpow]
    exact toNat_keep_or_applyMasked (by decide) (by decide) (by decide) value a
  · have hpow : 256 ^ 4 = 2 ^ (31 + 1) := by norm_num
    rw [addressBits, hpow]
    exact toNat_keep_or_applyMasked (by decide) (by decide) (by decide) value a
  · rename_i h24 h31
    have hbits : mode.addressBits length = 8 * min length 8 := by
      rw [addressBits]
      · exact h24
      · exact h31
    -- every bit of such a field holds the address, so that none is kept
    have hkept : value.toNat % 256 ^ length / 2 ^ (8 * min length 8) = 0 := by
      apply Nat.div_eq_of_lt
      rcases Nat.le_total length 8 with hlength | hlength
      · rw [Nat.min_eq_left hlength, pow_mul]
        exact Nat.mod_lt _ (by positivity)
      · rw [Nat.min_eq_right hlength]
        exact (Nat.mod_le _ _).trans_lt value.toNat_lt
    rw [hbits, hkept, Nat.zero_mul, Nat.cast_zero, Int.zero_add]
    exact a.toNat_applyMasked (by omega) (Doubleword.toNat_lowMask length) value

/-- Where nothing moves, a value is cut to the width of its field. -/
theorem adjust_of_toInt_eq_zero {a : Adjustment} (h : a.toInt = 0) (mode : AddressingMode)
    (value : Doubleword) (length : Nat) : mode.adjust value length a = value.truncate length := by
  have hmod : value.toNat % 2 ^ mode.addressBits length =
      value.toNat % 256 ^ length % 2 ^ mode.addressBits length :=
    (Nat.mod_mod_of_dvd _ (mode.two_pow_addressBits_dvd length)).symm
  apply UInt64.toNat_inj.mp
  apply Int.natCast_inj.mp
  rw [toNat_adjust, h, Int.add_zero, Doubleword.toNat_truncate]
  norm_cast
  rw [hmod, Nat.div_add_mod']

end AddressingMode

end Relocation
