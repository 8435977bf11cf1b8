import Relocation.Proofs.AddressArithmetic

/-!
# Moving addresses

The address in a field moves by a whole number of bytes, and the definition gets there by masks and
by sums that wrap around.  `AddressingMode.IsMoved` says what comes out without any of these: the
address bits are the sum modulo a power of two, the bits to the left of them are as before, and
nothing stands to the left of the field.  These three conditions leave one number
(`AddressingMode.toNat_adjust_eq_iff`).

It follows that only the distance modulo `2 ^ 64` counts, so that a move upwards is as good as the
move downwards that goes around the other way (`AddressingMode.adjust_congr`), and that moves add up
(`AddressingMode.adjust_adjust`).  The main results are `AddressingMode.adjust_between_iff` and
`AddressingMode.adjust_composes`.
-/

namespace Relocation

/-- A number of `n` bits and another one have the same quotient by `2 ^ k`, the latter without its
higher bits, exactly when the bits from `k` to `n` are the same. -/
lemma div_two_pow_eq_iff_testBit {a n : Nat} (ha : a < 2 ^ n) (b k : Nat) :
    a / 2 ^ k = b % 2 ^ n / 2 ^ k ↔ ∀ i, k ≤ i → i < n → a.testBit i = b.testBit i := by
  constructor
  · intro h i hk hn
    have hbit := congrArg (fun quotient => quotient.testBit (i - k)) h
    simpa [Nat.testBit_div_two_pow, Nat.testBit_mod_two_pow, Nat.sub_add_cancel hk, hn] using hbit
  · intro h
    apply Nat.eq_of_testBit_eq
    intro i
    rw [Nat.testBit_div_two_pow, Nat.testBit_div_two_pow, Nat.testBit_mod_two_pow]
    by_cases hi : i + k < n
    · simp [hi, h (i + k) (Nat.le_add_left k i) hi]
    · have hnone : a.testBit (i + k) = false :=
        Nat.testBit_lt_two_pow (ha.trans_le (Nat.pow_le_pow_right (by decide) (Nat.not_lt.mp hi)))
      simp [hi, hnone]

namespace AddressingMode

/-- The number `moved` is `value`, held in a field of `length` bytes, with its address moved by the
distance. -/
structure IsMoved (mode : AddressingMode) (length value : Nat) (distance : Int) (moved : Nat) :
    Prop where
  /-- It has room in the field. -/
  lt : moved < 256 ^ length
  /-- The address bits are the sum, wrapping around among themselves. -/
  address : (moved : Int) % 2 ^ mode.addressBits length =
    ((value : Int) % 2 ^ mode.addressBits length + distance) % 2 ^ mode.addressBits length
  /-- The bits to the left of the address are as before. -/
  control : ∀ i, mode.addressBits length ≤ i → i < 8 * length →
    moved.testBit i = value.testBit i

section Moves

variable {mode : AddressingMode} {value : Doubleword} {length : Nat} {a a' a'' : Adjustment}

/-- An address has at most 64 bits. -/
lemma addressBits_le_sixtyFour (mode : AddressingMode) (length : Nat) :
    mode.addressBits length ≤ 64 := by
  unfold addressBits
  split <;> omega

/-- The address that was moved stands below what is kept of the field. -/
lemma exists_toNat_adjust (mode : AddressingMode) (value : Doubleword) (length : Nat)
    (a : Adjustment) :
    ∃ address : Nat, address < 2 ^ mode.addressBits length ∧
      (address : Int) = (value.toNat + a.toInt) % 2 ^ mode.addressBits length ∧
      (mode.adjust value length a).toNat =
        value.toNat % 256 ^ length / 2 ^ mode.addressBits length * 2 ^ mode.addressBits length +
          address := by
  have hpos : (0 : Int) < 2 ^ mode.addressBits length := by positivity
  obtain ⟨address, haddress⟩ := Int.eq_ofNat_of_zero_le
    (Int.emod_nonneg (value.toNat + a.toInt) hpos.ne')
  have hlt := Int.emod_lt_of_pos (value.toNat + a.toInt) hpos
  have hsum := mode.toNat_adjust value length a
  rw [haddress] at hlt hsum
  exact ⟨address, by exact_mod_cast hlt, haddress.symm, by exact_mod_cast hsum⟩

/-- What comes out is moved. -/
theorem isMoved_adjust (mode : AddressingMode) (value : Doubleword) (length : Nat)
    (a : Adjustment) :
    mode.IsMoved length value.toNat a.toInt (mode.adjust value length a).toNat := by
  obtain ⟨address, hlt, haddress, hsum⟩ := exists_toNat_adjust mode value length a
  have hpos : 0 < 2 ^ mode.addressBits length := by positivity
  have hdiv : (mode.adjust value length a).toNat / 2 ^ mode.addressBits length =
      value.toNat % 256 ^ length / 2 ^ mode.addressBits length := by
    rw [hsum, Nat.mul_comm, Nat.mul_add_div hpos, Nat.div_eq_of_lt hlt, Nat.add_zero]
  have hmod : (mode.adjust value length a).toNat % 2 ^ mode.addressBits length = address := by
    rw [hsum, Nat.mul_comm, Nat.mul_add_mod, Nat.mod_eq_of_lt hlt]
  have hroom : (mode.adjust value length a).toNat < 256 ^ length := by
    apply Nat.lt_of_div_lt_div
    rw [hdiv]
    exact Nat.div_lt_div_of_lt_of_dvd (mode.two_pow_addressBits_dvd length)
      (Nat.mod_lt _ (by positivity))
  refine ⟨hroom, ?_, ?_⟩
  · rw [Int.emod_add_emod, ← haddress, ← hmod]
    push_cast
    rfl
  · rw [pow_bytes_eq] at hroom hdiv
    exact (div_two_pow_eq_iff_testBit hroom _ _).mp hdiv

/-- Nothing else is moved. -/
lemma IsMoved.unique {length value moved moved' : Nat} {distance : Int}
    (h : mode.IsMoved length value distance moved)
    (h' : mode.IsMoved length value distance moved') : moved = moved' := by
  have hlt := h.lt
  have hlt' := h'.lt
  rw [pow_bytes_eq] at hlt hlt'
  have hdiv : moved / 2 ^ mode.addressBits length = moved' / 2 ^ mode.addressBits length :=
    ((div_two_pow_eq_iff_testBit hlt _ _).mpr h.control).trans
      ((div_two_pow_eq_iff_testBit hlt' _ _).mpr h'.control).symm
  have hmod : moved % 2 ^ mode.addressBits length = moved' % 2 ^ mode.addressBits length := by
    have haddress := h.address.trans h'.address.symm
    exact_mod_cast haddress
  rw [← Nat.div_add_mod moved (2 ^ mode.addressBits length), hdiv, hmod, Nat.div_add_mod]

/-- What comes out is the one number that is moved. -/
theorem toNat_adjust_eq_iff {moved : Nat} :
    (mode.adjust value length a).toNat = moved ↔
      mode.IsMoved length value.toNat a.toInt moved := by
  constructor
  · rintro rfl
    exact isMoved_adjust mode value length a
  · intro h
    exact (isMoved_adjust mode value length a).unique h

/-- A distance counts modulo `2 ^ 64` only. -/
lemma IsMoved.congr {length value moved : Nat} {distance distance' : Int}
    (h : mode.IsMoved length value distance moved) (hmod : distance ≡ distance' [ZMOD 2 ^ 64]) :
    mode.IsMoved length value distance' moved := by
  have hdvd : (2 : Int) ^ mode.addressBits length ∣ 2 ^ 64 :=
    pow_dvd_pow 2 (mode.addressBits_le_sixtyFour length)
  refine ⟨h.lt, ?_, h.control⟩
  rw [h.address]
  exact (hmod.of_dvd hdvd).add_left _

/-- Moved twice is moved by the sum of the distances. -/
lemma IsMoved.trans {length value middle moved : Nat} {distance distance' : Int}
    (h : mode.IsMoved length value distance middle)
    (h' : mode.IsMoved length middle distance' moved) :
    mode.IsMoved length value (distance + distance') moved := by
  refine ⟨h'.lt, ?_, ?_⟩
  · rw [h'.address, h.address, Int.emod_add_emod, Int.add_assoc]
  · intro i hbits hlength
    rw [h'.control i hbits hlength, h.control i hbits hlength]

/-- Adjustments that differ by a multiple of `2 ^ 64` do the same. -/
theorem adjust_congr (h : a.toInt ≡ a'.toInt [ZMOD 2 ^ 64]) :
    mode.adjust value length a = mode.adjust value length a' := by
  apply UInt64.toNat_inj.mp
  rw [toNat_adjust_eq_iff]
  exact (isMoved_adjust mode value length a').congr h.symm

/-- One adjustment after another does what their sum does. -/
theorem adjust_adjust (h : a.toInt + a'.toInt ≡ a''.toInt [ZMOD 2 ^ 64]) :
    mode.adjust (mode.adjust value length a) length a' = mode.adjust value length a'' := by
  symm
  apply UInt64.toNat_inj.mp
  rw [toNat_adjust_eq_iff]
  have hfirst := isMoved_adjust mode value length a
  have hsecond := isMoved_adjust mode (mode.adjust value length a) length a'
  exact (hfirst.trans hsecond).congr h

end Moves

/-! ### Moves between two addresses -/

section Between

variable (mode : AddressingMode) (value origin middle target : Doubleword) (length : Nat)

/-- The way up from one address to another, around the top of storage if need be. -/
lemma toInt_up_modEq (origin target : Doubleword) :
    (Adjustment.up (target - origin)).toInt ≡ (Adjustment.between origin target).toInt
      [ZMOD 2 ^ 64] := by
  rw [Adjustment.toInt, Adjustment.toInt_between, Doubleword.toNat_sub_eq_emod]
  exact Int.mod_modEq _ _

/-- The way down from one address to another, around address zero if need be. -/
lemma toInt_down_modEq (origin target : Doubleword) :
    (Adjustment.down (origin - target)).toInt ≡ (Adjustment.between origin target).toInt
      [ZMOD 2 ^ 64] := by
  rw [Adjustment.toInt, Adjustment.toInt_between, Doubleword.toNat_sub_eq_emod,
    ← Int.neg_sub (origin.toNat : Int) target.toNat]
  exact (Int.mod_modEq _ _).neg

/-- A value whose address is moved from one place to another is the one number that has room in the
field, whose address bits are those of the value plus the distance, over the integers and modulo the
power of two that they have room for, and whose other bits are those of the value.  The way up and
the way down lead to the same number. -/
theorem adjust_between_iff :
    (∀ moved, (mode.adjust value length (.between origin target)).toNat = moved ↔
      mode.IsMoved length value.toNat (target.toNat - origin.toNat) moved) ∧
    mode.adjust value length (.up (target - origin)) =
      mode.adjust value length (.between origin target) ∧
    mode.adjust value length (.down (origin - target)) =
      mode.adjust value length (.between origin target) := by
  refine ⟨?_, adjust_congr (toInt_up_modEq origin target),
    adjust_congr (toInt_down_modEq origin target)⟩
  intro moved
  rw [toNat_adjust_eq_iff, Adjustment.toInt_between]

-- the address wraps around below the mode bit, which stays set
example : bits31.adjust 0xFFFFF000 4 (.between 0x1000 0x3000) = 0x80001000 := by decide

/-- Moving from one place to a second and on to a third is moving from the first to the third.  There
and back again nothing has moved, and where nothing moves exactly the values with room in the field
stay as they are. -/
theorem adjust_composes :
    mode.adjust (mode.adjust value length (.between origin middle)) length
        (.between middle target) = mode.adjust value length (.between origin target) ∧
    mode.adjust (mode.adjust value length (.between origin middle)) length
        (.between middle origin) = mode.adjust value length (.between origin origin) ∧
    (mode.adjust value length (.between origin origin) = value ↔ value.toNat < 256 ^ length) := by
  have hstep (target : Doubleword) :
      mode.adjust (mode.adjust value length (.between origin middle)) length
        (.between middle target) = mode.adjust value length (.between origin target) := by
    apply adjust_adjust
    rw [Adjustment.toInt_between, Adjustment.toInt_between, Adjustment.toInt_between,
      add_comm, sub_add_sub_cancel]
  have hnull : (Adjustment.between origin origin).toInt = 0 := by
    rw [Adjustment.toInt_between, Int.sub_self]
  refine ⟨hstep target, hstep origin, ?_⟩
  rw [adjust_of_toInt_eq_zero hnull]
  exact Doubleword.truncate_eq_self_iff

end Between

end AddressingMode

end Relocation
