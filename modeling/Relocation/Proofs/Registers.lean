import Relocation.Proofs.Relocate
import Mathlib.Data.Nat.Bitwise

/-!
# Registers that a mask selects

The registers of a mask are enumerated by taking off its leftmost bit again and again.  This file
says which registers come out (`RegisterMask.mem_registers_iff`) and that they come out in ascending
order (`RegisterMask.pairwise_registers`), so that a relocation adjusts each of them once.
`getElem_adjustSelected` is the save area after that: the selected registers are adjusted and all
others are as before.
-/

namespace Relocation

namespace RegisterMask

/-! ### Taking off the leftmost bit -/

section Scanning

variable {count bits register : Nat}

/-- Without its leftmost bit a number lies below that bit. -/
lemma sub_leftmost_lt (bits : Nat) : bits - 1 <<< bits.log2 < 2 ^ bits.log2 := by
  have hlt : bits < 2 ^ (bits.log2 + 1) := Nat.lt_log2_self
  rw [pow_succ] at hlt
  rw [Nat.one_shiftLeft]
  omega

/-- The bits of a number are its leftmost bit and those that are left without it. -/
lemma testBit_iff_leftmost (h : bits ≠ 0) (i : Nat) :
    bits.testBit i = true ↔ i = bits.log2 ∨ (bits - 1 <<< bits.log2).testBit i = true := by
  have hrest := sub_leftmost_lt bits
  have hsum : bits = 2 ^ bits.log2 + (bits - 1 <<< bits.log2) := by
    have hle := Nat.log2_self_le h
    rw [Nat.one_shiftLeft]
    omega
  have hlow : (bits - 1 <<< bits.log2).testBit bits.log2 = false := Nat.testBit_lt_two_pow hrest
  rcases Nat.lt_trichotomy i bits.log2 with hi | rfl | hi
  · have hbit : bits.testBit i = (bits - 1 <<< bits.log2).testBit i := by
      conv_lhs => rw [hsum]
      exact Nat.testBit_two_pow_add_gt hi _
    simp [hbit, hi.ne]
  · simp [Nat.testBit_log2 h]
  · have hpow : 2 ^ (bits.log2 + 1) ≤ 2 ^ i := Nat.pow_le_pow_right (by decide) hi
    have hnone : bits.testBit i = false := Nat.testBit_lt_two_pow (Nat.lt_log2_self.trans_le hpow)
    have hnone' : (bits - 1 <<< bits.log2).testBit i = false := by
      apply Nat.testBit_lt_two_pow
      rw [pow_succ] at hpow
      omega
    simp [hnone, hnone', hi.ne']

/-- A scan yields the registers whose bits are set.  The induction is on the number of bits looked
at: what is left without the leftmost bit lies below it. -/
lemma mem_scan_iff (hcount : count ≤ 16) (hbits : bits < 2 ^ count) :
    register ∈ scan count bits ↔ register < 16 ∧ bits.testBit (15 - register) = true := by
  induction count generalizing bits with
  | zero =>
    have hzero : bits = 0 := by simpa using hbits
    simp [scan, hzero]
  | succ count ih =>
    by_cases h : bits = 0
    · simp [scan, h]
    · have hlog : bits.log2 < count + 1 := (Nat.log2_lt h).mpr hbits
      have hrest : bits - 1 <<< bits.log2 < 2 ^ count :=
        (sub_leftmost_lt bits).trans_le (Nat.pow_le_pow_right (by decide) (by omega))
      rw [scan, if_neg h, List.mem_cons, ih (by omega) hrest, testBit_iff_leftmost h]
      constructor
      · rintro (rfl | ⟨hlt, hbit⟩)
        · exact ⟨by omega, Or.inl (by omega)⟩
        · exact ⟨hlt, Or.inr hbit⟩
      · rintro ⟨hlt, heq | hbit⟩
        · exact Or.inl (by omega)
        · exact Or.inr ⟨hlt, hbit⟩

/-- A scan yields registers in ascending order. -/
lemma pairwise_scan (hcount : count ≤ 16) (hbits : bits < 2 ^ count) :
    (scan count bits).Pairwise (· < ·) := by
  induction count generalizing bits with
  | zero => exact List.Pairwise.nil
  | succ count ih =>
    by_cases h : bits = 0
    · simp [scan, h]
    · have hlog : bits.log2 < count + 1 := (Nat.log2_lt h).mpr hbits
      have hlt := sub_leftmost_lt bits
      have hrest : bits - 1 <<< bits.log2 < 2 ^ count :=
        hlt.trans_le (Nat.pow_le_pow_right (by decide) (by omega))
      rw [scan, if_neg h]
      refine List.Pairwise.cons ?_ (ih (by omega) hrest)
      intro register hregister
      obtain ⟨hsmall, hbit⟩ := (mem_scan_iff (by omega) hrest).mp hregister
      -- a bit of the rest stands to the right of the leftmost one
      have hright : 15 - register < bits.log2 := by
        by_contra hge
        have hpow : 2 ^ bits.log2 ≤ 2 ^ (15 - register) :=
          Nat.pow_le_pow_right (by decide) (by omega)
        rw [Nat.testBit_lt_two_pow (hlt.trans_le hpow)] at hbit
        cases hbit
      omega

end Scanning

/-! ### The registers of a mask -/

variable {mask : RegisterMask} {register : Nat}

/-- The bit of a register, as a number. -/
lemma toNat_bit (h : register < 16) : (bit register).toNat = 2 ^ (15 - register) := by
  have hle : 2 ^ (15 - register) ≤ 2 ^ 15 := Nat.pow_le_pow_right (by decide) (by omega)
  rw [bit, Nat.one_shiftLeft]
  exact UInt16.toNat_ofNat_of_lt' (by simp only [UInt16.size]; omega)

/-- A mask contains a register when its bit is set. -/
lemma contains_iff : mask.contains register = true ↔
    register < 16 ∧ mask.bits.toNat.testBit (15 - register) = true := by
  simp only [contains, Bool.and_eq_true, decide_eq_true_eq, bne_iff_ne, ne_eq]
  refine and_congr_right fun h => ?_
  rw [← UInt16.toNat_inj, UInt16.toNat_and, toNat_bit h, Nat.and_two_pow]
  cases mask.bits.toNat.testBit (15 - register) <;> simp

/-- The bits of a mask without those of the registers that are never adjusted. -/
lemma testBit_allowed (mask : RegisterMask) (i : Nat) :
    (mask.bits &&& ~~~reserved).toNat.testBit i = true ↔
      1 ≤ i ∧ i ≤ 14 ∧ mask.bits.toNat.testBit i = true := by
  have hreserved : (~~~reserved).toNat = (2 ^ 14 - 1) <<< 1 := by decide
  rw [UInt16.toNat_and, hreserved, Nat.testBit_and, Nat.testBit_shiftLeft,
    Nat.testBit_two_pow_sub_one]
  simp only [Bool.and_eq_true, decide_eq_true_eq]
  constructor
  · rintro ⟨hbit, hone, hlt⟩
    exact ⟨hone, by omega, hbit⟩
  · rintro ⟨hone, hle, hbit⟩
    exact ⟨hbit, hone, by omega⟩

/-- The bits of a mask are sixteen. -/
lemma toNat_allowed_lt (mask : RegisterMask) : (mask.bits &&& ~~~reserved).toNat < 2 ^ 16 :=
  (mask.bits &&& ~~~reserved).toNat_lt

/-- The registers that a mask yields are those it contains, except the first and the last. -/
theorem mem_registers_iff : register ∈ mask.registers ↔
    1 ≤ register ∧ register ≤ 14 ∧ mask.contains register = true := by
  rw [registers, mem_scan_iff le_rfl (toNat_allowed_lt mask), testBit_allowed, contains_iff]
  constructor
  · rintro ⟨hlt, hone, hle, hbit⟩
    exact ⟨by omega, by omega, hlt, hbit⟩
  · rintro ⟨hone, hle, hlt, hbit⟩
    exact ⟨hlt, by omega, by omega, hbit⟩

/-- A mask yields its registers in ascending order, each of them once. -/
theorem pairwise_registers (mask : RegisterMask) : mask.registers.Pairwise (· < ·) :=
  pairwise_scan le_rfl (toNat_allowed_lt mask)

end RegisterMask

/-! ### The save area -/

namespace SaveArea

variable {area area' : SaveArea} {register : Nat} {value : Doubleword}

/-- What was read is the contents of a register that exists. -/
lemma get_eq_ok (h : area.get register = .ok value) :
    ∃ _ : register < 16, value = area.words[register] := by
  unfold get at h
  split at h
  · rename_i hregister
    cases h
    exact ⟨hregister, rfl⟩
  · cases h

/-- Setting a register changes it and no other. -/
lemma getElem_of_set (h : area.set register value = .ok area') (i : Nat) (hi : i < 16) :
    area'.words[i] = if i = register then value else area.words[i] := by
  unfold set at h
  split at h
  · cases h
    rw [Vector.getElem_set]
    simp only [eq_comm]
  · cases h

end SaveArea

/-! ### Adjusted registers -/

/-- A relocation with this mask adjusts the register. -/
def Selects (mask : Option RegisterMask) (register : Nat) : Prop :=
  1 ≤ register ∧ register ≤ 14 ∧ mask.any (·.contains register) = true

instance (mask : Option RegisterMask) (register : Nat) : Decidable (Selects mask register) :=
  inferInstanceAs (Decidable (_ ∧ _ ∧ _))

/-- The selected registers are those of the mask. -/
lemma mem_selectedRegisters_iff {mask : Option RegisterMask} {register : Nat} :
    register ∈ selectedRegisters mask ↔ Selects mask register := by
  cases mask with
  | none => simp [selectedRegisters, Selects]
  | some mask => exact RegisterMask.mem_registers_iff

/-- No register is selected twice. -/
lemma nodup_selectedRegisters (mask : Option RegisterMask) : (selectedRegisters mask).Nodup := by
  cases mask with
  | none => exact List.nodup_nil
  | some mask => exact mask.pairwise_registers.imp Nat.ne_of_lt

section Adjusting

variable {mode : AddressingMode} {width : Nat} {a : Adjustment}

/-- Every register that is adjusted is reported. -/
lemma length_adjustRegisters {registers : List Nat} {area area' : SaveArea}
    {changes : List RegisterChange}
    (h : adjustRegisters mode width a registers area = .ok (changes, area')) :
    changes.length = registers.length := by
  induction registers generalizing area changes with
  | nil =>
    cases h
    rfl
  | cons first rest ih =>
    obtain ⟨before, -, h⟩ := Checked.bind_eq_ok_iff.mp h
    obtain ⟨area₁, -, h⟩ := Checked.bind_eq_ok_iff.mp h
    obtain ⟨⟨changes', area₂⟩, hrest, h⟩ := Checked.bind_eq_ok_iff.mp h
    cases h
    rw [List.length_cons, List.length_cons, ih hrest]

/-- Registers that are adjusted one after the other, none of them twice, are each adjusted once, and
all others stay as they are. -/
lemma getElem_adjustRegisters {registers : List Nat} (hnodup : registers.Nodup)
    {area area' : SaveArea} {changes : List RegisterChange}
    (h : adjustRegisters mode width a registers area = .ok (changes, area')) (register : Nat)
    (hregister : register < 16) :
    area'.words[register] =
      if register ∈ registers then mode.adjust area.words[register] width a
      else area.words[register] := by
  induction registers generalizing area changes with
  | nil =>
    cases h
    simp
  | cons first rest ih =>
    obtain ⟨hfresh, hnodup⟩ := List.nodup_cons.mp hnodup
    obtain ⟨before, hbefore, h⟩ := Checked.bind_eq_ok_iff.mp h
    obtain ⟨area₁, hset, h⟩ := Checked.bind_eq_ok_iff.mp h
    obtain ⟨⟨changes', area₂⟩, hrest, h⟩ := Checked.bind_eq_ok_iff.mp h
    cases h
    obtain ⟨hfirst, rfl⟩ := SaveArea.get_eq_ok hbefore
    rw [ih hnodup hrest, SaveArea.getElem_of_set hset register hregister]
    by_cases heq : register = first
    · subst heq
      rw [if_neg hfresh, if_pos rfl, if_pos List.mem_cons_self]
    · simp only [heq, if_false, List.mem_cons, false_or]

/-- After a relocation the selected registers are adjusted and all others are as before. -/
theorem getElem_adjustSelected {mask : Option RegisterMask} {area area' : SaveArea}
    {changes : List RegisterChange}
    (h : adjustRegisters mode width a (selectedRegisters mask) area = .ok (changes, area'))
    (register : Nat) (hregister : register < 16) :
    area'.words[register] =
      if Selects mask register then mode.adjust area.words[register] width a
      else area.words[register] := by
  rw [getElem_adjustRegisters (nodup_selectedRegisters mask) h register hregister]
  simp only [mem_selectedRegisters_iff]

end Adjusting

end Relocation
