import Relocation.Proofs.Registers
import Mathlib.Data.Finset.Sort

/-!
# Masks as selections of registers

A mask is made from a list by setting a bit for each register in it, and it is turned into a list
again by taking off its leftmost bit until none is left.  This file says that the first direction
keeps exactly the registers that exist (`RegisterMask.contains_ofList_iff`), and gives the second
one as a loop without a bound on its turns (`RegisterMask.Turn`, `RegisterMask.Drains`).  The loop
comes to its end for every mask, and what it yields is the only ascending list of the registers in
the mask (`RegisterMask.drains_iff`).

The main result is `RegisterMask.enumerates_selection`.
-/

namespace Relocation.RegisterMask

variable {mask rest : RegisterMask} {register other : Nat} {registers : List Nat}

/-! ### Setting bits -/

/-- Setting the bit of a register adds the register. -/
lemma contains_or_bit (bits : UInt16) (h : register < 16) :
    contains ⟨bits ||| bit register⟩ other = true ↔
      contains ⟨bits⟩ other = true ∨ other = register := by
  simp only [contains_iff, UInt16.toNat_or, toNat_bit h, Nat.testBit_or, Nat.testBit_two_pow,
    Bool.or_eq_true, decide_eq_true_eq]
  constructor
  · rintro ⟨hlt, hbit | heq⟩
    · exact Or.inl ⟨hlt, hbit⟩
    · exact Or.inr (by omega)
  · rintro (⟨hlt, hbit⟩ | rfl)
    · exact ⟨hlt, Or.inl hbit⟩
    · exact ⟨h, Or.inr rfl⟩

/-- Setting bits one after the other adds all of the registers to those that were there. -/
lemma contains_foldl_iff (bits : UInt16) (h : ∀ register ∈ registers, register < 16) :
    contains ⟨registers.foldl (fun bits register => bits ||| bit register) bits⟩ other = true ↔
      contains ⟨bits⟩ other = true ∨ other ∈ registers := by
  induction registers generalizing bits with
  | nil => simp
  | cons first registers ih =>
    obtain ⟨hfirst, hrest⟩ := List.forall_mem_cons.mp h
    rw [List.foldl_cons, ih _ hrest, contains_or_bit bits hfirst, List.mem_cons, or_assoc]

/-- The mask of a list contains the registers of the list that exist. -/
theorem contains_ofList_iff :
    (ofList registers).contains register = true ↔ register < 16 ∧ register ∈ registers := by
  have hsmall : ∀ register ∈ registers.filter (· < 16), register < 16 := by
    intro register hregister
    simpa using (List.mem_filter.mp hregister).2
  rw [ofList, contains_foldl_iff 0 hsmall]
  simp [contains, and_comm]

/-! ### Clearing bits -/

/-- The mask without the registers that are never adjusted. -/
def allowed (mask : RegisterMask) : RegisterMask :=
  ⟨mask.bits &&& ~~~reserved⟩

/-- One turn of the loop over a mask: the leftmost bit stands for the register and is cleared. -/
structure Turn (mask : RegisterMask) (register : Nat) (rest : RegisterMask) : Prop where
  selected : mask.contains register = true
  leftmost : ∀ other < register, mask.contains other = false
  cleared : rest.bits = mask.bits &&& ~~~bit register

/-- Turn after turn, until no bit is left, the loop over the mask yields the registers. -/
inductive Drains : RegisterMask → List Nat → Prop
  | done {mask : RegisterMask} (empty : mask.isEmpty = true) : Drains mask []
  | next {mask rest : RegisterMask} {register : Nat} {registers : List Nat}
      (turn : Turn mask register rest) (drains : Drains rest registers) :
      Drains mask (register :: registers)

/-- The registers of a mask are those it contains without the ones that are never adjusted. -/
lemma contains_allowed_iff : mask.allowed.contains register = true ↔ register ∈ mask.registers := by
  rw [contains_iff, registers, mem_scan_iff le_rfl (toNat_allowed_lt mask), allowed]

/-- Clearing the bit of a register takes this register away and no other. -/
lemma contains_of_cleared (hregister : register < 16)
    (h : rest.bits = mask.bits &&& ~~~bit register) :
    rest.contains other = true ↔ mask.contains other = true ∧ other ≠ register := by
  have hnot (i : Nat) : (~~~bit register).toNat.testBit i =
      (decide (i < 16) && !(2 ^ (15 - register)).testBit i) := by
    have hlt : 2 ^ (15 - register) < 2 ^ 16 := Nat.pow_lt_pow_right (by decide) (by omega)
    rw [← Nat.testBit_two_pow_sub_succ hlt, UInt16.toNat_not, toNat_bit hregister]
    congr 1
    simp only [UInt16.size]
    omega
  rw [contains_iff, h, UInt16.toNat_and, Nat.testBit_and, hnot, contains_iff]
  simp only [Nat.testBit_two_pow, Bool.and_eq_true, Bool.not_eq_true', decide_eq_true_eq,
    decide_eq_false_iff_not]
  constructor
  · rintro ⟨hlt, hbit, -, hne⟩
    exact ⟨⟨hlt, hbit⟩, fun heq => hne (by omega)⟩
  · rintro ⟨⟨hlt, hbit⟩, hne⟩
    exact ⟨hlt, hbit, by omega, by omega⟩

/-- A mask without bits contains no register, and it is the only one. -/
lemma isEmpty_iff : mask.isEmpty = true ↔ ∀ register, mask.contains register = false := by
  constructor
  · intro h register
    simp [contains, beq_iff_eq.mp h]
  · intro h
    have hbits : mask.bits.toNat = 0 := by
      apply Nat.eq_of_testBit_eq
      intro i
      rw [Nat.zero_testBit]
      by_cases hi : i < 16
      · have hnone := h (15 - i)
        rw [← Bool.not_eq_true, contains_iff] at hnone
        have hindex : 15 - (15 - i) = i := by omega
        rw [hindex] at hnone
        simpa using fun hbit => hnone ⟨by omega, hbit⟩
      · have hle : 2 ^ 16 ≤ 2 ^ i := Nat.pow_le_pow_right (by decide) (by omega)
        exact Nat.testBit_lt_two_pow (mask.bits.toNat_lt.trans_le hle)
    exact beq_iff_eq.mpr (UInt16.toNat_inj.mp hbits)

/-! ### The loop -/

/-- A turn leaves the registers behind the one it yields. -/
lemma Turn.contains_rest_iff (h : Turn mask register rest) :
    rest.contains other = true ↔ mask.contains other = true ∧ other ≠ register :=
  contains_of_cleared (contains_iff.mp h.selected).1 h.cleared

/-- The loop yields the registers of the mask in ascending order.  What is left after a turn lies
behind the register of that turn. -/
lemma Drains.pairwise_and_mem (h : Drains mask registers) :
    registers.Pairwise (· < ·) ∧
      ∀ register, register ∈ registers ↔ mask.contains register = true := by
  induction h with
  | done empty => simp [isEmpty_iff.mp empty]
  | @next mask rest first registers turn drains ih =>
    obtain ⟨hpairwise, hmem⟩ := ih
    refine ⟨List.Pairwise.cons ?_ hpairwise, ?_⟩
    · intro register hregister
      obtain ⟨hcontains, hne⟩ := turn.contains_rest_iff.mp ((hmem register).mp hregister)
      by_contra hge
      rw [turn.leftmost register (by omega)] at hcontains
      cases hcontains
    · intro register
      rw [List.mem_cons, hmem, turn.contains_rest_iff]
      by_cases heq : register = first
      · simp [heq, turn.selected]
      · simp [heq]

/-- The loop comes to its end for every ascending list of the registers in a mask.  The induction is
on the list: its first register is the one that the next turn yields. -/
lemma drains_of_pairwise (hpairwise : registers.Pairwise (· < ·))
    (hmem : ∀ register, register ∈ registers ↔ mask.contains register = true) :
    Drains mask registers := by
  induction registers generalizing mask with
  | nil => exact Drains.done (isEmpty_iff.mpr (by simpa using hmem))
  | cons first registers ih =>
    obtain ⟨hfirst, hpairwise⟩ := List.pairwise_cons.mp hpairwise
    have hturn : Turn mask first ⟨mask.bits &&& ~~~bit first⟩ := by
      refine ⟨(hmem first).mp List.mem_cons_self, ?_, rfl⟩
      intro other hother
      by_contra hcontains
      rw [Bool.not_eq_false, ← hmem, List.mem_cons] at hcontains
      rcases hcontains with rfl | hlater
      · omega
      · have hlt := hfirst other hlater
        omega
    refine Drains.next hturn (ih hpairwise ?_)
    intro register
    rw [hturn.contains_rest_iff, ← hmem, List.mem_cons]
    constructor
    · intro hlater
      exact ⟨Or.inr hlater, (hfirst register hlater).ne'⟩
    · rintro ⟨heq | hlater, hne⟩
      · exact absurd heq hne
      · exact hlater

/-- The loop over a mask yields the ascending list of its registers, and nothing else. -/
theorem drains_iff : Drains mask registers ↔ registers.Pairwise (· < ·) ∧
    ∀ register, register ∈ registers ↔ mask.contains register = true :=
  ⟨Drains.pairwise_and_mem, fun h => drains_of_pairwise h.1 h.2⟩

/-- The registers of a mask are what the loop over its allowed registers yields. -/
lemma drains_allowed_iff : Drains mask.allowed registers ↔ registers = mask.registers := by
  rw [drains_iff]
  simp only [contains_allowed_iff]
  constructor
  · rintro ⟨hpairwise, hmem⟩
    exact hpairwise.eq_of_mem_iff mask.pairwise_registers hmem
  · rintro rfl
    exact ⟨mask.pairwise_registers, fun _ => Iff.rfl⟩

/-- The mask of a list contains exactly the registers below sixteen that occur in the list.  The
loop over a mask ends, and yields, in ascending order and each of them once, the registers from 1 to
14 that the mask contains.  So a list goes through its mask into the sorted list of its members from
1 to 14. -/
theorem enumerates_selection :
    (∀ registers register, (ofList registers).contains register = true ↔
      register < 16 ∧ register ∈ registers) ∧
    (∀ mask : RegisterMask,
      (∀ registers, Drains mask.allowed registers ↔ registers = mask.registers) ∧
      mask.registers.Pairwise (· < ·) ∧
      ∀ register, register ∈ mask.registers ↔
        1 ≤ register ∧ register ≤ 14 ∧ mask.contains register = true) ∧
    ∀ registers, (ofList registers).registers =
      (registers.toFinset.filter fun register => 1 ≤ register ∧ register ≤ 14).sort := by
  refine ⟨fun registers register => contains_ofList_iff, fun mask => ?_, fun registers => ?_⟩
  · exact ⟨fun registers => drains_allowed_iff, mask.pairwise_registers,
      fun register => mem_registers_iff⟩
  · apply (ofList registers).pairwise_registers.eq_of_mem_iff (Finset.sortedLT_sort _).pairwise
    intro register
    rw [mem_registers_iff, contains_ofList_iff, Finset.mem_sort, Finset.mem_filter,
      List.mem_toFinset]
    constructor
    · rintro ⟨hone, hle, -, hmem⟩
      exact ⟨hmem, hone, hle⟩
    · rintro ⟨hmem, hone, hle⟩
      exact ⟨hone, hle, by omega, hmem⟩

end Relocation.RegisterMask
