import Mathlib.Algebra.Order.Ring.Nat

/-! # Masks of prefixes

The mask of a prefix of a number has ones down to some bit. Two numbers agree under it
if they agree in their prefixes.
-/

namespace Dragonflow

/-- Ones at the top of a number of some width, and zeros below a bit. -/
def prefixMask (width low : Nat) : Nat := 2 ^ width - 2 ^ low

namespace PrefixMask

variable {width low finer number other : Nat}

/-- A mask clears the bits below its prefix. -/
theorem and_mask (inRange : number < 2 ^ width) (fits : low ≤ width) :
    number &&& prefixMask width low = number / 2 ^ low * 2 ^ low := by
  have powers : 2 ^ width = 2 ^ (width - low) * 2 ^ low := by
    rw [← pow_add, Nat.sub_add_cancel fits]
  have isShifted : prefixMask width low = (2 ^ (width - low) - 1) <<< low := by
    rw [Nat.shiftLeft_eq, Nat.sub_mul, one_mul, ← powers]
    rfl
  have small : number >>> low < 2 ^ (width - low) := by
    rw [Nat.shiftRight_eq_div_pow]
    apply Nat.div_lt_of_lt_mul
    rw [mul_comm, ← powers]
    exact inRange
  have lowered : number &&& prefixMask width low =
      (number >>> low &&& (2 ^ (width - low) - 1)) <<< low := by
    rw [isShifted]
    apply Nat.eq_of_testBit_eq
    intro index
    simp only [Nat.testBit_and, Nat.testBit_shiftLeft, Nat.testBit_shiftRight]
    by_cases above : low ≤ index
    · simp only [above, decide_true, Bool.true_and, Nat.add_sub_cancel']
    · simp only [above, decide_false, Bool.false_and, Bool.and_false]
  rw [lowered, Nat.and_two_pow_sub_one_eq_mod, Nat.mod_eq_of_lt small,
    Nat.shiftRight_eq_div_pow, Nat.shiftLeft_eq]

theorem and_mask_eq_iff (inRange : number < 2 ^ width) (otherInRange : other < 2 ^ width)
    (fits : low ≤ width) :
    number &&& prefixMask width low = other &&& prefixMask width low ↔
      number / 2 ^ low = other / 2 ^ low := by
  rw [and_mask inRange fits, and_mask otherInRange fits]
  exact Nat.mul_left_inj (Nat.two_pow_pos low).ne'

/-- A mask has the ones of another one exactly if its prefix is at least as long. -/
theorem mask_and_mask_iff (fits : low ≤ width) (finerFits : finer ≤ width) :
    prefixMask width finer &&& prefixMask width low = prefixMask width low ↔
      finer ≤ low := by
  have inRange : prefixMask width finer < 2 ^ width :=
    Nat.sub_lt (Nat.two_pow_pos width) (Nat.two_pow_pos finer)
  have lowFits : 2 ^ low ≤ 2 ^ width := Nat.pow_le_pow_right (by omega) fits
  have finerPower : 2 ^ finer ≤ 2 ^ width := Nat.pow_le_pow_right (by omega) finerFits
  rw [and_mask inRange fits]
  unfold prefixMask at inRange ⊢
  constructor
  · intro same
    by_contra longer
    have atMost : 2 ^ (low + 1) ≤ 2 ^ finer := Nat.pow_le_pow_right (by omega) (by omega)
    have lost := Nat.div_mul_le_self (2 ^ width - 2 ^ finer) (2 ^ low)
    have positive := Nat.two_pow_pos low
    rw [same] at lost
    rw [pow_succ] at atMost
    omega
  · intro shorter
    have powers : 2 ^ width = 2 ^ (width - low) * 2 ^ low := by
      rw [← pow_add, Nat.sub_add_cancel fits]
    have atMost : 2 ^ finer ≤ 2 ^ low := Nat.pow_le_pow_right (by omega) shorter
    have positive := Nat.two_pow_pos finer
    have quotient : (2 ^ width - 2 ^ finer) / 2 ^ low = 2 ^ (width - low) - 1 := by
      apply Nat.div_eq_of_lt_le
      · rw [Nat.sub_mul, one_mul, ← powers]
        omega
      · rw [Nat.sub_add_cancel (Nat.two_pow_pos _), ← powers]
        omega
    rw [quotient, Nat.sub_mul, one_mul, ← powers]

end PrefixMask

end Dragonflow
