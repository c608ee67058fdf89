import Mathlib.Algebra.Order.Field.Power
import Mathlib.Data.Int.Log
import Mathlib.Data.Rat.Floor
import Mathlib.Tactic.Linarith
import Mathlib.Tactic.NormNum
import Mathlib.Tactic.Positivity
import Mathlib.Tactic.Ring

/-!
# Rounding to binary64

`Binary64.round` is the number of the format that is nearest to a rational, and of two such numbers
the one with the even significand. The significand has 53 bits, and no last bit counts less than
`2 ^ -1074`; a number that is too large for the format is for the user to refuse. The error of a
normal number is at most `2 ^ -53` of it (`abs_round_sub_le`), so numbers that are further apart are
rounded apart (`round_lt_round`).
-/

namespace Lib.Binary64

/-! ## To an integer -/

/-- The nearest integer, and of two the even one. -/
def nearestEven (x : ℚ) : ℤ :=
  if Int.fract x < 1 / 2 then ⌊x⌋
  else if 1 / 2 < Int.fract x then ⌊x⌋ + 1
  else if Even ⌊x⌋ then ⌊x⌋ else ⌊x⌋ + 1

variable {x y : ℚ} {n : ℤ}

theorem abs_nearestEven_sub_le (x : ℚ) : |(nearestEven x : ℚ) - x| ≤ 1 / 2 := by
  have hparts := Int.floor_add_fract x
  have hnonneg := Int.fract_nonneg x
  have hlt := Int.fract_lt_one x
  unfold nearestEven
  rw [abs_le]
  split_ifs <;> push_cast <;> constructor <;> linarith

theorem floor_le_nearestEven (x : ℚ) : ⌊x⌋ ≤ nearestEven x := by
  unfold nearestEven
  split_ifs <;> omega

theorem le_nearestEven (h : (n : ℚ) ≤ x) : n ≤ nearestEven x :=
  (Int.le_floor.2 h).trans (floor_le_nearestEven x)

/-! ## To the format -/

/-- What the last bit of a number of this size counts, as an exponent of 2. -/
def lastBit (x : ℚ) : ℤ := max (Int.log 2 |x| - 52) (-1074)

def round (x : ℚ) : ℚ := nearestEven (x / 2 ^ lastBit x) * 2 ^ lastBit x

/-- Not too small for a significand of 53 bits. -/
def Normal (x : ℚ) : Prop := (2 : ℚ) ^ (-1022 : ℤ) ≤ |x|

theorem lastBit_pos (x : ℚ) : (0 : ℚ) < 2 ^ lastBit x := by positivity

theorem Normal.pos (h : Normal x) : 0 < |x| := lt_of_lt_of_le (by positivity) h

/-- The last of 53 bits counts at most `2 ^ -52` of the number. -/
theorem Normal.lastBit_le (h : Normal x) : (2 : ℚ) ^ lastBit x ≤ |x| * 2 ^ (-52 : ℤ) := by
  have hlog : -1022 ≤ Int.log 2 |x| := (Int.zpow_le_iff_le_log Nat.one_lt_two h.pos).1 h
  have hlast : lastBit x = Int.log 2 |x| + -52 := by
    unfold lastBit
    omega
  rw [hlast, zpow_add₀ two_ne_zero]
  exact mul_le_mul_of_nonneg_right (Int.zpow_log_le_self Nat.one_lt_two h.pos) (by positivity)

/-- The error is at most half of the last bit. -/
theorem abs_round_sub_le_half (x : ℚ) : |round x - x| ≤ 1 / 2 * 2 ^ lastBit x := by
  have hscaled : round x - x = (nearestEven (x / 2 ^ lastBit x) - x / 2 ^ lastBit x) *
      2 ^ lastBit x := by
    rw [sub_mul, div_mul_cancel₀ _ (lastBit_pos x).ne']
    rfl
  rw [hscaled, abs_mul, abs_of_pos (lastBit_pos x)]
  exact mul_le_mul_of_nonneg_right (abs_nearestEven_sub_le _) (lastBit_pos x).le

/-- **The error of a normal number** is at most `2 ^ -53` of it. -/
theorem abs_round_sub_le (h : Normal x) : |round x - x| ≤ |x| * 2 ^ (-53 : ℤ) := by
  calc |round x - x| ≤ 1 / 2 * 2 ^ lastBit x := abs_round_sub_le_half x
    _ ≤ 1 / 2 * (|x| * 2 ^ (-52 : ℤ)) := mul_le_mul_of_nonneg_left h.lastBit_le (by norm_num)
    _ = |x| * 2 ^ (-53 : ℤ) := by
      norm_num
      ring

/-- Numbers further apart than both errors are rounded apart. -/
theorem round_lt_round (hx : Normal x) (hy : Normal y) (h : x + (|x| + |y|) * 2 ^ (-53 : ℤ) < y) :
    round x < round y := by
  have hx' := abs_le.1 (abs_round_sub_le hx)
  have hy' := abs_le.1 (abs_round_sub_le hy)
  linarith [hx'.2, hy'.1]

theorem round_zero : round 0 = 0 := by
  simp [round, nearestEven]

theorem round_ne_zero (h : Normal x) : round x ≠ 0 := by
  intro hzero
  have herror := abs_round_sub_le h
  rw [hzero, zero_sub, abs_neg] at herror
  have hpos := h.pos
  norm_num at herror
  linarith

/-- 1 is in the format, and nothing is rounded past it. -/
theorem one_le_round (h : 1 ≤ x) : 1 ≤ round x := by
  have hpos : 0 < |x| := abs_pos.2 (by linarith)
  have hlog : 0 ≤ Int.log 2 |x| := by
    rw [← Int.zpow_le_iff_le_log Nat.one_lt_two hpos, zpow_zero]
    exact h.trans (le_abs_self x)
  have hlast : lastBit x = Int.log 2 |x| + -52 := by
    unfold lastBit
    omega
  -- the significand has all of its 53 bits
  have hbits : (((2 : ℤ) ^ 52 : ℤ) : ℚ) ≤ x / 2 ^ lastBit x := by
    rw [le_div_iff₀ (lastBit_pos x), hlast, zpow_add₀ two_ne_zero]
    have hsize := Int.zpow_log_le_self (R := ℚ) Nat.one_lt_two hpos
    rw [abs_of_pos (lt_of_lt_of_le one_pos h)] at hsize ⊢
    norm_num at hsize ⊢
    linarith
  have hscaled : ((2 : ℤ) ^ 52 : ℤ) ≤ nearestEven (x / 2 ^ lastBit x) := le_nearestEven hbits
  calc (1 : ℚ) ≤ 2 ^ Int.log 2 |x| := one_le_zpow₀ one_le_two hlog
    _ = (((2 : ℤ) ^ 52 : ℤ) : ℚ) * 2 ^ lastBit x := by
      rw [hlast, zpow_add₀ two_ne_zero]
      norm_num
      ring
    _ ≤ round x := mul_le_mul_of_nonneg_right (by exact_mod_cast hscaled) (lastBit_pos x).le

end Lib.Binary64
