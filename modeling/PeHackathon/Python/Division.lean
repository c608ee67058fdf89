import PeHackathon.Lib.Binary64

/-!
# Division in Python

`a / b` of two integers is the `float` that is nearest to the quotient. A `float` stands here for
its value, so the two zeros are one.
-/

namespace PeHackathon

open Lib

/-- `a / b`; `none` if it raises: `b` is zero, or the quotient is rounded past the largest
`float`. -/
def pyTrueDiv (a b : Int) : Option ℚ :=
  if b = 0 ∨ 2 ^ 1024 - 2 ^ 970 ≤ |(a : ℚ) / b| then none else some (Binary64.round (a / b))

/-- `min(1.0, x)`. -/
def pyMinOne (x : ℚ) : ℚ := if x < 1 then x else 1

theorem pyMinOne_of_lt {x : ℚ} (h : x < 1) : pyMinOne x = x := if_pos h

theorem pyMinOne_of_le {x : ℚ} (h : 1 ≤ x) : pyMinOne x = 1 := if_neg (not_lt.2 h)

theorem pyMinOne_ne_zero {x : ℚ} (h : x ≠ 0) : pyMinOne x ≠ 0 := by
  unfold pyMinOne
  split
  · exact h
  · exact one_ne_zero

section Quotients

variable {a b c : Int}

theorem pyTrueDiv_zero (hb : 0 < b) : pyTrueDiv 0 b = some 0 := by
  have hsmall : ¬ (b = 0 ∨ 2 ^ 1024 - 2 ^ 970 ≤ |((0 : Int) : ℚ) / b|) := by
    rintro (hzero | hlarge)
    · omega
    · rw [Int.cast_zero, zero_div, abs_zero, sub_nonpos] at hlarge
      exact absurd hlarge (not_le.2 (pow_lt_pow_right₀ one_lt_two (by decide)))
  rw [pyTrueDiv, if_neg hsmall, Int.cast_zero, zero_div, Binary64.round_zero]

/-- A larger divisor does not make a quotient too large. -/
theorem pyTrueDiv_isSome (hb : 0 < b) (hbc : b ≤ c) (h : (pyTrueDiv a b).isSome = true) :
    pyTrueDiv a c = some (Binary64.round (a / c)) := by
  unfold pyTrueDiv at h ⊢
  split at h
  · cases h
  · rename_i hsmall
    rw [not_or, not_le] at hsmall
    have hbQ : (0 : ℚ) < b := by exact_mod_cast hb
    have hcQ : (b : ℚ) ≤ c := by exact_mod_cast hbc
    refine if_neg (not_or.2 ⟨by omega, not_le.2 (lt_of_le_of_lt ?_ hsmall.2)⟩)
    rw [abs_div, abs_div, abs_of_pos hbQ, abs_of_pos (hbQ.trans_le hcQ)]
    exact div_le_div_of_nonneg_left (abs_nonneg _) hbQ hcQ

theorem quotient_normal (ha : a ≠ 0) (hb : 0 < b) (hmany : b ≤ 2 ^ 51) :
    Binary64.Normal ((a : ℚ) / b) := by
  have hbQ : (0 : ℚ) < b := by exact_mod_cast hb
  have haQ : (1 : ℚ) ≤ |(a : ℚ)| := by exact_mod_cast Int.one_le_abs ha
  have hmanyQ : (b : ℚ) ≤ 2 ^ 51 := by exact_mod_cast hmany
  unfold Binary64.Normal
  rw [abs_div, abs_of_pos hbQ, le_div_iff₀ hbQ]
  calc (2 : ℚ) ^ (-1022 : ℤ) * b ≤ 2 ^ (-51 : ℤ) * 2 ^ 51 := by
        refine mul_le_mul ?_ hmanyQ hbQ.le (by positivity)
        exact zpow_le_zpow_right₀ one_le_two (by norm_num)
    _ = 1 := by norm_num
    _ ≤ |(a : ℚ)| := haQ

/-- Two quotients of one number by integers that a significand holds are further apart than their
errors. -/
theorem quotients_apart (ha : 0 < a) (hb : 0 < b) (hbc : b < c) (hmany : c ≤ 2 ^ 51) :
    (a : ℚ) / c + ((a : ℚ) / c + a / b) * 2 ^ (-53 : ℤ) < a / b := by
  have haQ : (0 : ℚ) < a := by exact_mod_cast ha
  have hbQ : (0 : ℚ) < b := by exact_mod_cast hb
  have hcQ : (b : ℚ) + 1 ≤ c := by exact_mod_cast hbc
  have hmanyQ : (c : ℚ) ≤ 2 ^ 51 := by exact_mod_cast hmany
  have hpos : (0 : ℚ) < a / c := div_pos haQ (by linarith)
  -- the larger quotient exceeds the smaller one by a part of `1 / b`
  have hsame : (a : ℚ) / b * b = a / c * c := by
    rw [div_mul_cancel₀ _ hbQ.ne', div_mul_cancel₀ _ (by linarith)]
  have hgap : (a : ℚ) / c ≤ (a / b - a / c) * b := by nlinarith
  have hpart : (a : ℚ) / c ≤ (a / b - a / c) * 2 ^ 51 := by
    have hnonneg : (0 : ℚ) ≤ a / b - a / c := by
      by_contra hneg
      nlinarith
    exact hgap.trans (mul_le_mul_of_nonneg_left (by linarith) hnonneg)
  norm_num at hpart ⊢
  linarith

/-- Below 1, a quotient stays below 1. -/
theorem round_quotient_lt_one (hc : 0 < c) (hmany : c ≤ 2 ^ 51) (hac : a < c) :
    Binary64.round ((a : ℚ) / c) < 1 := by
  have hcQ : (0 : ℚ) < c := by exact_mod_cast hc
  have hacQ : (a : ℚ) + 1 ≤ c := by exact_mod_cast hac
  have hmanyQ : (c : ℚ) ≤ 2 ^ 51 := by exact_mod_cast hmany
  by_cases ha : a = 0
  · rw [ha, Int.cast_zero, zero_div, Binary64.round_zero]
    exact one_pos
  have herror := (abs_le.1 (Binary64.abs_round_sub_le (quotient_normal ha hc hmany))).2
  obtain hneg | hnonneg := lt_or_ge (a : ℚ) 0
  · rw [abs_of_neg (div_neg_of_neg_of_pos hneg hcQ)] at herror
    have hquotient := div_neg_of_neg_of_pos hneg hcQ
    norm_num at herror
    linarith
  · have hpart : (a : ℚ) / c ≤ 1 - 1 / 2 ^ 51 := by
      rw [div_le_iff₀ hcQ]
      norm_num at hmanyQ ⊢
      linarith
    rw [abs_of_nonneg (div_nonneg hnonneg hcQ.le)] at herror
    norm_num at herror hpart
    linarith

/-- **Capped quotients of one number are equal** only where both are capped. -/
theorem pyMinOne_round_eq_iff (ha : a ≠ 0) (hb : 0 < b) (hbc : b < c) (hmany : c ≤ 2 ^ 51) :
    pyMinOne (Binary64.round ((a : ℚ) / b)) = pyMinOne (Binary64.round ((a : ℚ) / c)) ↔ c ≤ a := by
  have hbQ : (0 : ℚ) < b := by exact_mod_cast hb
  have hbcQ : (b : ℚ) < c := by exact_mod_cast hbc
  have hcQ := hbQ.trans hbcQ
  constructor
  · intro heq
    by_contra hless
    rw [pyMinOne_of_lt (round_quotient_lt_one (hb.trans hbc) hmany (not_le.1 hless))] at heq
    have hb' := quotient_normal ha hb (hbc.le.trans hmany)
    have hc' := quotient_normal ha (hb.trans hbc) hmany
    obtain hneg | hpos := lt_or_gt_of_ne ha
    · -- a negative number: the quotient by the smaller divisor is the smaller one
      have hapart := quotients_apart (Int.neg_pos_of_neg hneg) hb hbc hmany
      have hnegQ : (a : ℚ) < 0 := by exact_mod_cast hneg
      have hlt : Binary64.round ((a : ℚ) / b) < Binary64.round ((a : ℚ) / c) := by
        refine Binary64.round_lt_round hb' hc' ?_
        rw [abs_of_neg (div_neg_of_neg_of_pos hnegQ hbQ),
          abs_of_neg (div_neg_of_neg_of_pos hnegQ hcQ)]
        push_cast at hapart
        rw [neg_div, neg_div] at hapart
        linarith
      have hone := round_quotient_lt_one (hb.trans hbc) hmany (not_le.1 hless)
      rw [pyMinOne_of_lt (hlt.trans hone)] at heq
      exact absurd heq hlt.ne
    · have hapart := quotients_apart hpos hb hbc hmany
      have hposQ : (0 : ℚ) < a := by exact_mod_cast hpos
      have hlt : Binary64.round ((a : ℚ) / c) < Binary64.round ((a : ℚ) / b) := by
        refine Binary64.round_lt_round hc' hb' ?_
        rwa [abs_of_pos (div_pos hposQ hbQ), abs_of_pos (div_pos hposQ hcQ)]
      unfold pyMinOne at heq
      split at heq
      · exact absurd heq hlt.ne'
      · exact absurd heq (round_quotient_lt_one (hb.trans hbc) hmany (not_le.1 hless)).ne'
  · intro hle
    have hleQ : (c : ℚ) ≤ a := by exact_mod_cast hle
    have hone : ∀ {d : ℚ}, 0 < d → d ≤ a → 1 ≤ Binary64.round ((a : ℚ) / d) := fun hd hda =>
      Binary64.one_le_round ((one_le_div₀ hd).2 hda)
    rw [pyMinOne_of_le (hone hbQ (hbcQ.le.trans hleQ)), pyMinOne_of_le (hone hcQ hleQ)]

end Quotients

end PeHackathon
