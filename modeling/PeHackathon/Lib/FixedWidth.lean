import Mathlib.Data.List.Lex
import Mathlib.Data.Nat.Digits.Defs
import Mathlib.Tactic.Common

/-!
# Numbers of a fixed width

The decimal digits of a number, with zeros in front. Texts of one width are in the order of the
numbers.
-/

namespace Lib

/-- The last `k` digits of `n`. -/
def fixedDigits : Nat → Nat → List Char
  | 0, _ => []
  | k + 1, n => fixedDigits k (n / 10) ++ [Nat.digitChar (n % 10)]

@[simp] theorem length_fixedDigits (k n : Nat) : (fixedDigits k n).length = k := by
  induction k generalizing n with
  | zero => rfl
  | succ k ih => rw [fixedDigits, List.length_append, ih, List.length_singleton]

/-! ## Order -/

section Order

variable {α : Type} [LT α]

theorem append_lt_left (l : List α) {s t : List α} (h : s < t) : l ++ s < l ++ t :=
  List.append_left_lt h

/-- Of two texts with parts of one length in front, the parts decide if they differ. -/
theorem append_lt_of_lt {l l' : List α} (hlen : l.length = l'.length) (h : l < l') (s t : List α) :
    l ++ s < l' ++ t := by
  induction l generalizing l' with
  | nil =>
    cases l' with
    | nil => exact absurd h (List.not_lt_nil [])
    | cons b l' => cases hlen
  | cons a l ih =>
    cases l' with
    | nil => cases hlen
    | cons b l' =>
      rw [List.cons_append, List.cons_append, List.cons_lt_cons_iff]
      rcases List.cons_lt_cons_iff.1 h with hab | ⟨rfl, hll⟩
      · exact .inl hab
      · exact .inr ⟨rfl, ih (Nat.succ.inj hlen) hll⟩

end Order

theorem digitChar_lt {a b : Nat} (hab : a < b) (hb : b < 10) :
    Nat.digitChar a < Nat.digitChar b := by
  revert a
  revert b
  decide

/-- **The digits are in the order of the numbers.** -/
theorem fixedDigits_lt {k a b : Nat} (hab : a < b) (hb : b < 10 ^ k) :
    fixedDigits k a < fixedDigits k b := by
  induction k generalizing a b with
  | zero => omega
  | succ k ih =>
    have hdigits : b / 10 < 10 ^ k := by
      rw [Nat.pow_succ] at hb
      omega
    unfold fixedDigits
    by_cases hlt : a / 10 < b / 10
    · exact append_lt_of_lt (by rw [length_fixedDigits, length_fixedDigits]) (ih hlt hdigits) _ _
    · have heq : a / 10 = b / 10 := by omega
      rw [heq]
      refine append_lt_left _ (List.cons_lt_cons_iff.2 (.inl ?_))
      exact digitChar_lt (by omega) (Nat.mod_lt b (by decide))

end Lib
