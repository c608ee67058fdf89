import Mathlib.Algebra.BigOperators.Group.List.Basic
import Mathlib.Algebra.GroupWithZero.Nat
import Mathlib.Data.List.Count
import Mathlib.Tactic.Common

/-!
# Counting by a key

The elements of a list, counted for each of some keys.
-/

namespace Lib

variable {α κ : Type} [DecidableEq κ]

omit [DecidableEq κ] in
/-- Two conditions that exclude each other count what one or the other counts. -/
theorem countP_disjoint {p q : α → Bool} {l : List α} (h : ∀ a ∈ l, ¬ (p a ∧ q a)) :
    l.countP p + l.countP q = l.countP fun a => p a || q a := by
  induction l with
  | nil => rfl
  | cons a l ih =>
    have ha := h a List.mem_cons_self
    have hl := ih fun b hb => h b (List.mem_cons_of_mem a hb)
    simp only [List.countP_cons]
    cases hp : p a <;> cases hq : q a <;> simp [hp, hq] at ha ⊢ <;> omega

/-- **The counts add up**: for distinct keys, to the count of what has one of them. -/
theorem sum_countP_key (key : α → κ) (p : α → Bool) (l : List α) {keys : List κ}
    (hkeys : keys.Nodup) :
    (keys.map fun k => l.countP fun a => p a && key a == k).sum =
      l.countP fun a => p a && decide (key a ∈ keys) := by
  induction keys with
  | nil => simp
  | cons k keys ih =>
    obtain ⟨hk, hkeys⟩ := List.nodup_cons.1 hkeys
    rw [List.map_cons, List.sum_cons, ih hkeys, countP_disjoint]
    · refine List.countP_congr fun a _ => ?_
      simp only [Bool.or_eq_true, Bool.and_eq_true, beq_iff_eq, decide_eq_true_eq, List.mem_cons]
      tauto
    · intro a _ hboth
      simp only [Bool.and_eq_true, beq_iff_eq, decide_eq_true_eq] at hboth
      exact hk (hboth.1.2 ▸ hboth.2.2)

omit [DecidableEq κ] in
/-- A condition that implies another and counts as many is the same. -/
theorem forall_of_countP_eq {p q : α → Bool} {l : List α} (himp : ∀ a ∈ l, p a → q a)
    (h : l.countP q = l.countP p) : ∀ a ∈ l, q a → p a := by
  induction l with
  | nil => exact fun a ha => absurd ha List.not_mem_nil
  | cons b l ih =>
    have hl := fun a ha => himp a (List.mem_cons_of_mem b ha)
    have hle := List.countP_mono_left hl
    have hb := himp b List.mem_cons_self
    have hstep : (if p b then 1 else 0) ≤ (if q b then 1 else 0 : Nat) := by
      by_cases hp : p b
      · simp [hp, hb hp]
      · rw [if_neg hp]
        exact Nat.zero_le _
    rw [List.countP_cons, List.countP_cons] at h
    intro a ha hq
    rcases List.mem_cons.1 ha with rfl | ha
    · by_contra hp
      rw [if_pos hq, if_neg hp] at h
      omega
    · exact ih hl (by omega) a ha hq

end Lib
