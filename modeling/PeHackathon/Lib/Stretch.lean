import Mathlib.Algebra.BigOperators.Intervals
import Mathlib.Order.Interval.Finset.Nat

/-!
# Maximal stretches of a list

`stretchesBefore p q l` is the number of maximal stretches of `p` in `l` that are directly followed
by `q`. There is one at each place where `p` ends and `q` begins (`stretchesBefore_eq`), so two ways
to look at neighbours find equally many in every front part exactly when they agree on all
neighbours (`pairs_take_iff`).
-/

namespace Lib

variable {α : Type}

/-- `p` holds of the element at `i`. -/
def At (p : α → Bool) (l : List α) (i : Nat) : Prop := (l[i]?).any p = true

instance (p : α → Bool) (l : List α) (i : Nat) : Decidable (At p l i) :=
  inferInstanceAs (Decidable (_ = true))

/-- From `i` to `j`, `p` holds throughout, and it does not directly before or after. -/
def IsStretch (p : α → Bool) (l : List α) (i j : Nat) : Prop :=
  (i ≤ j ∧ ∀ m ∈ Finset.Icc i j, At p l m) ∧ (i = 0 ∨ ¬ At p l (i - 1)) ∧ ¬ At p l (j + 1)

instance (p : α → Bool) (l : List α) (i j : Nat) : Decidable (IsStretch p l i j) :=
  inferInstanceAs (Decidable (_ ∧ _))

/-- The maximal stretches of `p`, by their ends, that are directly followed by `q`. -/
def stretches (p q : α → Bool) (l : List α) : Finset (Nat × Nat) :=
  (Finset.range l.length ×ˢ Finset.range l.length).filter fun ij =>
    IsStretch p l ij.1 ij.2 ∧ At q l (ij.2 + 1)

def stretchesBefore (p q : α → Bool) (l : List α) : Nat := (stretches p q l).card

/-- The number of neighbours that `r` relates. -/
def pairs (r : α → α → Bool) : List α → Nat
  | a :: b :: l => (if r a b then 1 else 0) + pairs r (b :: l)
  | _ => 0

/-- The stretch that an element belongs to begins somewhere. -/
theorem exists_start {p : α → Bool} {l : List α} {j : Nat} (h : At p l j) :
    ∃ i ≤ j, (∀ m ∈ Finset.Icc i j, At p l m) ∧ (i = 0 ∨ ¬ At p l (i - 1)) := by
  induction j with
  | zero => exact ⟨0, Nat.le_refl 0, fun m hm => by simp_all, .inl rfl⟩
  | succ j ih =>
    by_cases hj : At p l j
    · obtain ⟨i, hi, hall, hstart⟩ := ih hj
      refine ⟨i, by omega, fun m hm => ?_, hstart⟩
      obtain ⟨him, hmj⟩ := Finset.mem_Icc.1 hm
      by_cases hm' : m = j + 1
      · exact hm' ▸ h
      · exact hall m (Finset.mem_Icc.2 ⟨him, by omega⟩)
    · refine ⟨j + 1, Nat.le_refl _, fun m hm => ?_, .inr hj⟩
      obtain ⟨him, hmj⟩ := Finset.mem_Icc.1 hm
      exact Nat.le_antisymm hmj him ▸ h

/-- A maximal stretch is given by its last place. -/
theorem IsStretch.start_unique {p : α → Bool} {l : List α} {i i' j : Nat} (h : IsStretch p l i j)
    (h' : IsStretch p l i' j) : i = i' := by
  obtain ⟨⟨hij, hall⟩, hstart, -⟩ := h
  obtain ⟨⟨hij', hall'⟩, hstart', -⟩ := h'
  by_contra hne
  rcases Nat.lt_or_gt_of_ne hne with hlt | hlt
  · rcases hstart' with h0 | hn
    · omega
    · exact hn (hall (i' - 1) (Finset.mem_Icc.2 ⟨by omega, by omega⟩))
  · rcases hstart with h0 | hn
    · omega
    · exact hn (hall' (i - 1) (Finset.mem_Icc.2 ⟨by omega, by omega⟩))

/-- The places where `p` ends and `q` begins. -/
def lastPlaces (p q : α → Bool) (l : List α) : Finset Nat :=
  (Finset.range l.length).filter fun j => At p l j ∧ ¬ At p l (j + 1) ∧ At q l (j + 1)

theorem card_lastPlaces (p q : α → Bool) (l : List α) :
    (lastPlaces p q l).card = stretchesBefore p q l := by
  symm
  refine Finset.card_bij (fun ij _ => ij.2) ?_ ?_ ?_
  · rintro ⟨i, j⟩ hij
    simp only [stretches, Finset.mem_filter, Finset.mem_product, Finset.mem_range] at hij
    obtain ⟨⟨-, hj⟩, ⟨⟨hle, hall⟩, -, hend⟩, hq⟩ := hij
    simp only [lastPlaces, Finset.mem_filter, Finset.mem_range]
    exact ⟨hj, hall j (Finset.mem_Icc.2 ⟨hle, Nat.le_refl j⟩), hend, hq⟩
  · rintro ⟨i, j⟩ hij ⟨i', j'⟩ hij' heq
    simp only [stretches, Finset.mem_filter] at hij hij'
    simp only at heq
    subst heq
    rw [hij.2.1.start_unique hij'.2.1]
  · intro j hj
    simp only [lastPlaces, Finset.mem_filter, Finset.mem_range] at hj
    obtain ⟨hlt, hp, hend, hq⟩ := hj
    obtain ⟨i, hi, hall, hstart⟩ := exists_start hp
    refine ⟨(i, j), ?_, rfl⟩
    simp only [stretches, Finset.mem_filter, Finset.mem_product, Finset.mem_range]
    exact ⟨⟨by omega, hlt⟩, ⟨⟨hi, hall⟩, hstart, hend⟩, hq⟩

/-- Where `p` ends and `q` begins. -/
def turns (p q : α → Bool) (a b : α) : Bool := p a && !p b && q b

theorem card_lastPlaces_eq_pairs (p q : α → Bool) (l : List α) :
    (lastPlaces p q l).card = pairs (turns p q) l := by
  rw [lastPlaces, Finset.card_filter]
  induction l with
  | nil => rfl
  | cons a l ih =>
    have hshift : ∀ (p : α → Bool) i, At p (a :: l) (i + 1) ↔ At p l i := fun p i => Iff.rfl
    rw [List.length_cons, Finset.sum_range_succ']
    simp only [hshift]
    rw [ih]
    cases l with
    | nil => simp [At, pairs]
    | cons b l =>
      rw [pairs, Nat.add_comm]
      congr 1
      simp [At, turns, and_assoc]

theorem stretchesBefore_eq (p q : α → Bool) (l : List α) :
    stretchesBefore p q l = pairs (turns p q) l :=
  (card_lastPlaces p q l).symm.trans (card_lastPlaces_eq_pairs p q l)

/-- Every front part has as many of the one kind as of the other exactly if they are the same. -/
theorem pairs_take_iff {r r' : α → α → Bool} {l : List α} :
    (∀ k, pairs r (l.take k) = pairs r' (l.take k)) ↔ l.IsChain fun a b => r a b = r' a b := by
  induction l with
  | nil => simp [pairs]
  | cons a l ih =>
    cases l with
    | nil =>
      constructor
      · exact fun _ => .singleton a
      · intro _ k
        cases k <;> simp [pairs]
    | cons b l =>
      rw [List.isChain_cons_cons, ← ih]
      constructor
      · intro h
        have hab : r a b = r' a b := by
          have h2 := h 2
          simp only [List.take_succ_cons, List.take_zero, pairs] at h2
          cases hr : r a b <;> cases hr' : r' a b <;> simp_all
        refine ⟨hab, fun k => ?_⟩
        cases k with
        | zero => rfl
        | succ k =>
          have hk := h (k + 2)
          simp only [List.take_succ_cons, pairs, hab] at hk ⊢
          omega
      · rintro ⟨hab, h⟩ k
        cases k with
        | zero => rfl
        | succ k =>
          cases k with
          | zero => rfl
          | succ k =>
            have hk := h (k + 1)
            simp only [List.take_succ_cons, pairs, hab] at hk ⊢
            omega

end Lib
