import Mathlib.Order.Lattice
import Mathlib.Tactic.Common

/-!
# Tiers

A tier is a bound and a value. `tierValue n` is the value of the first tier whose bound is not below
`n`, or of the last tier. `tierValue_antitone_iff`: the value never rises with `n`, and is the least
of all beyond the bounds, just when the values fall along the tiers that some `n` selects, and the
last tier has the least.
-/

namespace Lib

variable {κ ν : Type} [LinearOrder κ]

def tierValue (n : κ) : List (κ × ν) → Option ν
  | [] => none
  | [t] => some t.2
  | t :: t' :: rest => if n ≤ t.1 then some t.2 else tierValue n (t' :: rest)

/-- Some `n` from `lo` on selects the tier by its bound. -/
def Selectable (lo : κ) (tiers : List (κ × ν)) (t : κ × ν) : Prop :=
  ∃ before after, tiers = before ++ t :: after ∧ lo ≤ t.1 ∧ ∀ s ∈ before, s.1 < t.1

section

variable {lo n : κ} {tiers rest : List (κ × ν)} {t t' : κ × ν} {x : ν}

theorem Selectable.head (h : lo ≤ t.1) : Selectable lo (t :: rest) t :=
  ⟨[], rest, rfl, h, fun _ hs => absurd hs List.not_mem_nil⟩

theorem Selectable.cons (h : Selectable lo rest t') (ht : t.1 < t'.1) :
    Selectable lo (t :: rest) t' := by
  obtain ⟨before, after, rfl, hlo, hbefore⟩ := h
  refine ⟨t :: before, after, rfl, hlo, fun s hs => ?_⟩
  rcases List.mem_cons.1 hs with rfl | hs
  · exact ht
  · exact hbefore s hs

theorem Selectable.mono {lo' : κ} (h : Selectable lo tiers t) (hlo : lo' ≤ lo) :
    Selectable lo' tiers t := by
  obtain ⟨before, after, rfl, hle, hbefore⟩ := h
  exact ⟨before, after, rfl, le_trans hlo hle, hbefore⟩

/-- A value is selected by a bound, or it is that of the last tier. -/
theorem tierValue_cases (h : tierValue n tiers = some x) :
    (∃ t, Selectable n tiers t ∧ t.2 = x) ∨ ∃ last, tiers.getLast? = some last ∧ last.2 = x := by
  induction tiers with
  | nil => cases h
  | cons t rest ih =>
    cases rest with
    | nil =>
      cases h
      exact .inr ⟨t, rfl, rfl⟩
    | cons t' rest =>
      rw [tierValue] at h
      split at h
      · rename_i hn
        cases h
        exact .inl ⟨t, .head hn, rfl⟩
      · rename_i hn
        rcases ih h with ⟨s, hs, hx⟩ | ⟨last, hlast, hx⟩
        · have hle : n ≤ s.1 := by
            obtain ⟨-, -, -, hle, -⟩ := hs
            exact hle
          exact .inl ⟨s, hs.cons (lt_of_lt_of_le (lt_of_not_ge hn) hle), hx⟩
        · exact .inr ⟨last, by rw [List.getLast?_cons_cons]; exact hlast, hx⟩

/-- A tier that is selected by its bound is the one of its bound. -/
theorem Selectable.tierValue (h : Selectable lo tiers t) : tierValue t.1 tiers = some t.2 := by
  obtain ⟨before, after, rfl, -, hbefore⟩ := h
  induction before with
  | nil =>
    cases after with
    | nil => rfl
    | cons t' after => exact if_pos (le_refl _)
  | cons s before ih =>
    rw [List.forall_mem_cons] at hbefore
    have hrest := ih hbefore.2
    cases hcons : before ++ t :: after with
    | nil => simp at hcons
    | cons t' rest =>
      rw [hcons] at hrest
      rw [List.cons_append, hcons, Lib.tierValue, if_neg (not_le_of_gt hbefore.1)]
      exact hrest

theorem tierValue_beyond (h : ∀ t ∈ tiers, t.1 < n) :
    tierValue n tiers = tiers.getLast?.map Prod.snd := by
  induction tiers with
  | nil => rfl
  | cons t rest ih =>
    cases rest with
    | nil => rfl
    | cons t' rest =>
      rw [List.forall_mem_cons] at h
      rw [tierValue, if_neg (not_le_of_gt h.1), ih h.2, List.getLast?_cons_cons]

end

/-! ## Values that fall -/

variable [LinearOrder ν]

/-- The values fall along the selectable tiers. -/
def Descending (lo : κ) (tiers : List (κ × ν)) : Prop :=
  ∀ t t', Selectable lo tiers t → Selectable lo tiers t' → t.1 ≤ t'.1 → t'.2 ≤ t.2

/-- The last tier has the least value. -/
def LastLeast (tiers : List (κ × ν)) : Prop := ∀ last ∈ tiers.getLast?, ∀ t ∈ tiers, last.2 ≤ t.2

/-- What is selected does not rise from `lo` on, and is the least value beyond the bounds. -/
structure FallsWithLoad (lo : κ) (tiers : List (κ × ν)) : Prop where
  antitone : ∀ u v, lo ≤ u → u ≤ v → ∀ x ∈ tierValue u tiers, ∀ y ∈ tierValue v tiers, y ≤ x
  beyond : ∀ v, lo ≤ v → (∀ t ∈ tiers, t.1 < v) → ∀ y ∈ tierValue v tiers, ∀ t ∈ tiers, y ≤ t.2

section

variable {lo : κ} {tiers rest : List (κ × ν)} {t t' : κ × ν}

omit [LinearOrder κ] in
theorem LastLeast.tail (h : LastLeast (t :: t' :: rest)) : LastLeast (t' :: rest) := by
  intro last hlast s hs
  refine h last ?_ s (List.mem_cons_of_mem _ hs)
  rw [List.getLast?_cons_cons]
  exact hlast

theorem Descending.antitone (h : Descending lo tiers) (hlast : LastLeast tiers) :
    ∀ u v, lo ≤ u → u ≤ v → ∀ x ∈ tierValue u tiers, ∀ y ∈ tierValue v tiers, y ≤ x := by
  induction tiers generalizing lo with
  | nil => exact fun u v _ _ x hx => nomatch hx
  | cons t rest ih =>
    intro u v hu huv x hx y hy
    cases rest with
    | nil =>
      cases hx
      cases hy
      exact le_refl _
    | cons t' rest =>
      by_cases hut : u ≤ t.1
      · rw [tierValue, if_pos hut] at hx
        cases hx
        have hhead : Selectable lo (t :: t' :: rest) t := .head (le_trans hu hut)
        rcases tierValue_cases hy with ⟨s, hs, rfl⟩ | ⟨last, hl, rfl⟩
        · by_cases hts : t.1 ≤ s.1
          · exact h t s hhead (hs.mono (le_trans hu huv)) hts
          · -- the tier of a smaller load stands first
            have hvt : v ≤ t.1 := by
              obtain ⟨-, -, -, hle, -⟩ := hs
              exact le_trans hle (le_of_not_ge hts)
            rw [tierValue, if_pos hvt] at hy
            exact le_of_eq (Option.some.inj hy).symm
        · exact hlast last hl t List.mem_cons_self
      · have hvt : ¬ v ≤ t.1 := fun hv => hut (le_trans huv hv)
        rw [tierValue, if_neg hut] at hx
        rw [tierValue, if_neg hvt] at hy
        have hrest : Descending u (t' :: rest) := by
          intro s s' hs hs' hss'
          have hts : ∀ s, Selectable u (t' :: rest) s → t.1 < s.1 := by
            rintro s ⟨-, -, -, hle, -⟩
            exact lt_of_lt_of_le (lt_of_not_ge hut) hle
          exact h s s' ((hs.cons (hts s hs)).mono hu) ((hs'.cons (hts s' hs')).mono hu) hss'
        exact ih hrest hlast.tail u v (le_refl u) huv x hx y hy

end

/-- **The value falls with the load** if and only if the values fall along the selectable tiers, and
the last tier has the least. -/
theorem tierValue_antitone_iff [NoMaxOrder κ] (lo : κ) (tiers : List (κ × ν)) :
    FallsWithLoad lo tiers ↔ Descending lo tiers ∧ LastLeast tiers := by
  constructor
  · intro h
    refine ⟨fun t t' ht ht' hle => ?_, fun last hlast t ht => ?_⟩
    · have hlo : lo ≤ t.1 := by
        obtain ⟨-, -, -, hlo, -⟩ := ht
        exact hlo
      exact h.antitone t.1 t'.1 hlo hle _ ht.tierValue _ ht'.tierValue
    · -- a load beyond all bounds
      obtain ⟨top, htop⟩ : ∃ top, lo ≤ top ∧ ∀ s ∈ tiers, s.1 ≤ top := by
        clear h hlast ht
        induction tiers with
        | nil => exact ⟨lo, le_refl lo, fun _ hs => absurd hs List.not_mem_nil⟩
        | cons s tiers ih =>
          obtain ⟨top, hlo, htop⟩ := ih
          refine ⟨max s.1 top, le_trans hlo (le_max_right _ _), ?_⟩
          rw [List.forall_mem_cons]
          exact ⟨le_max_left _ _, fun s' hs' => le_trans (htop s' hs') (le_max_right _ _)⟩
      obtain ⟨v, hv⟩ := exists_gt top
      have hbeyond : ∀ s ∈ tiers, s.1 < v := fun s hs => lt_of_le_of_lt (htop.2 s hs) hv
      refine h.beyond v (le_trans htop.1 hv.le) hbeyond last.2 ?_ t ht
      rw [tierValue_beyond hbeyond, Option.mem_def.1 hlast]
      rfl
  · rintro ⟨hdesc, hlast⟩
    refine ⟨hdesc.antitone hlast, fun v _ hbeyond y hy t ht => ?_⟩
    rw [tierValue_beyond hbeyond] at hy
    obtain ⟨last, hl, rfl⟩ := Option.map_eq_some_iff.1 hy
    exact hlast last hl t ht

end Lib
