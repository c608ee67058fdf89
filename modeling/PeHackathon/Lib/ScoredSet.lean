import Mathlib.Data.Finset.Card
import Mathlib.Data.Finset.Dedup
import Mathlib.Data.Finset.Image
import PeHackathon.Lib.Dict

/-!
# Scored sets

A set whose members have a score each, as a dictionary: a member that is put again gets the new
score, and a prune drops the members up to a score. `Window puts cut d` says that `d` came from
`puts` by prunes that did not go beyond `cut`. When scores are put in order, a prune at `cut` leaves
the members put beyond it, whatever was pruned before (`Window.keys_pruneUpTo`).
-/

namespace Lib

variable {M T : Type} [DecidableEq M] [LinearOrder T]

namespace Dict

variable (d : Dict M T) (cut : T)

/-- Without the members whose score is at most `cut`. -/
def pruneUpTo : Dict M T := d.deleteAll (d.keys.filter fun m => (d.get m).any (· ≤ cut))

theorem get_pruneUpTo (m : M) : (d.pruneUpTo cut).get m = (d.get m).filter (cut < ·) := by
  rw [pruneUpTo, get_deleteAll]
  cases hget : d.get m with
  | none => simp
  | some t =>
    have hm : m ∈ d.keys := mem_keys.2 (by rw [hget]; exact Option.some_ne_none t)
    rw [Option.filter_some]
    by_cases ht : t ≤ cut
    · simp [hm, hget, ht]
    · simp [hget, ht]

end Dict

/-- `d` is what prunes up to `cut` at most have left of `puts`. -/
structure Window (puts : List (M × T)) (cut : T) (d : Dict M T) : Prop where
  put : ∀ m t, d.get m = some t → (m, t) ∈ puts
  live : ∀ m t, (m, t) ∈ puts → cut < t → ∃ s, d.get m = some s ∧ cut < s

namespace Window

variable {puts : List (M × T)} {cut c t : T} {d : Dict M T} {m : M}

theorem empty : Window ([] : List (M × T)) cut Dict.empty where
  put m t h := by
    rw [Dict.get_empty] at h
    cases h
  live m t h := absurd h List.not_mem_nil

/-- A score that is put is not below those before it, so the member stays in the window. -/
theorem set (h : Window puts cut d) (ht : ∀ p ∈ puts, p.2 ≤ t) :
    Window (puts ++ [(m, t)]) cut (d.set m t) where
  put m' t' hget := by
    rw [Dict.get_set] at hget
    split at hget
    · rename_i hm
      cases hget
      rw [hm]
      exact List.mem_append_right _ (List.mem_singleton_self _)
    · exact List.mem_append_left _ (h.put m' t' hget)
  live m' t' hmem hlive := by
    rw [Dict.get_set]
    by_cases hm : m' = m
    · rw [if_pos hm]
      refine ⟨t, rfl, ?_⟩
      rcases List.mem_append.1 hmem with hmem | hmem
      · exact lt_of_lt_of_le hlive (ht _ hmem)
      · cases List.mem_singleton.1 hmem
        exact hlive
    · rw [if_neg hm]
      refine h.live m' t' ((List.mem_append.1 hmem).resolve_right fun hmem => ?_) hlive
      cases List.mem_singleton.1 hmem
      exact hm rfl

theorem prune (h : Window puts cut d) (hc : c ≤ cut) : Window puts cut (d.pruneUpTo c) where
  put m t hget := by
    rw [Dict.get_pruneUpTo, Option.filter_eq_some_iff] at hget
    exact h.put m t hget.1
  live m t hmem hlive := by
    obtain ⟨s, hs, hcut⟩ := h.live m t hmem hlive
    refine ⟨s, ?_, hcut⟩
    rw [Dict.get_pruneUpTo, hs, Option.filter_some, if_pos (by simpa using lt_of_le_of_lt hc hcut)]

/-- **A prune at the bound** leaves exactly the members put beyond it. -/
theorem keys_pruneUpTo (h : Window puts cut d) :
    (d.pruneUpTo cut).keys.length =
      ((puts.filter fun p => cut < p.2).map Prod.fst).toFinset.card := by
  have hnodup : (d.pruneUpTo cut).keys.Nodup := AList.keys_nodup _
  rw [← List.toFinset_card_of_nodup hnodup]
  congr 1
  ext m
  rw [List.mem_toFinset, List.mem_toFinset, Dict.mem_keys, Dict.get_pruneUpTo, List.mem_map]
  constructor
  · intro hget
    obtain ⟨t, ht⟩ := Option.ne_none_iff_exists'.1 hget
    rw [Option.filter_eq_some_iff] at ht
    exact ⟨(m, t), List.mem_filter.2 ⟨h.put m t ht.1, ht.2⟩, rfl⟩
  · rintro ⟨⟨m', t⟩, hp, rfl⟩
    obtain ⟨hmem, hlive⟩ := List.mem_filter.1 hp
    obtain ⟨s, hs, hcut⟩ := h.live m' t hmem (by simpa using hlive)
    rw [hs, Option.filter_some, if_pos (by simpa using hcut)]
    exact Option.some_ne_none s

end Window

end Lib
