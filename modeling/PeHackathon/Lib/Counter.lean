import PeHackathon.Lib.Dict

/-!
# Counters

A dictionary of counts, as a `Counter` is, and sums over the entries of a dictionary. One update
moves a sum by the new entry less the one it replaces.
-/

namespace Lib

namespace Dict

variable {K V : Type}

/-- The sum of `f` over the entries. -/
def sumOver (d : Dict K V) (f : K → V → Nat) : Nat := (d.entries.map fun e => f e.1 e.2).sum

@[simp] theorem sumOver_empty (f : K → V → Nat) : (empty : Dict K V).sumOver f = 0 := rfl

variable [DecidableEq K]

theorem sum_kerase (f : K → V → Nat) (k : K) (l : List (Sigma fun _ : K => V)) :
    ((l.kerase k).map fun e => f e.1 e.2).sum + (l.dlookup k).elim 0 (f k) =
      (l.map fun e => f e.1 e.2).sum := by
  induction l with
  | nil => rfl
  | cons e l ih =>
    obtain ⟨k', v⟩ := e
    by_cases hk : k = k'
    · subst hk
      have herase : List.kerase k (⟨k, v⟩ :: l) = l := List.kerase_cons_eq rfl
      rw [herase, List.dlookup_cons_eq]
      simp only [Option.elim_some, List.map_cons, List.sum_cons]
      omega
    · have herase : List.kerase k (⟨k', v⟩ :: l) = ⟨k', v⟩ :: l.kerase k := List.kerase_cons_ne hk
      rw [herase, List.dlookup_cons_ne _ _ hk]
      simp only [List.map_cons, List.sum_cons]
      omega

/-- What setting a key does to a sum. -/
theorem sumOver_set (d : Dict K V) (f : K → V → Nat) (k : K) (v : V) :
    (d.set k v).sumOver f + (d.get k).elim 0 (f k) = d.sumOver f + f k v := by
  have hentries : (d.set k v).entries = ⟨k, v⟩ :: d.entries.kerase k := AList.entries_insert
  have hrest := sum_kerase f k d.entries
  have hget : d.get k = d.entries.dlookup k := rfl
  unfold sumOver
  rw [hentries, hget]
  simp only [List.map_cons, List.sum_cons]
  omega

/-! ## Counts -/

/-- `counter[k] += 1`. -/
def bump (d : Dict K Nat) (k : K) : Dict K Nat := d.set k ((d.get k).getD 0 + 1)

omit [DecidableEq K] in
/-- The counts of the keys in `p`, together. -/
def total (d : Dict K Nat) (p : K → Bool) : Nat := d.sumOver fun k n => if p k then n else 0

omit [DecidableEq K] in
@[simp] theorem total_empty (p : K → Bool) : (empty : Dict K Nat).total p = 0 := rfl

theorem total_bump (d : Dict K Nat) (k : K) (p : K → Bool) :
    (d.bump k).total p = d.total p + if p k then 1 else 0 := by
  have h := sumOver_set d (fun k n => if p k then n else 0) k ((d.get k).getD 0 + 1)
  unfold total bump
  cases hget : d.get k with
  | none =>
    simp only [hget, Option.elim_none, Option.getD_none] at h ⊢
    split at h <;> simp_all
  | some n =>
    simp only [hget, Option.elim_some, Option.getD_some] at h ⊢
    split at h <;> simp_all
    omega

end Dict

end Lib
