import Mathlib.Algebra.GroupWithZero.Nat
import Mathlib.Data.List.AList
import Mathlib.Tactic.Common

/-!
# Finite maps with one value type

A dictionary is an `AList` (an association list without duplicate keys) whose values have one type.
-/

namespace Lib

/-- A finite map from `K` to `V`. -/
def Dict (K V : Type) : Type := AList fun _ : K => V

/-- What is left of an association list after the keys of a list are erased. -/
theorem lookup_foldl_erase {K : Type} [DecidableEq K] {V : K → Type} (ks : List K) (s : AList V)
    (k : K) :
    (ks.foldl (fun s k => s.erase k) s).lookup k = if k ∈ ks then none else s.lookup k := by
  induction ks generalizing s with
  | nil => rfl
  | cons a ks ih =>
    rw [List.foldl_cons, ih]
    by_cases h : k = a
    · subst h; simp
    · simp [h, AList.lookup_erase_ne h]

namespace Dict

variable {K V : Type} [DecidableEq K]

omit [DecidableEq K] in
def empty : Dict K V := (∅ : AList fun _ : K => V)

def get (d : Dict K V) (k : K) : Option V := AList.lookup k d

def set (d : Dict K V) (k : K) (v : V) : Dict K V := AList.insert k v d

def delete (d : Dict K V) (k : K) : Dict K V := AList.erase k d

omit [DecidableEq K] in
def keys (d : Dict K V) : List K := AList.keys d

/-- Delete every key of `ks`. -/
def deleteAll (d : Dict K V) (ks : List K) : Dict K V := ks.foldl delete d

@[simp] theorem get_empty (k : K) : (empty : Dict K V).get k = none := AList.lookup_empty k

@[simp] theorem get_set_self (d : Dict K V) (k : K) (v : V) : (d.set k v).get k = some v :=
  AList.lookup_insert d

theorem get_set_ne (d : Dict K V) {k k' : K} (v : V) (h : k' ≠ k) : (d.set k v).get k' = d.get k' :=
  AList.lookup_insert_ne h

theorem get_set (d : Dict K V) (k k' : K) (v : V) :
    (d.set k v).get k' = if k' = k then some v else d.get k' := by
  by_cases h : k' = k
  · subst h; simp
  · simp [h, get_set_ne d v h]

@[simp] theorem get_delete_self (d : Dict K V) (k : K) : (d.delete k).get k = none :=
  AList.lookup_erase k d

theorem get_delete_ne (d : Dict K V) {k k' : K} (h : k' ≠ k) : (d.delete k).get k' = d.get k' :=
  AList.lookup_erase_ne h

theorem get_delete (d : Dict K V) (k k' : K) :
    (d.delete k).get k' = if k' = k then none else d.get k' := by
  by_cases h : k' = k
  · subst h; simp
  · simp [h, get_delete_ne d h]

theorem mem_keys {d : Dict K V} {k : K} : k ∈ d.keys ↔ d.get k ≠ none :=
  AList.lookup_eq_none.not_left.symm

theorem keys_subset_iff {d : Dict K V} {l : List K} :
    d.keys ⊆ l ↔ ∀ k, k ∉ l → d.get k = none := by
  constructor
  · intro h k hk
    by_contra hget
    exact hk (h (mem_keys.2 hget))
  · intro h k hk
    by_contra hl
    exact mem_keys.1 hk (h k hl)

theorem get_deleteAll (d : Dict K V) (ks : List K) (k : K) :
    (d.deleteAll ks).get k = if k ∈ ks then none else d.get k := lookup_foldl_erase ks d k

/-- Deleting the keys outside `p` keeps exactly the entries at keys in `p`. -/
theorem get_deleteAll_filter (d : Dict K V) (p : K → Bool) (k : K) :
    (d.deleteAll (d.keys.filter fun k => !p k)).get k = if p k then d.get k else none := by
  rw [get_deleteAll]
  by_cases hp : p k = true
  · simp [hp]
  · by_cases hk : d.get k = none
    · simp [hp, hk]
    · simp [hp, mem_keys.2 hk]

/-! ### Values -/

omit [DecidableEq K] in
def values (d : Dict K V) : List V := d.entries.map (·.2)

theorem mem_entries {d : Dict K V} {k : K} {v : V} : (⟨k, v⟩ : Sigma fun _ => V) ∈ d.entries ↔
    d.get k = some v :=
  AList.mem_lookup_iff.symm

theorem mem_values {d : Dict K V} {v : V} : v ∈ d.values ↔ ∃ k, d.get k = some v := by
  constructor
  · intro h
    obtain ⟨⟨k, v⟩, hentry, rfl⟩ := List.mem_map.1 h
    exact ⟨k, mem_entries.1 hentry⟩
  · rintro ⟨k, h⟩
    exact List.mem_map.2 ⟨⟨k, v⟩, mem_entries.2 h, rfl⟩

/-- Values that tell their key are told apart by it. -/
theorem values_nodup {d : Dict K V} {key : V → K} (h : ∀ k v, d.get k = some v → key v = k) :
    (d.values.map key).Nodup := by
  have hkeys : d.values.map key = d.keys := by
    unfold values keys AList.keys List.keys
    rw [List.map_map]
    refine List.map_congr_left fun entry hentry => ?_
    exact h entry.1 entry.2 (mem_entries.1 hentry)
  rw [hkeys]
  exact AList.keys_nodup d

/-! ### Many keys -/

section Many

variable {α : Type} (key : α → K) (val : α → V)

/-- Set the key of every element of a list. -/
def setAll (d : Dict K V) (l : List α) : Dict K V := l.foldl (fun d a => d.set (key a) (val a)) d

/-- Set a key, unless it has a value. -/
def fill (d : Dict K V) (k : K) (v : V) : Dict K V := if (d.get k).isSome then d else d.set k v

/-- Set the keys that have no value yet. -/
def fillAll (d : Dict K V) (l : List α) : Dict K V := l.foldl (fun d a => d.fill (key a) (val a)) d

variable {key val}

theorem get_setAll_cases (d : Dict K V) (l : List α) {k : K} {v : V}
    (h : (d.setAll key val l).get k = some v) :
    d.get k = some v ∨ ∃ a ∈ l, key a = k ∧ val a = v := by
  induction l generalizing d with
  | nil => exact .inl h
  | cons a l ih =>
    rcases ih (d.set (key a) (val a)) h with h | ⟨b, hb, hkey⟩
    · rw [get_set] at h
      split at h
      · rename_i heq
        exact .inr ⟨a, List.mem_cons_self, heq.symm, Option.some.inj h⟩
      · exact .inl h
    · exact .inr ⟨b, List.mem_cons_of_mem a hb, hkey⟩

theorem get_setAll_ne (d : Dict K V) (l : List α) {k : K} (h : ∀ a ∈ l, key a ≠ k) :
    (d.setAll key val l).get k = d.get k := by
  induction l generalizing d with
  | nil => rfl
  | cons a l ih =>
    refine (ih (d.set (key a) (val a)) fun b hb => h b (List.mem_cons_of_mem a hb)).trans ?_
    exact get_set_ne d (val a) (h a List.mem_cons_self).symm

theorem setAll_append (d : Dict K V) (l l' : List α) :
    d.setAll key val (l ++ l') = (d.setAll key val l).setAll key val l' := List.foldl_append

/-- The last element with a key decides its value. -/
theorem get_setAll_last (d : Dict K V) (before : List α) {a : α} {after : List α}
    (h : ∀ b ∈ after, key b ≠ key a) :
    (d.setAll key val (before ++ a :: after)).get (key a) = some (val a) := by
  rw [setAll_append]
  refine (get_setAll_ne ((d.setAll key val before).set (key a) (val a)) after h).trans ?_
  exact get_set_self _ (key a) (val a)

theorem get_setAll_old (d : Dict K V) (l : List α) {k : K} (h : (d.get k).isSome) :
    ((d.setAll key val l).get k).isSome := by
  induction l generalizing d with
  | nil => exact h
  | cons a l ih =>
    refine ih (d.set (key a) (val a)) ?_
    rw [get_set]
    split
    · rfl
    · exact h

theorem get_setAll_some (d : Dict K V) {l : List α} {a : α} (ha : a ∈ l) :
    ((d.setAll key val l).get (key a)).isSome := by
  obtain ⟨before, after, rfl⟩ := List.append_of_mem ha
  rw [setAll_append]
  refine get_setAll_old ((d.setAll key val before).set (key a) (val a)) after ?_
  rw [get_set_self]
  rfl

theorem get_fill_old {d : Dict K V} {k : K} {v : V} (k' : K) (v' : V) (h : d.get k = some v) :
    (d.fill k' v').get k = some v := by
  unfold fill
  split
  · exact h
  · rename_i hnone
    rw [get_set_ne d v', h]
    rintro rfl
    rw [h] at hnone
    exact hnone rfl

theorem get_fill_self (d : Dict K V) (k : K) (v : V) : ((d.fill k v).get k).isSome := by
  unfold fill
  split
  · assumption
  · rw [get_set_self]
    rfl

theorem get_fill_cases {d : Dict K V} {k k' : K} {v v' : V} (h : (d.fill k' v').get k = some v) :
    d.get k = some v ∨ k' = k ∧ v' = v := by
  unfold fill at h
  split at h
  · exact .inl h
  · rw [get_set] at h
    split at h
    · rename_i heq
      exact .inr ⟨heq.symm, Option.some.inj h⟩
    · exact .inl h

/-- What was there is kept. -/
theorem get_fillAll_old {d : Dict K V} (l : List α) {k : K} {v : V} (h : d.get k = some v) :
    (d.fillAll key val l).get k = some v := by
  induction l generalizing d with
  | nil => exact h
  | cons a l ih => exact ih (get_fill_old (key a) (val a) h)

theorem get_fillAll_cases {d : Dict K V} {l : List α} {k : K} {v : V}
    (h : (d.fillAll key val l).get k = some v) :
    d.get k = some v ∨ ∃ a ∈ l, key a = k ∧ val a = v := by
  induction l generalizing d with
  | nil => exact .inl h
  | cons a l ih =>
    rcases ih h with h | ⟨b, hb, hkey⟩
    · exact (get_fill_cases h).imp_right fun hkey => ⟨a, List.mem_cons_self, hkey⟩
    · exact .inr ⟨b, List.mem_cons_of_mem a hb, hkey⟩

theorem get_fillAll_some (d : Dict K V) {l : List α} {a : α} (ha : a ∈ l) :
    ((d.fillAll key val l).get (key a)).isSome := by
  obtain ⟨before, after, rfl⟩ := List.append_of_mem ha
  obtain ⟨v, hv⟩ :=
    Option.isSome_iff_exists.1 (get_fill_self (d.fillAll key val before) (key a) (val a))
  have happend : d.fillAll key val (before ++ a :: after) =
      ((d.fillAll key val before).fill (key a) (val a)).fillAll key val after := List.foldl_append
  rw [happend, get_fillAll_old after hv]
  rfl

end Many

end Dict

end Lib
