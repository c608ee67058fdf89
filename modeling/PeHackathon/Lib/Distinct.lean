import Mathlib.Data.Finset.Card
import Mathlib.Data.Finset.Dedup
import Mathlib.Data.List.Sort
import Mathlib.Tactic.Common

/-!
# The first elements with distinct keys

`takeDistinct key limit l seen` goes through `l` and keeps the elements whose key is new, until
`limit` are kept. `seen` are the keys kept so far.
-/

namespace Lib

variable {α κ : Type} [DecidableEq κ]

def takeDistinct (key : α → κ) (limit : Nat) : List α → List κ → List α
  | [], _ => []
  | a :: rest, seen =>
    if key a ∈ seen then takeDistinct key limit rest seen
    else a :: if limit ≤ seen.length + 1 then [] else takeDistinct key limit rest (key a :: seen)

section TakeDistinct

variable (key : α → κ) {limit : Nat}

theorem takeDistinct_sublist (l : List α) (seen : List κ) :
    (takeDistinct key limit l seen).Sublist l := by
  induction l generalizing seen with
  | nil => exact .slnil
  | cons a rest ih =>
    unfold takeDistinct
    split
    · exact (ih seen).cons a
    · refine .cons_cons a ?_
      split
      · exact List.nil_sublist rest
      · exact ih (key a :: seen)

/-- No key is kept twice. -/
theorem takeDistinct_nodup (l : List α) {seen : List κ} (hseen : seen.Nodup) :
    (seen ++ (takeDistinct key limit l seen).map key).Nodup := by
  induction l generalizing seen with
  | nil => simpa [takeDistinct] using hseen
  | cons a rest ih =>
    unfold takeDistinct
    split
    · exact ih hseen
    · rename_i ha
      have hcons := List.nodup_cons.2 ⟨ha, hseen⟩
      split
      · rw [List.map_cons, List.map_nil]
        exact List.nodup_middle.2 (by simpa using hcons)
      · rw [List.map_cons]
        exact List.nodup_middle.2 (ih hcons)

theorem takeDistinct_length (l : List α) {seen : List κ} (h : seen.length < limit) :
    seen.length + (takeDistinct key limit l seen).length ≤ limit := by
  induction l generalizing seen with
  | nil => exact h.le
  | cons a rest ih =>
    unfold takeDistinct
    split
    · exact ih h
    · split
      · simp only [List.length_cons, List.length_nil]
        omega
      · rename_i hlt
        have hnext : (key a :: seen).length + _ ≤ limit :=
          ih (by simp only [List.length_cons]; omega)
        simp only [List.length_cons] at hnext ⊢
        omega

/-- **An element that is not kept** has the key of one that is, or comes after all that are, which
are as many as may be. -/
theorem takeDistinct_complete {l : List α} {seen : List κ} (h : seen.length < limit) {a : α}
    (ha : a ∈ l) :
    key a ∈ seen ++ (takeDistinct key limit l seen).map key ∨
      seen.length + (takeDistinct key limit l seen).length = limit ∧
        ∃ before after, l = before ++ a :: after ∧
          (takeDistinct key limit l seen).Sublist before := by
  induction l generalizing seen with
  | nil => cases ha
  | cons b rest ih =>
    unfold takeDistinct
    split
    · rename_i hb
      rcases List.mem_cons.1 ha with rfl | ha
      · exact .inl (List.mem_append_left _ hb)
      · refine (ih h ha).imp_right fun ⟨hlen, before, after, hrest, hsub⟩ => ?_
        exact ⟨hlen, b :: before, after, by rw [hrest]; rfl, hsub.cons b⟩
    · rcases List.mem_cons.1 ha with rfl | ha
      · exact .inl (by simp)
      · split
        · rename_i hlimit
          obtain ⟨before, after, hrest⟩ := List.append_of_mem ha
          refine .inr ⟨?_, b :: before, after, by rw [hrest]; rfl, ?_⟩
          · simp only [List.length_cons, List.length_nil]
            omega
          · exact .cons_cons b (List.nil_sublist before)
        · rename_i hlimit
          have hseen : (key b :: seen).length < limit := by
            simp only [List.length_cons]
            omega
          rcases ih hseen ha with hkey | ⟨hlen, before, after, hrest, hsub⟩
          · left
            simp only [List.cons_append, List.mem_cons, List.mem_append, List.map_cons] at hkey ⊢
            tauto
          · refine .inr ⟨?_, b :: before, after, by rw [hrest]; rfl, hsub.cons_cons b⟩
            simp only [List.length_cons] at hlen ⊢
            omega

/-- **The elements kept** are the first ones of the list without repeated keys. -/
theorem takeDistinct_eq_take {l : List α} {seen : List κ} (h : seen.length < limit) :
    takeDistinct key limit l seen =
      ((l.filter fun a => key a ∉ seen).eraseDupsBy fun a b => key a = key b).take
        (limit - seen.length) := by
  induction l generalizing seen with
  | nil => simp [takeDistinct]
  | cons a rest ih =>
    unfold takeDistinct
    by_cases ha : key a ∈ seen
    · rw [if_pos ha, ih h, List.filter_cons, if_neg (by simpa using ha)]
    · have hfilter : (rest.filter fun b => key b ∉ seen).filter
          (fun b => decide (decide (key b = key a) = false)) =
          rest.filter fun b => key b ∉ key a :: seen := by
        rw [List.filter_filter]
        refine List.filter_congr fun b _ => ?_
        by_cases hb : key b = key a <;> simp [hb]
      obtain ⟨n, hn⟩ : ∃ n, limit - seen.length = n + 1 := ⟨limit - seen.length - 1, by omega⟩
      have hkept : decide (key a ∉ seen) = true := by simpa using ha
      rw [if_neg ha, List.filter_cons, if_pos hkept, List.eraseDupsBy_cons, hfilter, hn,
        List.take_succ_cons]
      congr 1
      split
      · rw [show n = 0 by omega, List.take_zero]
      · rw [ih (by simp only [List.length_cons]; omega), List.length_cons, show limit -
          (seen.length + 1) = n by omega]

/-! ### Elements the walk reaches -/

/-- Fewer than `limit` keys stand before the element, counting those seen. -/
def Reaches (limit : Nat) (l : List α) (seen : List κ) (a : α) : Prop :=
  ∃ before after, l = before ++ a :: after ∧
    (seen.toFinset ∪ (before.map key).toFinset).card < limit

theorem Reaches.cons {l : List α} {seen : List κ} {a b : α}
    (h : Reaches key limit l (key b :: seen) a) :
    Reaches key limit (b :: l) seen a := by
  obtain ⟨before, after, rfl, hcard⟩ := h
  refine ⟨b :: before, after, rfl, ?_⟩
  rw [List.map_cons, List.toFinset_cons, Finset.union_insert]
  rwa [List.toFinset_cons, Finset.insert_union] at hcard

/-- What is kept is reached. -/
theorem reaches_of_mem {l : List α} {seen : List κ} {a : α} (hseen : seen.length < limit)
    (ha : a ∈ takeDistinct key limit l seen) : Reaches key limit l seen a := by
  induction l generalizing seen with
  | nil => cases ha
  | cons b rest ih =>
    unfold takeDistinct at ha
    split at ha
    · rename_i hb
      obtain ⟨before, after, rfl, hcard⟩ := ih hseen ha
      refine ⟨b :: before, after, rfl, ?_⟩
      rw [List.map_cons, List.toFinset_cons, Finset.union_insert,
        Finset.insert_eq_of_mem (Finset.mem_union_left _ (List.mem_toFinset.2 hb))]
      exact hcard
    · rcases List.mem_cons.1 ha with rfl | ha
      · refine ⟨[], rest, rfl, ?_⟩
        rw [List.map_nil, List.toFinset_nil, Finset.union_empty]
        exact lt_of_le_of_lt (List.toFinset_card_le seen) hseen
      · split at ha
        · cases ha
        · exact (ih (by simp only [List.length_cons]; omega) ha).cons

theorem Reaches.mem {l : List α} {seen : List κ} {a : α} (h : Reaches key limit l seen a) :
    a ∈ l := by
  obtain ⟨before, after, rfl, -⟩ := h
  exact List.mem_append_right _ List.mem_cons_self

/-- A list that is no longer than the limit is reached to its end. -/
theorem reaches_of_length {l : List α} {a : α} (ha : a ∈ l) (hlength : l.length ≤ limit) :
    Reaches key limit l [] a := by
  obtain ⟨before, after, rfl⟩ := List.append_of_mem ha
  refine ⟨before, after, rfl, ?_⟩
  rw [List.toFinset_nil, Finset.empty_union]
  refine (List.toFinset_card_le _).trans_lt ?_
  rw [List.length_append, List.length_cons] at hlength
  rw [List.length_map]
  omega

/-- What is reached has the key of an element that is kept. -/
theorem Reaches.kept {l : List α} {seen : List κ} {a : α} (hseen : seen.Nodup)
    (h : Reaches key limit l seen a) :
    key a ∈ seen ∨ ∃ r ∈ takeDistinct key limit l seen, key r = key a := by
  induction l generalizing seen with
  | nil =>
    obtain ⟨before, after, hl, -⟩ := h
    simp at hl
  | cons b rest ih =>
    obtain ⟨before, after, hl, hcard⟩ := h
    unfold takeDistinct
    cases before with
    | nil =>
      obtain ⟨rfl, rfl⟩ := List.cons.inj hl
      by_cases hb : key b ∈ seen
      · exact .inl hb
      · rw [if_neg hb]
        exact .inr ⟨b, List.mem_cons_self, rfl⟩
    | cons b' before =>
      obtain ⟨rfl, rfl⟩ := List.cons.inj hl
      rw [List.map_cons, List.toFinset_cons, Finset.union_insert] at hcard
      by_cases hb : key b ∈ seen
      · rw [if_pos hb]
        rw [Finset.insert_eq_of_mem (Finset.mem_union_left _ (List.mem_toFinset.2 hb))] at hcard
        exact ih hseen ⟨before, after, rfl, hcard⟩
      · rw [if_neg hb]
        have hnodup : (key b :: seen).Nodup := List.nodup_cons.2 ⟨hb, hseen⟩
        rw [← Finset.insert_union, ← List.toFinset_cons] at hcard
        have hlen : (key b :: seen).length < limit := by
          rw [← List.toFinset_card_of_nodup hnodup]
          exact lt_of_le_of_lt (Finset.card_le_card Finset.subset_union_left) hcard
        rw [if_neg (by simp only [List.length_cons] at hlen; omega)]
        rcases ih hnodup ⟨before, after, rfl, hcard⟩ with hmem | ⟨r, hr, hkey⟩
        · rcases List.mem_cons.1 hmem with heq | hmem
          · exact .inr ⟨b, List.mem_cons_self, heq.symm⟩
          · exact .inl hmem
        · exact .inr ⟨r, List.mem_cons_of_mem _ hr, hkey⟩

/-- The keys that are kept are those that are reached. -/
theorem mem_keys_takeDistinct {l : List α} {a : α} (hlimit : 0 < limit) :
    key a ∈ (takeDistinct key limit l []).map key ↔
      ∃ b, Reaches key limit l [] b ∧ key b = key a := by
  rw [List.mem_map]
  constructor
  · rintro ⟨b, hb, hkey⟩
    exact ⟨b, reaches_of_mem key hlimit hb, hkey⟩
  · rintro ⟨b, hreach, hkey⟩
    obtain hnone | ⟨r, hr, hrb⟩ := hreach.kept key List.nodup_nil
    · cases hnone
    · exact ⟨r, hr, hrb.trans hkey⟩

/-- As many are kept as may be exactly if there are as many keys. -/
theorem takeDistinct_full {l : List α} (hlimit : 0 < limit) :
    (takeDistinct key limit l []).length = limit ↔ limit ≤ (l.map key).toFinset.card := by
  have hnodup : ([] ++ (takeDistinct key limit l []).map key).Nodup :=
    takeDistinct_nodup key l List.nodup_nil
  rw [List.nil_append] at hnodup
  have hempty : ([] : List κ).length < limit := hlimit
  have hcard := List.toFinset_card_of_nodup hnodup
  rw [List.length_map] at hcard
  constructor
  · intro hlength
    rw [← hlength, ← hcard]
    refine Finset.card_le_card fun k hk => ?_
    rw [List.mem_toFinset] at hk ⊢
    exact ((takeDistinct_sublist key l []).map key).subset hk
  · intro hle
    have hlength := takeDistinct_length key l hempty
    rw [List.length_nil, Nat.zero_add] at hlength
    by_contra hne
    have hsub : (l.map key).toFinset ⊆ ((takeDistinct key limit l []).map key).toFinset := by
      intro k hk
      rw [List.mem_toFinset] at hk ⊢
      obtain ⟨a, ha, rfl⟩ := List.mem_map.1 hk
      obtain hkey | ⟨hfull, -⟩ := takeDistinct_complete key hempty ha
      · exact hkey
      · rw [List.length_nil, Nat.zero_add] at hfull
        exact absurd hfull hne
    have hkeys := Finset.card_le_card hsub
    omega

end TakeDistinct

/-! ## Stable sorts -/

/-- A sort by a key, the greatest first, leaves the elements of one key in their order. -/
theorem insertionSort_filter_key {κ : Type} [LinearOrder κ] (key : α → κ) (l : List α) (k : κ) :
    (l.insertionSort fun a b => key b ≤ key a).filter (key · = k) = l.filter (key · = k) := by
  have : Std.Total fun a b : α => key b ≤ key a := ⟨fun a b => le_total (key b) (key a)⟩
  have : IsTrans α fun a b => key b ≤ key a := ⟨fun _ _ _ hab hbc => le_trans hbc hab⟩
  have hequal : (l.filter (key · = k)).Pairwise fun a b => key b ≤ key a := by
    refine List.pairwise_of_forall_mem_list fun a ha b hb => ?_
    have hak : key a = k := by simpa using (List.mem_filter.1 ha).2
    have hbk : key b = k := by simpa using (List.mem_filter.1 hb).2
    rw [hak, hbk]
  have hsub := (List.sublist_insertionSort hequal List.filter_sublist).filter (key · = k)
  rw [List.filter_filter] at hsub
  simp only [Bool.and_self] at hsub
  refine (hsub.eq_of_length ?_).symm
  exact ((List.perm_insertionSort (fun a b => key b ≤ key a) l).filter _).length_eq.symm

/-! ## Lists by key -/

section ByKey

variable (key : α → κ) {l l' : List α}

/-- Lists that have the same at every key. -/
theorem perm_of_filter_key (h : ∀ k, l.filter (key · = k) = l'.filter (key · = k)) : l.Perm l' := by
  classical
  refine List.perm_iff_count.2 fun a => ?_
  have hcount : ∀ l : List α, l.count a = (l.filter (key · = key a)).count a :=
    fun l => (List.count_filter (by simp)).symm
  rw [hcount l, hcount l', h]

/-- Where the keys are distinct, the order of a list does not show at one key. -/
theorem filter_key_of_perm {key : α → κ} (hkeys : (l.map key).Nodup) (h : l.Perm l') (k : κ) :
    l.filter (key · = k) = l'.filter (key · = k) := by
  have hperm := h.filter (key · = k)
  have hnodup : ((l.filter (key · = k)).map key).Nodup :=
    hkeys.sublist (List.filter_sublist.map key)
  have hkey : ∀ a ∈ l.filter (key · = k), key a = k := fun a ha => by
    simpa using (List.mem_filter.1 ha).2
  generalize l.filter (key · = k) = m at hperm hnodup hkey
  match m with
  | [] => exact (List.nil_perm.1 hperm).symm
  | [a] => exact List.singleton_perm.1 hperm
  | a :: b :: m =>
    have hab : key a ∉ (b :: m).map key := (List.nodup_cons.1 hnodup).1
    refine absurd ?_ hab
    rw [hkey a (by simp), ← hkey b (by simp)]
    simp

end ByKey

end Lib
