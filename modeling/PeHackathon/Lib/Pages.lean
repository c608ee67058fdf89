import Mathlib.Data.List.Sort

/-!
# Pages of a sorted list

A sort by a key leaves open how rows with one key follow each other (`SortOf`). Pages of `m` rows
are read one after the other, each from a list that such a sort has given. `pages_perm_iff`: they
make up the rows, each once, whatever lists the sorts give, just when no two rows on the two sides
of a bound between pages have one key.
-/

namespace Lib

variable {α κ : Type} [LinearOrder κ] {key : α → κ} {rows l l' : List α} {m : Nat}

/-- A list that a sort of `rows` by `key` may give. -/
structure SortOf (key : α → κ) (rows l : List α) : Prop where
  perm : l.Perm rows
  sorted : l.Pairwise fun a b => key a ≤ key b

/-- The keys in order. -/
def sortedKeys (key : α → κ) (rows : List α) : List κ := (rows.map key).insertionSort (· ≤ ·)

/-- No bound between pages of `m` rows has the same key on both sides. -/
def NoTies (key : α → κ) (rows : List α) (m : Nat) : Prop :=
  ∀ k, 0 < k → k * m < rows.length →
    (sortedKeys key rows)[k * m - 1]? ≠ (sortedKeys key rows)[k * m]?

/-- Page `k` of `m` rows, from 0. -/
def pageAt (m k : Nat) (l : List α) : List α := (l.drop (k * m)).take m

/-- The first `n` pages, each of a list of its own. -/
def pages (order : Nat → List α) (m : Nat) : Nat → List α
  | 0 => []
  | n + 1 => pages order m n ++ pageAt m n (order n)

/-! ## Sorts -/

theorem SortOf.keys (h : SortOf key rows l) : l.map key = sortedKeys key rows := by
  have hperm : (l.map key).Perm (sortedKeys key rows) :=
    (h.perm.map key).trans (List.perm_insertionSort _ _).symm
  have hsorted : (l.map key).Pairwise (· ≤ ·) := List.pairwise_map.2 h.sorted
  exact hperm.eq_of_pairwise' hsorted (List.pairwise_insertionSort _ _)

theorem sortedKeys_length (key : α → κ) (rows : List α) :
    (sortedKeys key rows).length = rows.length := by
  simp [sortedKeys]

theorem exists_sortOf (key : α → κ) (rows : List α) : ∃ l, SortOf key rows l :=
  ⟨rows.insertionSort fun a b => key a ≤ key b, List.perm_insertionSort _ _,
    haveI : Std.Total fun a b : α => key a ≤ key b := ⟨fun a b => le_total (key a) (key b)⟩
    haveI : IsTrans α fun a b : α => key a ≤ key b := ⟨fun _ _ _ => le_trans⟩
    List.pairwise_insertionSort _ _⟩

/-- The front part up to a bound with different keys: the rows with a key of that part. -/
theorem SortOf.filter_eq_take (h : SortOf key rows l) {b : Nat} {x y : κ}
    (hx : (sortedKeys key rows)[b]? = some x) (hy : (sortedKeys key rows)[b + 1]? = some y)
    (hxy : x ≠ y) : l.filter (fun a => key a ≤ x) = l.take (b + 1) := by
  rw [← h.keys] at hx hy
  rw [List.getElem?_map, Option.map_eq_some_iff] at hx hy
  obtain ⟨a, ha, rfl⟩ := hx
  obtain ⟨a', ha', rfl⟩ := hy
  have hsplit : l = l.take (b + 1) ++ l.drop (b + 1) := (List.take_append_drop _ _).symm
  have hfront : l.take (b + 1) = l.take b ++ [a] := by
    rw [List.take_add_one, ha]
    rfl
  have hback : l.drop (b + 1) = a' :: l.drop (b + 2) := by
    obtain ⟨hlt, hget⟩ := List.getElem?_eq_some_iff.1 ha'
    rw [List.drop_eq_getElem_cons hlt, hget]
  have hsorted := h.sorted
  rw [hsplit, List.pairwise_append] at hsorted
  obtain ⟨hleft, hright, hcross⟩ := hsorted
  have hlt : key a < key a' := by
    refine lt_of_le_of_ne (hcross a ?_ a' ?_) hxy
    · rw [hfront]
      exact List.mem_append_right _ (List.mem_singleton_self a)
    · rw [hback]
      exact List.mem_cons_self
  rw [hfront, List.pairwise_append] at hleft
  rw [hback, List.pairwise_cons] at hright
  conv_lhs => rw [hsplit]
  rw [List.filter_append, List.filter_eq_self.2, List.filter_eq_nil_iff.2, List.append_nil]
  · intro z hz
    rw [hback] at hz
    simp only [decide_eq_true_eq, not_le]
    rcases List.mem_cons.1 hz with rfl | hz
    · exact hlt
    · exact lt_of_lt_of_le hlt (hright.1 z hz)
  · intro z hz
    rw [hfront] at hz
    simp only [decide_eq_true_eq]
    rcases List.mem_append.1 hz with hz | hz
    · exact hleft.2.2 z hz a (List.mem_singleton_self a)
    · rw [List.mem_singleton.1 hz]

/-- Two sorts agree on what comes before a bound that is no tie. -/
theorem SortOf.take_perm (h : SortOf key rows l) (h' : SortOf key rows l')
    (hties : NoTies key rows m) (k : Nat) : (l.take (k * m)).Perm (l'.take (k * m)) := by
  by_cases hend : rows.length ≤ k * m
  · rw [List.take_of_length_le (by rw [h.perm.length_eq]; exact hend),
      List.take_of_length_le (by rw [h'.perm.length_eq]; exact hend)]
    exact h.perm.trans h'.perm.symm
  · cases hb : k * m with
    | zero => simp
    | succ b =>
      have hk : 0 < k := by
        refine Nat.pos_of_ne_zero fun hk => ?_
        rw [hk] at hb
        simp at hb
      have htie := hties k hk (by omega)
      rw [hb, Nat.add_sub_cancel] at htie
      have hlength := sortedKeys_length key rows
      obtain ⟨x, hx⟩ : ∃ x, (sortedKeys key rows)[b]? = some x :=
        ⟨_, List.getElem?_eq_getElem (by omega)⟩
      obtain ⟨y, hy⟩ : ∃ y, (sortedKeys key rows)[b + 1]? = some y :=
        ⟨_, List.getElem?_eq_getElem (by omega)⟩
      rw [hx, hy, ne_eq, Option.some.injEq] at htie
      rw [← h.filter_eq_take hx hy htie, ← h'.filter_eq_take hx hy htie]
      exact (h.perm.trans h'.perm.symm).filter _

/-! ## Pages without ties -/

theorem take_append_pageAt (l : List α) (m k : Nat) :
    l.take (k * m) ++ pageAt m k l = l.take ((k + 1) * m) := by
  rw [pageAt, Nat.succ_mul, List.take_add]

theorem pages_perm_take (hties : NoTies key rows m) {order : Nat → List α}
    (horder : ∀ k, SortOf key rows (order k)) (n : Nat) (hl : SortOf key rows l) :
    (pages order m n).Perm (l.take (n * m)) := by
  induction n generalizing l with
  | zero => simp [pages]
  | succ n ih =>
    have hfront :
        (pages order m n ++ pageAt m n (order n)).Perm ((order n).take ((n + 1) * m)) := by
      rw [← take_append_pageAt]
      exact (ih (horder n)).append_right _
    exact hfront.trans ((horder n).take_perm hl hties (n + 1))

/-! ## A tie -/

theorem pages_not_nodup {order : Nat → List α} {n k k' : Nat} {x : α} (hk : k < k') (hn : k' < n)
    (hx : x ∈ pageAt m k (order k)) (hx' : x ∈ pageAt m k' (order k')) :
    ¬ (pages order m n).Nodup := by
  have hmem : ∀ n, k < n → x ∈ pages order m n := by
    intro n hn
    induction n with
    | zero => omega
    | succ n ih =>
      rcases Nat.lt_succ_iff_lt_or_eq.1 hn with hn | rfl
      · exact List.mem_append_left _ (ih hn)
      · exact List.mem_append_right _ hx
  intro hnodup
  induction n with
  | zero => omega
  | succ n ih =>
    obtain ⟨hfront, -, hdisjoint⟩ := List.nodup_append.1 hnodup
    rcases Nat.lt_succ_iff_lt_or_eq.1 hn with hn | rfl
    · exact ih hn hfront
    · exact hdisjoint x (hmem _ hk) x hx' rfl

theorem mem_pageAt {k i : Nat} {x : α} (hlow : k * m ≤ i) (hhigh : i < (k + 1) * m)
    (hx : l[i]? = some x) :
    x ∈ pageAt m k l := by
  refine List.mem_iff_getElem?.2 ⟨i - k * m, ?_⟩
  rw [Nat.succ_mul] at hhigh
  rw [pageAt, List.getElem?_take_of_lt (by omega), List.getElem?_drop, Nat.add_sub_cancel' hlow]
  exact hx

/-- Two rows with one key may change places. -/
theorem SortOf.swap {front back : List α} {x y : α} (h : SortOf key rows (front ++ x :: y :: back))
    (hkey : key x = key y) : SortOf key rows (front ++ y :: x :: back) := by
  refine ⟨((List.Perm.swap x y back).append_left front).trans h.perm, ?_⟩
  have hmap := List.pairwise_map.2 h.sorted
  refine List.pairwise_map.1 ?_
  simp only [List.map_append, List.map_cons, hkey] at hmap ⊢
  exact hmap

/-- A tie at a bound can put a row on both of its pages. -/
theorem exists_pages_of_tie (hm : 0 < m) {k : Nat} (hk : 0 < k) (hlt : k * m < rows.length)
    (htie : (sortedKeys key rows)[k * m - 1]? = (sortedKeys key rows)[k * m]?) :
    ∃ order : Nat → List α, (∀ j, SortOf key rows (order j)) ∧
      ∀ n, k < n → ¬ (pages order m n).Nodup := by
  obtain ⟨l, hl⟩ := exists_sortOf key rows
  obtain ⟨b, hb⟩ : ∃ b, k * m = b + 1 :=
    ⟨k * m - 1, (Nat.succ_pred_eq_of_pos (Nat.mul_pos hk hm)).symm⟩
  have hlength := hl.perm.length_eq
  rw [hb] at hlt htie
  rw [Nat.add_sub_cancel, ← hl.keys, List.getElem?_map, List.getElem?_map,
    List.getElem?_eq_getElem (by omega), List.getElem?_eq_getElem (by omega)] at htie
  -- the two rows at the bound
  have hsplit : l = l.take b ++ l[b] :: l[b + 1] :: l.drop (b + 2) := by
    rw [← List.drop_eq_getElem_cons, ← List.drop_eq_getElem_cons, List.take_append_drop]
  have hkey : key l[b] = key l[b + 1] := Option.some.inj htie
  generalize hx : l[b] = x at hsplit hkey
  generalize l[b + 1] = y at hsplit hkey
  have hswap : SortOf key rows (l.take b ++ y :: x :: l.drop (b + 2)) := (hsplit ▸ hl).swap hkey
  refine ⟨fun j => if j = k then l.take b ++ y :: x :: l.drop (b + 2) else l, fun j => ?_,
    fun n hn => ?_⟩
  · dsimp only
    split
    · exact hswap
    · exact hl
  · refine pages_not_nodup (Nat.sub_lt hk Nat.one_pos) hn (x := x) ?_ ?_
    · rw [if_neg (by omega)]
      refine mem_pageAt (i := b) ?_ ?_ ?_
      · have : (k - 1) * m + m = k * m := by
          rw [← Nat.succ_mul, Nat.succ_eq_add_one, Nat.sub_add_cancel hk]
        omega
      · rw [Nat.sub_add_cancel hk]
        omega
      · rw [List.getElem?_eq_getElem (by omega), hx]
    · rw [if_pos rfl]
      refine mem_pageAt (i := b + 1) (by omega) ?_ ?_
      · rw [Nat.succ_mul]
        omega
      · have hfront : (l.take b).length = b := by
          rw [List.length_take]
          omega
        rw [List.getElem?_append_right (by omega), hfront]
        simp

/-! ## All pages -/

/-- **Pages make up the rows** whatever the sorts give just when no bound between pages is a tie. -/
theorem pages_perm_iff (hm : 0 < m) (hrows : rows.Nodup) :
    (∀ order : Nat → List α, (∀ k, SortOf key rows (order k)) →
      (pages order m ((rows.length + m - 1) / m)).Perm rows) ↔ NoTies key rows m := by
  constructor
  · intro h k hk hlt htie
    obtain ⟨order, horder, hnodup⟩ := exists_pages_of_tie hm hk hlt htie
    refine hnodup _ ?_ ((h order horder).nodup_iff.2 hrows)
    rw [Nat.lt_iff_add_one_le, Nat.le_div_iff_mul_le hm, Nat.succ_mul]
    omega
  · intro hties order horder
    obtain ⟨l, hl⟩ := exists_sortOf key rows
    have hall : rows.length ≤ (rows.length + m - 1) / m * m := by
      have hdiv := Nat.div_add_mod' (rows.length + m - 1) m
      have hmod := Nat.mod_lt (rows.length + m - 1) hm
      generalize (rows.length + m - 1) / m * m = whole at hdiv ⊢
      omega
    have hpages := pages_perm_take hties horder ((rows.length + m - 1) / m) hl
    rw [List.take_of_length_le (by rw [hl.perm.length_eq]; exact hall)] at hpages
    exact hpages.trans hl.perm

/-- Rows with distinct keys have no ties. -/
theorem noTies_of_nodup (hkeys : (rows.map key).Nodup) (hm : 0 < m) : NoTies key rows m := by
  intro k hk hlt htie
  have hpos := Nat.mul_pos hk hm
  have hnodup : (sortedKeys key rows).Nodup := (List.perm_insertionSort _ _).nodup_iff.2 hkeys
  have hlength := sortedKeys_length key rows
  rw [List.getElem?_eq_getElem (by omega), List.getElem?_eq_getElem (by omega), Option.some.injEq]
    at htie
  have := (hnodup.getElem_inj_iff).1 htie
  omega

end Lib
