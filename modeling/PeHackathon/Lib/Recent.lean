import Mathlib.Data.List.Nodup
import Mathlib.Data.List.Pairwise
import Mathlib.Tactic.Common

/-!
# The latest entries of a log

Who looks at a log when it has `k` entries sees the latest `n` of them (`latest n l k`, the newest
first). One who looks now and then, and announces what it has not seen before (`Notices`), announces
no entry twice, and of the entries that its first look did not show just those that a later look
shows (`announces_iff`): none that is older than the first look unless a look is older than the
first (`announced_late`), and all since then if no look comes more than `n` entries after the one
before (`announces_all`).
-/

namespace Lib

variable {α κ : Type}

/-! ## Looks -/

/-- The latest `n` of the first `k` entries, the newest first. -/
def latest (n : Nat) (l : List α) (k : Nat) : List α := (l.take k).reverse.take n

section Latest

variable {n k : Nat} {l : List α} {a : α}

/-- The entry at `i` is among the latest `n` of `k`. -/
def Within (n i k : Nat) : Prop := i < k ∧ k ≤ i + n

instance (n i k : Nat) : Decidable (Within n i k) := inferInstanceAs (Decidable (_ ∧ _))

theorem mem_drop_take {k₀ : Nat} :
    a ∈ (l.take k).drop k₀ ↔ ∃ i, k₀ ≤ i ∧ i < k ∧ l[i]? = some a := by
  rw [List.mem_iff_getElem?]
  simp only [List.getElem?_drop, List.getElem?_take]
  constructor
  · rintro ⟨j, hj⟩
    split at hj
    · exact ⟨k₀ + j, Nat.le_add_right k₀ j, by assumption, hj⟩
    · cases hj
  · rintro ⟨i, hle, hlt, hi⟩
    refine ⟨i - k₀, ?_⟩
    rw [Nat.add_sub_cancel' hle, if_pos hlt]
    exact hi

theorem mem_latest (hk : k ≤ l.length) : a ∈ latest n l k ↔ ∃ i, Within n i k ∧ l[i]? = some a := by
  unfold latest Within
  rw [List.take_reverse, List.mem_reverse, List.length_take, Nat.min_eq_left hk, mem_drop_take]
  refine exists_congr fun i => ?_
  rw [← and_assoc]
  refine and_congr_left fun _ => ?_
  omega

theorem mem_of_mem_latest (h : a ∈ latest n l k) : a ∈ l :=
  List.mem_of_mem_take (List.mem_reverse.1 (List.mem_of_mem_take h))

theorem latest_append (hk : k ≤ l.length) (more : List α) :
    latest n (l ++ more) k = latest n l k := by
  unfold latest
  rw [List.take_append_of_le_length hk]

theorem latest_map {β : Type} (f : α → β) (l : List α) :
    latest n (l.map f) k = (latest n l k).map f := by
  unfold latest
  rw [List.map_take, List.map_reverse, List.map_take]

theorem latest_length (l : List α) : latest n l l.length = l.reverse.take n := by
  unfold latest
  rw [List.take_length]

/-- One more entry. -/
theorem latest_concat (l : List α) (a : α) :
    latest n (l ++ [a]) (l ++ [a]).length = (a :: latest n l l.length).take n := by
  rw [latest_length, latest_length, List.reverse_append, List.reverse_singleton,
    List.singleton_append]
  cases n with
  | zero => rfl
  | succ n =>
    rw [List.take_succ_cons, List.take_succ_cons, List.take_take, Nat.min_eq_left (Nat.le_succ n)]

end Latest

/-! ## Announcements -/

/-- The keys that were seen, and what was announced. -/
structure Notices (α κ : Type) where
  seen : List κ
  raised : List α

/-- What holds when the keys `known` were seen first, and the entries `met` since. -/
structure Notices.Fresh (key : α → κ) (known : List κ) (met : List α) (c : Notices α κ) : Prop where
  seen : ∀ k, k ∈ c.seen ↔ k ∈ known ∨ k ∈ c.raised.map key
  nodup : (c.raised.map key).Nodup
  new : ∀ a ∈ c.raised, a ∈ met ∧ key a ∉ known
  all : ∀ a ∈ met, key a ∈ known ∨ key a ∈ c.raised.map key

theorem Notices.Fresh.start (key : α → κ) {c : Notices α κ} {known : List κ}
    (hseen : ∀ k, k ∈ c.seen ↔ k ∈ known) (hraised : c.raised = []) : c.Fresh key known [] where
  seen k := by rw [hseen k, hraised]; simp
  nodup := by rw [hraised]; exact List.nodup_nil
  new a ha := by rw [hraised] at ha; cases ha
  all _ ha := absurd ha List.not_mem_nil

section Notices

variable [DecidableEq κ] (key : α → κ)

/-- One entry: announced if its key is new. -/
def Notices.meet (c : Notices α κ) (a : α) : Notices α κ :=
  if key a ∈ c.seen then c else ⟨key a :: c.seen, c.raised ++ [a]⟩

/-- A look: its entries one after the other. -/
def Notices.look (c : Notices α κ) (shown : List α) : Notices α κ :=
  shown.foldl (Notices.meet key) c

variable {key}

theorem Notices.Fresh.meet {known : List κ} {met : List α} {c : Notices α κ}
    (h : c.Fresh key known met) (a : α) :
    (c.meet key a).Fresh key known (met ++ [a]) := by
  unfold Notices.meet
  split
  · next hseen =>
    refine ⟨h.seen, h.nodup, fun b hb => ⟨List.mem_append_left _ (h.new b hb).1, (h.new b hb).2⟩,
      fun b hb => ?_⟩
    rcases List.mem_append.1 hb with hb | hb
    · exact h.all b hb
    · rw [List.mem_singleton.1 hb]
      exact (h.seen (key a)).1 hseen
  · next hseen =>
    have hnew := mt (h.seen (key a)).2 hseen
    rw [not_or] at hnew
    refine ⟨fun k => ?_, ?_, fun b hb => ?_, fun b hb => ?_⟩
    · rw [List.map_append, List.mem_append, List.mem_cons, h.seen k, List.map_singleton,
        List.mem_singleton]
      tauto
    · rw [List.map_append, List.map_singleton, List.nodup_append_comm]
      exact List.nodup_cons.2 ⟨hnew.2, h.nodup⟩
    · rcases List.mem_append.1 hb with hb | hb
      · exact ⟨List.mem_append_left _ (h.new b hb).1, (h.new b hb).2⟩
      · rw [List.mem_singleton.1 hb]
        exact ⟨List.mem_append_right _ (List.mem_singleton_self a), hnew.1⟩
    · rw [List.map_append, List.mem_append]
      rcases List.mem_append.1 hb with hb | hb
      · exact (h.all b hb).imp_right .inl
      · rw [List.mem_singleton.1 hb]
        exact .inr (.inr (List.mem_singleton_self _))

theorem Notices.Fresh.look {known : List κ} {met : List α} {c : Notices α κ}
    (h : c.Fresh key known met) (shown : List α) :
    (c.look key shown).Fresh key known (met ++ shown) := by
  induction shown generalizing c met with
  | nil => rwa [List.append_nil]
  | cons a shown ih =>
    have hrest := ih (h.meet a)
    rwa [List.append_assoc, List.singleton_append] at hrest

end Notices

/-! ## A log that is looked at -/

section Log

variable {key : α → κ} {n k₀ i : Nat} {l : List α} {ks : List Nat} {c : Notices α κ}

/-- **What is announced**: what a later look shows and the first did not. -/
theorem Notices.announces_iff (h : c.Fresh key ((latest n l k₀).map key) (ks.flatMap (latest n l)))
    (hnodup : (l.map key).Nodup) (hk₀ : k₀ ≤ l.length) (hks : ∀ k ∈ ks, k ≤ l.length)
    (hi : i < l.length) :
    l[i] ∈ c.raised ↔ (∃ k ∈ ks, Within n i k) ∧ ¬ Within n i k₀ := by
  have hindex : ∀ {j : Nat} {a : α}, l[j]? = some a → key a = key l[i] → j = i := by
    intro j a hj hkey
    obtain ⟨hlt, rfl⟩ := List.getElem?_eq_some_iff.1 hj
    have hj' : j < (l.map key).length := by rwa [List.length_map]
    have hi' : i < (l.map key).length := by rwa [List.length_map]
    have hgets : (l.map key)[j] = (l.map key)[i] := by simpa using hkey
    exact hnodup.getElem_inj_iff.1 hgets
  have hwithin :
      ∀ {k : Nat}, k ≤ l.length → (key l[i] ∈ (latest n l k).map key ↔ Within n i k) := by
    intro k hk
    rw [List.mem_map]
    constructor
    · rintro ⟨a, ha, hkey⟩
      obtain ⟨j, hj, hget⟩ := (mem_latest hk).1 ha
      exact hindex hget hkey ▸ hj
    · exact fun hin => ⟨l[i], (mem_latest hk).2 ⟨i, hin, List.getElem?_eq_getElem hi⟩, rfl⟩
  have hlook : l[i] ∈ ks.flatMap (latest n l) ↔ ∃ k ∈ ks, Within n i k := by
    rw [List.mem_flatMap]
    refine exists_congr fun k => and_congr_right fun hk => ?_
    exact ⟨fun hmem => (hwithin (hks k hk)).1 (List.mem_map_of_mem hmem),
      fun hin => (mem_latest (hks k hk)).2 ⟨i, hin, List.getElem?_eq_getElem hi⟩⟩
  constructor
  · intro hraised
    obtain ⟨hmet, hnew⟩ := h.new _ hraised
    exact ⟨hlook.1 hmet, mt (hwithin hk₀).2 hnew⟩
  · rintro ⟨hshown, hfirst⟩
    rcases h.all _ (hlook.2 hshown) with hknown | hraised
    · exact absurd ((hwithin hk₀).1 hknown) hfirst
    · -- what was announced under its key is the entry itself
      obtain ⟨a, ha, hkey⟩ := List.mem_map.1 hraised
      obtain ⟨k, hk, hmem⟩ := List.mem_flatMap.1 (h.new a ha).1
      obtain ⟨j, -, hget⟩ := (mem_latest (hks k hk)).1 hmem
      obtain ⟨hlt, rfl⟩ := List.getElem?_eq_some_iff.1 hget
      cases hindex hget hkey
      exact ha

/-- What a later look shows, and the first did not, is new since the first. -/
theorem announced_late (hlater : ∀ k ∈ ks, k₀ ≤ k)
    (h : (∃ k ∈ ks, Within n i k) ∧ ¬ Within n i k₀) : k₀ ≤ i := by
  obtain ⟨⟨k, hk, hin⟩, hnot⟩ := h
  have := hlater k hk
  unfold Within at hin hnot
  omega

/-- Looks that miss nothing, the first when there are `k₀` entries: none comes more than `n` entries
after the one before. -/
def Gapless (n : Nat) : Nat → List Nat → Prop
  | _, [] => True
  | k₀, k :: ks => k ≤ k₀ + n ∧ Gapless n k ks

/-- Where looks miss nothing, every entry since the first is shown up to the last. -/
theorem announces_all (hgap : Gapless n k₀ ks) (hi : k₀ ≤ i)
    (hlast : i < (k₀ :: ks).getLast (List.cons_ne_nil _ _)) :
    (∃ k ∈ ks, Within n i k) ∧ ¬ Within n i k₀ := by
  refine ⟨?_, fun h => by have := h.1; omega⟩
  induction ks generalizing k₀ with
  | nil => exact absurd hlast (Nat.not_lt.2 hi)
  | cons k ks ih =>
    obtain ⟨hk, hgap⟩ := hgap
    rw [List.getLast_cons_cons] at hlast
    by_cases hlt : i < k
    · exact ⟨k, List.mem_cons_self, hlt, by omega⟩
    · obtain ⟨k', hk', hin⟩ := ih hgap (Nat.not_lt.1 hlt) hlast
      exact ⟨k', List.mem_cons_of_mem k hk', hin⟩

/-- **Looks in order that miss nothing** announce what was appended between the first and the
last. -/
theorem Notices.announces_between
    (h : c.Fresh key ((latest n l k₀).map key) (ks.flatMap (latest n l)))
    (hnodup : (l.map key).Nodup) (hks : ∀ k ∈ k₀ :: ks, k ≤ l.length)
    (hsorted : (k₀ :: ks).Pairwise (· ≤ ·)) (hgap : Gapless n k₀ ks) :
    c.raised.Perm ((l.take ((k₀ :: ks).getLast (List.cons_ne_nil _ _))).drop k₀) := by
  have hk₀ := hks k₀ List.mem_cons_self
  have hlater : ∀ k ∈ ks, k ≤ l.length := fun k hk => hks k (List.mem_cons_of_mem k₀ hk)
  have hraised : c.raised.Nodup := h.nodup.of_map key
  have hbetween : ∀ k, ((l.take k).drop k₀).Nodup := fun k =>
    (hnodup.of_map key).sublist ((List.drop_sublist k₀ (l.take k)).trans (List.take_sublist k l))
  refine (List.perm_ext_iff_of_nodup hraised (hbetween _)).2 fun a => ?_
  rw [mem_drop_take]
  constructor
  · intro ha
    obtain ⟨k, hk, hmem⟩ := List.mem_flatMap.1 (h.new a ha).1
    obtain ⟨i, hin, hi⟩ := (mem_latest (hlater k hk)).1 hmem
    obtain ⟨hlt, rfl⟩ := List.getElem?_eq_some_iff.1 hi
    have hdue := (Notices.announces_iff h hnodup hk₀ hlater hlt).1 ha
    have hlast := hsorted.rel_getLast (List.mem_cons_of_mem k₀ hk)
    exact ⟨i, announced_late (fun k hk => List.rel_of_pairwise_cons hsorted hk) hdue,
      Nat.lt_of_lt_of_le hin.1 hlast, hi⟩
  · rintro ⟨i, hle, hlt, hi⟩
    obtain ⟨hlen, rfl⟩ := List.getElem?_eq_some_iff.1 hi
    exact (Notices.announces_iff h hnodup hk₀ hlater hlen).2 (announces_all hgap hle hlt)

end Log

end Lib
