import Mathlib.Tactic.Common

/-!
# Loops

A loop whose turns touch only what belongs to their own element (`foldl_untouched`, `foldl_once`), a
run whose steps all meet a condition (`Throughout`), and what held of the last elements of a list
(`Lately`).
-/

namespace Lib

variable {α β κ σ : Type}

section Frame

variable {f : σ → α → σ} {view : σ → β} {key : α → κ} {l : List α}

/-- What no turn changes, the loop does not change. -/
theorem foldl_untouched (hframe : ∀ s, ∀ a ∈ l, view (f s a) = view s) (s : σ) :
    view (l.foldl f s) = view s := by
  induction l generalizing s with
  | nil => rfl
  | cons a l ih =>
    rw [List.foldl_cons, ih (fun s b hb => hframe s b (List.mem_cons_of_mem a hb))]
    exact hframe s a List.mem_cons_self

/-- What only the turn of `a` changes, the loop changes as that turn does. -/
theorem foldl_once {a : α} (hframe : ∀ s, ∀ b ∈ l, key b ≠ key a → view (f s b) = view s)
    (hnodup : (l.map key).Nodup) (ha : a ∈ l) (s : σ) :
    ∃ s', view s' = view s ∧ view (l.foldl f s) = view (f s' a) := by
  induction l generalizing s with
  | nil => exact absurd ha List.not_mem_nil
  | cons b l ih =>
    rw [List.map_cons, List.nodup_cons] at hnodup
    have hframe' : ∀ s, ∀ c ∈ l, key c ≠ key a → view (f s c) = view s :=
      fun s c hc => hframe s c (List.mem_cons_of_mem b hc)
    rw [List.foldl_cons]
    rcases List.mem_cons.1 ha with rfl | ha
    · refine ⟨s, rfl, foldl_untouched (fun s c hc => hframe' s c hc fun hkey => ?_) (f s a)⟩
      exact hnodup.1 (List.mem_map.2 ⟨c, hc, hkey⟩)
    · obtain ⟨s', hs', hl⟩ := ih hframe' hnodup.2 ha (f s b)
      have hkey : key b ≠ key a := fun hkey => hnodup.1 (List.mem_map.2 ⟨a, ha, hkey.symm⟩)
      exact ⟨s', hs'.trans (hframe s b List.mem_cons_self hkey), hl⟩

end Frame

/-! ## Conditions on every step -/

/-- Every step of a run meets `P`, in the state before it. -/
def Throughout (P : σ → α → Prop) (f : σ → α → σ) : σ → List α → Prop
  | _, [] => True
  | s, a :: l => P s a ∧ Throughout P f (f s a) l

section Keeps

variable {P : σ → α → Prop} {f : σ → α → σ} {s : σ}

/-- What such steps preserve holds at the end; it may speak of the steps so far. -/
theorem Throughout.keeps_with {I : List α → σ → Prop}
    (hstep : ∀ older s a, I older s → P s a → I (older ++ [a]) (f s a)) {older l : List α}
    (h : I older s) (hP : Throughout P f s l) : I (older ++ l) (l.foldl f s) := by
  induction l generalizing older s with
  | nil =>
    rw [List.append_nil]
    exact h
  | cons a l ih =>
    have hrest := ih (hstep older s a h hP.1) hP.2
    rw [List.append_assoc] at hrest
    exact hrest

theorem Throughout.keeps {I : σ → Prop} (hstep : ∀ s a, I s → P s a → I (f s a))
    {l : List α} (h : I s) (hP : Throughout P f s l) : I (l.foldl f s) := by
  induction l generalizing s with
  | nil => exact h
  | cons a l ih => exact ih (hstep s a h hP.1) hP.2

/-- A run meets `P` throughout if an invariant says so of each step it takes. -/
theorem Throughout.of_invariant {I : σ → Prop} {good : α → Prop}
    (hstep : ∀ s a, I s → good a → P s a ∧ I (f s a)) {l : List α} (h : I s)
    (hl : ∀ a ∈ l, good a) :
    Throughout P f s l := by
  induction l generalizing s with
  | nil => trivial
  | cons a l ih =>
    obtain ⟨ha, hl⟩ := List.forall_mem_cons.1 hl
    obtain ⟨hP, hnext⟩ := hstep s a h ha
    exact ⟨hP, ih hnext hl⟩

end Keeps

/-! ## The last elements -/

/-- `P` held of the last `n` elements. -/
def Lately (P : α → Prop) (n : Nat) (l : List α) : Prop :=
  ∃ older recent, l = older ++ recent ∧ recent.length = n ∧ ∀ a ∈ recent, P a

namespace Lately

variable {P : α → Prop} {m n : Nat} {l : List α} {a : α}

theorem zero (l : List α) : Lately P 0 l :=
  ⟨l, [], (List.append_nil l).symm, rfl, fun _ h => absurd h List.not_mem_nil⟩

theorem snoc (h : Lately P n l) (ha : P a) : Lately P (n + 1) (l ++ [a]) := by
  obtain ⟨older, recent, rfl, rfl, hrecent⟩ := h
  refine ⟨older, recent ++ [a], List.append_assoc _ _ _, List.length_append, fun b hb => ?_⟩
  rcases List.mem_append.1 hb with hb | hb
  · exact hrecent b hb
  · rw [List.mem_singleton.1 hb]
    exact ha

theorem of_snoc (h : Lately P (n + 1) (l ++ [a])) : P a ∧ Lately P n l := by
  obtain ⟨older, recent, hl, hlen, hrecent⟩ := h
  have hne : recent ≠ [] := by
    rintro rfl
    cases hlen
  obtain ⟨recent, b, rfl⟩ := (List.eq_nil_or_concat recent).resolve_left hne
  rw [List.concat_eq_append] at hl hlen hrecent
  rw [← List.append_assoc] at hl
  obtain ⟨rfl, hb⟩ := List.append_inj' hl rfl
  obtain rfl : a = b := List.singleton_inj.1 hb
  refine ⟨hrecent a (List.mem_append_right _ (List.mem_singleton_self a)), older, recent,
    rfl, ?_, ?_⟩
  · simpa using hlen
  · intro c hc
    exact hrecent c (List.mem_append_left _ hc)

theorem mono (h : Lately P n l) (hm : m ≤ n) : Lately P m l := by
  obtain ⟨older, recent, rfl, rfl, hrecent⟩ := h
  refine ⟨older ++ recent.take (recent.length - m), recent.drop (recent.length - m), ?_, ?_, ?_⟩
  · rw [List.append_assoc, List.take_append_drop]
  · rw [List.length_drop]
    omega
  · intro b hb
    exact hrecent b (List.mem_of_mem_drop hb)

end Lately

end Lib
