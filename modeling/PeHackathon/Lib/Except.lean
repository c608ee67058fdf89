import Mathlib.Tactic.Common

/-!
# Computations that may raise

Rules for `Except`: a sequence returns if its parts do, and a loop returns if every turn does.
-/

namespace Lib

variable {ε α β σ : Type}

theorem bind_ok {x : Except ε α} {f : α → Except ε β} {b : β} :
    (x >>= f) = .ok b ↔ ∃ a, x = .ok a ∧ f a = .ok b := by
  cases x with
  | error err => exact ⟨fun h => (nomatch h), fun ⟨_, ha, _⟩ => (nomatch ha)⟩
  | ok a => exact ⟨fun h => ⟨a, rfl, h⟩, fun ⟨_, ha, hf⟩ => Except.ok.inj ha ▸ hf⟩

/-- A list is mapped element by element. -/
theorem mapM_ok {f : α → Except ε β} {l : List α} {bs : List β} :
    l.mapM f = .ok bs ↔ List.Forall₂ (fun a b => f a = .ok b) l bs := by
  induction l generalizing bs with
  | nil =>
    rw [List.mapM_nil]
    constructor
    · intro h
      cases h
      exact .nil
    · intro h
      cases h
      rfl
  | cons a l ih =>
    rw [List.mapM_cons, bind_ok]
    constructor
    · rintro ⟨b, hb, h⟩
      obtain ⟨bs', hbs, h⟩ := bind_ok.1 h
      obtain rfl : b :: bs' = bs := Except.ok.inj h
      exact .cons hb (ih.1 hbs)
    · intro h
      cases h with
      | cons hb hbs => exact ⟨_, hb, bind_ok.2 ⟨_, ih.2 hbs, rfl⟩⟩

theorem mapM_returns {f : α → Except ε β} {l : List α} :
    (∃ bs, l.mapM f = .ok bs) ↔ ∀ a ∈ l, ∃ b, f a = .ok b := by
  simp only [mapM_ok]
  induction l with
  | nil => exact ⟨fun _ a ha => absurd ha List.not_mem_nil, fun _ => ⟨[], .nil⟩⟩
  | cons a l ih =>
    rw [List.forall_mem_cons, ← ih]
    constructor
    · rintro ⟨bs, h⟩
      cases h with
      | cons hb hbs => exact ⟨⟨_, hb⟩, _, hbs⟩
    · rintro ⟨⟨b, hb⟩, bs, hbs⟩
      exact ⟨b :: bs, .cons hb hbs⟩

section Loop

variable {step : σ → α → Except ε σ} {l : List α} {s s' : σ}

/-- What every turn preserves, the loop preserves. -/
theorem foldlM_invariant {I : σ → Prop}
    (hstep : ∀ s a s', a ∈ l → I s → step s a = .ok s' → I s') (hs : I s)
    (h : l.foldlM step s = .ok s') : I s' := by
  induction l generalizing s with
  | nil => exact Except.ok.inj h ▸ hs
  | cons a l ih =>
    rw [List.foldlM_cons] at h
    obtain ⟨next, hnext, hrest⟩ := bind_ok.1 h
    refine ih (fun s b s' hb => hstep s b s' (List.mem_cons_of_mem a hb)) ?_ hrest
    exact hstep s a next List.mem_cons_self hs hnext

/-- **A loop returns** exactly if every turn does, where the invariant decides which turns do. -/
theorem foldlM_returns {I : σ → Prop} {good : α → Prop}
    (hgood : ∀ s a, I s → ((∃ s', step s a = .ok s') ↔ good a))
    (hstep : ∀ s a s', I s → step s a = .ok s' → I s') (hs : I s) :
    (∃ s', l.foldlM step s = .ok s') ↔ ∀ a ∈ l, good a := by
  induction l generalizing s with
  | nil => exact ⟨fun _ a ha => absurd ha List.not_mem_nil, fun _ => ⟨s, rfl⟩⟩
  | cons a l ih =>
    rw [List.forall_mem_cons]
    constructor
    · rintro ⟨s', h⟩
      rw [List.foldlM_cons] at h
      obtain ⟨next, hnext, hrest⟩ := bind_ok.1 h
      exact ⟨(hgood s a hs).1 ⟨next, hnext⟩, (ih (hstep s a next hs hnext)).1 ⟨s', hrest⟩⟩
    · rintro ⟨ha, hl⟩
      obtain ⟨next, hnext⟩ := (hgood s a hs).2 ha
      obtain ⟨s', hrest⟩ := (ih (hstep s a next hs hnext)).2 hl
      refine ⟨s', ?_⟩
      rw [List.foldlM_cons]
      exact bind_ok.2 ⟨next, hnext, hrest⟩

end Loop

end Lib
