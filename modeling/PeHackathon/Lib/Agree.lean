import PeHackathon.Lib.Prog

/-!
# Two programs side by side

`Server.Agree` relates the runs of two programs that run alone on one server, each in its own world:
both end, with results and worlds that `post` relates, or neither ends.
-/

namespace Lib.Server

variable {Q : Type} {R : Q → Type} {ι C W : Type} {α β γ δ : Type}

def Agree (S : Server R ι C W) (i : ι) (c : C) (p : Prog R α) (p' : Prog R β)
    (post : α → W → β → W → Prop) (w v : W) : Prop :=
  match S.eval i c p w, S.eval i c p' v with
  | some (a, w'), some (b, v') => post a w' b v'
  | none, none => True
  | _, _ => False

variable {S : Server R ι C W} {i : ι} {c : C} {p : Prog R α} {p' : Prog R β}
  {f : α → Prog R γ} {f' : β → Prog R δ} {w v w₁ v₁ : W}

theorem agree_ret {post : α → W → β → W → Prop} {a : α} {b : β} :
    S.Agree i c (.ret a) (.ret b) post w v ↔ post a w b v := Iff.rfl

theorem agree_mono {post post' : α → W → β → W → Prop}
    (hpost : ∀ a w b v, post a w b v → post' a w b v) (h : S.Agree i c p p' post w v) :
    S.Agree i c p p' post' w v := by
  unfold Agree at h ⊢
  split at h <;> simp_all

/-- The rule of sequencing. -/
theorem agree_bind {post : γ → W → δ → W → Prop}
    (h : S.Agree i c p p' (fun a w b v => S.Agree i c (f a) (f' b) post w v) w v) :
    S.Agree i c (p >>= f) (p' >>= f') post w v := by
  unfold Agree at h ⊢
  rw [eval_bind, eval_bind]
  split at h
  · rename_i a w' b v' hp hp'
    rw [hp, hp']
    exact h
  · rename_i hp hp'
    rw [hp, hp']
    trivial
  · exact h.elim

/-- A run of the left program ahead of the right one. -/
theorem agree_left {post : γ → W → β → W → Prop} {a : α} (h : S.eval i c p w = some (a, w₁)) :
    S.Agree i c (p >>= f) p' post w v ↔ S.Agree i c (f a) p' post w₁ v := by
  unfold Agree
  rw [eval_bind, h]
  rfl

/-- A call both programs make, answered alike. -/
theorem agree_call {q : Q} {k : R q → Prog R α} {k' : R q → Prog R β}
    {post : α → W → β → W → Prop} (r : R q) (w₁ v₁ : W) (h : S.respond i c w q = some (r, w₁))
    (h' : S.respond i c v q = some (r, v₁)) :
    S.Agree i c (.call q k) (.call q k') post w v ↔ S.Agree i c (k r) (k' r) post w₁ v₁ := by
  unfold Agree
  rw [eval_call, eval_call, h, h']
  rfl

/-- A call of the right program alone. -/
theorem agree_call_right {q : Q} {k : R q → Prog R β} {r : R q} {post : α → W → β → W → Prop}
    (h : S.respond i c v q = some (r, v₁)) :
    S.Agree i c p (.call q k) post w v ↔ S.Agree i c p (k r) post w v₁ := by
  unfold Agree
  rw [eval_call, h]
  rfl

/-- Two programs that end. -/
theorem agree_of_eval {post : α → W → β → W → Prop} {a : α} {b : β}
    (h : S.eval i c p w = some (a, w₁)) (h' : S.eval i c p' v = some (b, v₁))
    (hpost : post a w₁ b v₁) : S.Agree i c p p' post w v := by
  unfold Agree
  rw [h, h']
  exact hpost

/-- A program that ends where another one ends. -/
theorem Agree.right {post : α → W → β → W → Prop} {a : α} {w' : W}
    (h : S.Agree i c p p' post w v) (hp : S.eval i c p w = some (a, w')) :
    ∃ b v', S.eval i c p' v = some (b, v') ∧ post a w' b v' := by
  unfold Agree at h
  rw [hp] at h
  cases hp' : S.eval i c p' v with
  | none => rw [hp'] at h; exact h.elim
  | some bv =>
    rw [hp'] at h
    exact ⟨bv.1, bv.2, rfl, h⟩

theorem Agree.left {post : α → W → β → W → Prop} {b : β} {v' : W}
    (h : S.Agree i c p p' post w v) (hp : S.eval i c p' v = some (b, v')) :
    ∃ a w', S.eval i c p w = some (a, w') ∧ post a w' b v' := by
  unfold Agree at h
  rw [hp] at h
  cases hp' : S.eval i c p w with
  | none => rw [hp'] at h; exact h.elim
  | some aw =>
    rw [hp'] at h
    exact ⟨aw.1, aw.2, rfl, h⟩

end Lib.Server
