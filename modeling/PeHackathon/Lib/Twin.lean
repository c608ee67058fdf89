import PeHackathon.Lib.Agree
import PeHackathon.Lib.Alone

/-!
# Twin programs

Two runs of one server, or of two programs that differ in what they compute along the way.
`Server.Twin L p p' post`: from worlds that `L` relates, `p` and `p'` agree, with results and worlds
that `post` relates. The rules are those of `Triple`, for pairs; `Twin.of_obeys` is for a program
whose calls are answered alike in related worlds.
-/

namespace Lib.Server

variable {Q : Type} {R : Q → Type} {ι C W : Type} {α β γ δ : Type}

def Twin (S : Server R ι C W) (i : ι) (c : C) (L : W → W → Prop) (p : Prog R α) (p' : Prog R β)
    (post : α → β → W → W → Prop) : Prop :=
  ∀ w v, L w v → S.Agree i c p p' (fun a w b v => post a b w v) w v

variable {S : Server R ι C W} {i : ι} {c : C} {L L' : W → W → Prop} {p : Prog R α} {p' : Prog R β}
  {f : α → Prog R γ} {f' : β → Prog R δ} {post post' : α → β → W → W → Prop}
  {end' : γ → δ → W → W → Prop}

theorem Twin.agree {w v : W} (h : S.Twin i c L p p' post) (hw : L w v) :
    S.Agree i c p p' (fun a w b v => post a b w v) w v := h w v hw

theorem Twin.ret {a : α} {b : β} (h : ∀ w v, L w v → post a b w v) :
    S.Twin i c L (pure a) (pure b) post :=
  fun w v hw => agree_ret.2 (h w v hw)

/-- The rule of sequencing. -/
theorem Twin.bind (hp : S.Twin i c L p p' post)
    (hf : ∀ a b, S.Twin i c (post a b) (f a) (f' b) end') :
    S.Twin i c L (p >>= f) (p' >>= f') end' :=
  fun w v hw => agree_bind (agree_mono (fun a w b v h => hf a b w v h) (hp w v hw))

/-- The rule of sequencing after two equal results. -/
theorem Twin.seq {p p' : Prog R α} {f' : α → Prog R δ}
    (hp : S.Twin i c L p p' fun a b w v => a = b ∧ L' w v)
    (hf : ∀ a, S.Twin i c L' (f a) (f' a) end') : S.Twin i c L (p >>= f) (p' >>= f') end' := by
  refine hp.bind fun a b w v h => ?_
  obtain ⟨rfl, hw⟩ := h
  exact hf a w v hw

/-- The rule of consequence. -/
theorem Twin.mono (h : S.Twin i c L p p' post) (hL : ∀ w v, L' w v → L w v)
    (hpost : ∀ a b w v, post a b w v → post' a b w v) : S.Twin i c L' p p' post' :=
  fun w v hw => agree_mono (fun a w b v => hpost a b w v) (h w v (hL w v hw))

/-- Two programs that take the same branch. -/
theorem Twin.ite {cond cond' : Prop} [Decidable cond] [Decidable cond'] {q : Prog R α}
    {q' : Prog R β} (hcond : cond ↔ cond') (h : cond → S.Twin i c L p p' post)
    (h' : ¬ cond → S.Twin i c L q q' post) :
    S.Twin i c L (if cond then p else q) (if cond' then p' else q') post := by
  by_cases hc : cond
  · rw [if_pos hc, if_pos (hcond.1 hc)]
    exact h hc
  · rw [if_neg hc, if_neg (mt hcond.2 hc)]
    exact h' hc

/-- A fact that is not about the worlds. -/
theorem Twin.assume {φ : Prop} (h : φ → S.Twin i c L p p' post) :
    S.Twin i c (fun w v => φ ∧ L w v) p p' post :=
  fun w v hw => h hw.1 w v hw.2

theorem Twin.perform {q q' : Q} {post : R q → R q' → W → W → Prop}
    (h : ∀ w v, L w v → ∃ r w' r' v', S.respond i c w q = some (r, w') ∧
      S.respond i c v q' = some (r', v') ∧ post r r' w' v') :
    S.Twin i c L (Prog.perform q) (Prog.perform q') post := by
  intro w v hw
  obtain ⟨r, w', r', v', hr, hr', hpost⟩ := h w v hw
  refine agree_of_eval (a := r) (b := r') ?_ ?_ hpost
  · exact (S.eval_call i c q .ret w).trans (by rw [hr]; rfl)
  · exact (S.eval_call i c q' .ret v).trans (by rw [hr']; rfl)

/-- A program whose calls are answered alike. -/
theorem Twin.of_obeys {φ : Q → Prop} {ψ : α → Prop} {p : Prog R α}
    (hL : ∀ q w v, φ q → L w v → ∃ r w' v', S.respond i c w q = some (r, w') ∧
      S.respond i c v q = some (r, v') ∧ L w' v')
    (hp : p.Obeys φ ψ) : S.Twin i c L p p fun a b w v => a = b ∧ L w v := by
  intro w v hw
  induction p generalizing w v with
  | ret a => exact agree_ret.2 ⟨rfl, hw⟩
  | call q k ih =>
    obtain ⟨hq, hk⟩ := Prog.obeys_call.1 hp
    obtain ⟨r, w', v', hr, hr', hw'⟩ := hL q w v hq hw
    exact (agree_call r w' v' hr hr').2 (ih r (hk r) w' v' hw')

attribute [irreducible] Twin

end Lib.Server
