import PeHackathon.Lib.Prog

/-!
# A program alone

Two ways to follow a program that no other one interrupts.

`Prog.Obeys φ ψ` is about its text: every call satisfies `φ`, and every result `ψ`, whatever the
answers. `Server.Triple P p Q` is about its runs: one that begins with `P` ends with `Q`.
`Triple.of_obeys` leads from the first to the second, for any fact that calls with `φ` keep.
-/

namespace Lib

namespace Prog

variable {Q : Type} {R : Q → Type} {α β : Type} {φ φ' : Q → Prop} {ψ ψ' : α → Prop} {χ : β → Prop}

def Obeys (φ : Q → Prop) (ψ : α → Prop) : Prog R α → Prop
  | ret a => ψ a
  | call q k => φ q ∧ ∀ r, (k r).Obeys φ ψ

theorem obeys_ret {a : α} : (ret a : Prog R α).Obeys φ ψ ↔ ψ a := Iff.rfl

theorem obeys_call {q : Q} {k : R q → Prog R α} :
    (call q k).Obeys φ ψ ↔ φ q ∧ ∀ r, (k r).Obeys φ ψ := Iff.rfl

theorem Obeys.ret {a : α} (h : ψ a) : (pure a : Prog R α).Obeys φ ψ := h

theorem Obeys.ite {c : Prop} [Decidable c] {p p' : Prog R α} (h : c → p.Obeys φ ψ)
    (h' : ¬ c → p'.Obeys φ ψ) : (if c then p else p').Obeys φ ψ := by
  by_cases hc : c
  · rw [if_pos hc]
    exact h hc
  · rw [if_neg hc]
    exact h' hc

theorem Obeys.bind {p : Prog R α} {f : α → Prog R β} (hp : p.Obeys φ ψ)
    (hf : ∀ a, ψ a → (f a).Obeys φ χ) : (p >>= f).Obeys φ χ := by
  induction p with
  | ret a => exact hf a hp
  | call q k ih => exact ⟨hp.1, fun r => ih r (hp.2 r)⟩

theorem Obeys.mono {p : Prog R α} (h : p.Obeys φ ψ) (hφ : ∀ q, φ q → φ' q)
    (hψ : ∀ a, ψ a → ψ' a) : p.Obeys φ' ψ' := by
  induction p with
  | ret a => exact hψ a h
  | call q k ih => exact ⟨hφ q h.1, fun r => ih r (h.2 r)⟩

theorem Obeys.perform {q : Q} (h : φ q) :
    (perform q : Prog R (R q)).Obeys φ fun _ => True :=
  ⟨h, fun _ => trivial⟩

theorem Obeys.forM {f : α → Prog R PUnit} (l : List α)
    (hf : ∀ a ∈ l, (f a).Obeys φ fun _ => True) : (l.forM f).Obeys φ fun _ => True := by
  induction l with
  | nil => trivial
  | cons a l ih =>
    exact (hf a List.mem_cons_self).bind fun _ _ => ih fun b hb => hf b (List.mem_cons_of_mem a hb)

attribute [irreducible] Obeys

end Prog

namespace Server

variable {Q : Type} {R : Q → Type} {ι C W V : Type} {α β : Type}

theorem runs_perform {S : Server R ι C W} {i : ι} {q : Q} {r : R q} {w w' : W} :
    S.Runs i (Prog.perform q) w r w' ↔ ∃ c, S.respond i c w q = some (r, w') := by
  constructor
  · intro h
    obtain ⟨c, r', w₁, hr, hk⟩ := (S.runs_call i).1 h
    obtain ⟨rfl, rfl⟩ := (S.runs_ret i).1 hk
    exact ⟨c, hr⟩
  · rintro ⟨c, hr⟩
    exact .call hr (.ret r w')

/-- A run of `p` that begins with `P` ends with `post`. -/
def Triple (S : Server R ι C W) (i : ι) (P : W → Prop) (p : Prog R α) (post : α → W → Prop) :
    Prop :=
  ∀ w a w', P w → S.Runs i p w a w' → post a w'

variable {S : Server R ι C W} {i : ι} {P P' : W → Prop} {p : Prog R α} {f : α → Prog R β}
  {post post' : α → W → Prop}

theorem Triple.ret {a : α} (h : ∀ w, P w → post a w) : S.Triple i P (.ret a) post := by
  intro w b w' hw hrun
  obtain ⟨rfl, rfl⟩ := (S.runs_ret i).1 hrun
  exact h _ hw

theorem Triple.bind {end' : β → W → Prop} (hp : S.Triple i P p post)
    (hf : ∀ a, S.Triple i (post a) (f a) end') : S.Triple i P (p >>= f) end' := by
  intro w b w' hw hrun
  obtain ⟨a, w₁, hp', hf'⟩ := (S.runs_bind i).1 hrun
  exact hf a w₁ b w' (hp w a w₁ hw hp') hf'

theorem Triple.perform {q : Q} {post : R q → W → Prop}
    (h : ∀ c w r w', P w → S.respond i c w q = some (r, w') → post r w') :
    S.Triple i P (Prog.perform q) post := by
  intro w a w' hw hrun
  obtain ⟨c, hr⟩ := runs_perform.1 hrun
  exact h c w a w' hw hr

/-- The rule of consequence. -/
theorem Triple.mono (h : S.Triple i P p post) (hP : ∀ w, P' w → P w)
    (hpost : ∀ a w, post a w → post' a w) : S.Triple i P' p post' :=
  fun w a w' hw hrun => hpost a w' (h w a w' (hP w hw) hrun)

theorem Triple.ite {c : Prop} [Decidable c] {p' : Prog R α} (h : c → S.Triple i P p post)
    (h' : ¬ c → S.Triple i P p' post) : S.Triple i P (if c then p else p') post := by
  by_cases hc : c
  · rw [if_pos hc]
    exact h hc
  · rw [if_neg hc]
    exact h' hc

/-- A fact that is not about the world. -/
theorem Triple.assume {φ : Prop} (h : φ → S.Triple i P p post) :
    S.Triple i (fun w => φ ∧ P w) p post :=
  fun w a w' hw hrun => h hw.1 w a w' hw.2 hrun

theorem Triple.given {X : Type} {P : X → W → Prop} (h : ∀ x, S.Triple i (P x) p post) :
    S.Triple i (fun w => ∃ x, P x w) p post := by
  rintro w a w' ⟨x, hw⟩ hrun
  exact h x w a w' hw hrun

/-- The rule of the loop. -/
theorem Triple.foldlM {δ : Type} {g : β → δ → Prog R β} {J : List δ → β → W → Prop} (l : List δ)
    (hg : ∀ done d rest b, l = done ++ d :: rest →
      S.Triple i (J done b) (g b d) (J (done ++ [d]))) (b : β) :
    S.Triple i (J [] b) (l.foldlM g b) (J l) := by
  suffices h : ∀ rest done b, l = done ++ rest → S.Triple i (J done b) (rest.foldlM g b) (J l) from
    h l [] b rfl
  intro rest
  induction rest with
  | nil =>
    intro done b hl
    rw [List.append_nil] at hl
    subst hl
    exact .ret fun _ h => h
  | cons d rest ih =>
    intro done b hl
    rw [List.foldlM_cons]
    exact .bind (hg done d rest b hl) fun b' =>
      ih (done ++ [d]) b' (by rw [hl, List.append_assoc]; rfl)

/-- What the calls keep, a program keeps. -/
theorem Triple.of_obeys {φ : Q → Prop} {ψ : α → Prop}
    (hJ : ∀ q c w r w', φ q → P w → S.respond i c w q = some (r, w') → P w')
    (hp : p.Obeys φ ψ) : S.Triple i P p fun a w => ψ a ∧ P w := by
  intro w a w' hw hrun
  induction hrun with
  | ret a w => exact ⟨Prog.obeys_ret.1 hp, hw⟩
  | call hr _ ih =>
    obtain ⟨hq, hk⟩ := Prog.obeys_call.1 hp
    exact ih (hk _) (hJ _ _ _ _ _ hq hw hr)

theorem Triple.of_all {φ : Q → Prop}
    (hJ : ∀ q c w r w', φ q → P w → S.respond i c w q = some (r, w') → P w') (hp : p.All φ) :
    S.Triple i P p fun _ w => P w :=
  fun _ _ _ hw hrun => hrun.inv hJ hp hw

/-- Runs on one server are runs on another that sees less of the world. -/
theorem Runs.map {ι' C' : Type} {T : Server R ι' C' V} {j : ι'} (g : W → V)
    (h : ∀ c w q r w', S.respond i c w q = some (r, w') →
      ∃ c', T.respond j c' (g w) q = some (r, g w')) {w w' : W} {a : α}
    (hrun : S.Runs i p w a w') : T.Runs j p (g w) a (g w') := by
  induction hrun with
  | ret a w => exact .ret a (g w)
  | call hr _ ih =>
    obtain ⟨c', hr'⟩ := h _ _ _ _ _ hr
    exact .call hr' ih

end Server

end Lib
