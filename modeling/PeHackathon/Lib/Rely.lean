import PeHackathon.Lib.Pool

/-!
# Rely and guarantee

`Server.rg` is a weakest precondition for a program among others: between its calls the others may
move the world along `rely`, and each of its own calls moves it along `guar`. A pool in which what
one program guarantees is what the others rely on keeps every program inside its precondition
(`Pool.Guarded.next`), so every step moves the world along the guarantee of the program that makes
it (`Pool.Guarded.step`).
-/

namespace Lib

namespace Server

variable {Q : Type} {R : Q → Type} {ι C W α : Type}

/-- The weakest precondition of `p` for `post` under `rely`, with every call in `guar`. -/
def rg (S : Server R ι C W) (i : ι) (rely guar : W → W → Prop) :
    Prog R α → (α → W → Prop) → W → Prop
  | .ret a, post, w => ∀ w₁, rely w w₁ → post a w₁
  | .call q k, post, w => ∀ w₁, rely w w₁ → ∀ c r w₂, S.respond i c w₁ q = some (r, w₂) →
      guar w₁ w₂ ∧ rg S i rely guar (k r) post w₂

variable {S : Server R ι C W} {i : ι} {rely guar : W → W → Prop} {post : α → W → Prop}
  {p : Prog R α} {w w' : W}

/-- The others take a step. -/
theorem rg_rely (htrans : ∀ w₁ w₂ w₃, rely w₁ w₂ → rely w₂ w₃ → rely w₁ w₃)
    (h : S.rg i rely guar p post w) (hr : rely w w') : S.rg i rely guar p post w' := by
  cases p with
  | ret a => exact fun w₁ hr' => h w₁ (htrans _ _ _ hr hr')
  | call q k => exact fun w₁ hr' => h w₁ (htrans _ _ _ hr hr')

/-- **The rule of a stable fact**: what the others keep, and what every call of the program keeps
and guarantees. -/
theorem rg_of_all {φ : Q → Prop} {J : W → Prop} (hrely : ∀ w w', rely w w' → J w → J w')
    (hcall : ∀ q c w r w', φ q → J w → S.respond i c w q = some (r, w') → guar w w' ∧ J w')
    (hp : p.All φ) (hw : J w) : S.rg i rely guar p (fun _ => J) w := by
  induction p generalizing w with
  | ret a => exact fun w₁ hr => hrely _ _ hr hw
  | call q k ih =>
    intro w₁ hr c r w₂ hresp
    obtain ⟨hg, hJ⟩ := hcall q c w₁ r w₂ hp.1 (hrely _ _ hr hw) hresp
    exact ⟨hg, ih r (hp.2 r) hJ⟩

end Server

namespace Pool

variable {Q : Type} {R : Q → Type} {ι C W α : Type} [DecidableEq ι] {S : Server R ι C W}
  {rely guar : ι → W → W → Prop} {post : ι → α → W → Prop} {p p' : Pool R ι W α} {i : ι} {c : C}

/-- Every program is inside its precondition. -/
def Guarded (S : Server R ι C W) (rely guar : ι → W → W → Prop) (post : ι → α → W → Prop)
    (p : Pool R ι W α) : Prop :=
  ∀ i, S.rg i (rely i) (guar i) (p.procs i) (post i) p.world

/-- A step of a guarded pool is in the guarantee of the program that makes it. -/
theorem Guarded.step (hrefl : ∀ i w, rely i w w) (h : Guarded S rely guar post p)
    (hn : p.next S i c = some p') : guar i p.world p'.world := by
  obtain ⟨q, k, r, w, hq, hr, -, rfl⟩ := next_cases hn
  have hi := h i
  rw [hq] at hi
  exact (hi _ (hrefl i _) c r w hr).1

theorem Guarded.next (hrefl : ∀ i w, rely i w w)
    (htrans : ∀ i w₁ w₂ w₃, rely i w₁ w₂ → rely i w₂ w₃ → rely i w₁ w₃)
    (hguar : ∀ i j w w', i ≠ j → guar j w w' → rely i w w') (h : Guarded S rely guar post p)
    (hn : p.next S i c = some p') : Guarded S rely guar post p' := by
  intro j
  by_cases hj : j = i
  · subst hj
    obtain ⟨q, k, r, w, hq, hr, -, rfl⟩ := next_cases hn
    have hi := h j
    rw [hq] at hi
    simpa using (hi _ (hrefl j _) c r w hr).2
  · rw [next_procs_ne hn hj]
    exact Server.rg_rely (htrans j) (h j) (hguar j i _ _ hj (h.step hrefl hn))

end Pool

end Lib
