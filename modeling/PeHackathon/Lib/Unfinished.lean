import PeHackathon.Lib.Prog

/-!
# Programs that have not returned yet

`Server.Underway` follows one program through the calls it has made so far. Once it has returned, it
has run (`underway_ret`).
-/

namespace Lib.Server

variable {Q : Type} {R : Q → Type} {ι C W α : Type}

/-- `S.Underway i p w p' w'`: alone from `w`, what is left of `p` can be `p'`, in `w'`. -/
inductive Underway (S : Server R ι C W) (i : ι) (p : Prog R α) (w : W) : Prog R α → W → Prop
  | refl : Underway S i p w p w
  | call {q : Q} {k : R q → Prog R α} {c : C} {w₁ w₂ : W} {r : R q}
      (h : Underway S i p w (.call q k) w₁)
      (hr : S.respond i c w₁ q = some (r, w₂)) : Underway S i p w (k r) w₂

variable {S : Server R ι C W} {i : ι} {p p' : Prog R α} {w w₁ w' : W} {a : α}

/-- What is left runs to the end of the whole. -/
theorem Underway.runs (h : S.Underway i p w p' w₁) (hrun : S.Runs i p' w₁ a w') :
    S.Runs i p w a w' := by
  induction h with
  | refl => exact hrun
  | call _ hr ih => exact ih (.call hr hrun)

theorem underway_ret (h : S.Underway i p w (.ret a) w') : S.Runs i p w a w' := h.runs (.ret a w')

end Lib.Server
