import PeHackathon.Lib.Prog

/-!
# Programs that return

`Server.Finishes` is about one program alone: it returns, and what it returns and leaves meets the
postcondition. Its rules are equivalences, so they lead from a program to the exact condition under
which it does so.
-/

namespace Lib.Server

variable {Q : Type} {R : Q → Type} {ι C W : Type} {α β : Type}

def Finishes (S : Server R ι C W) (i : ι) (c : C) (p : Prog R α) (post : α → W → Prop) (w : W) :
    Prop :=
  ∃ a w', S.eval i c p w = some (a, w') ∧ post a w'

variable {S : Server R ι C W} {i : ι} {c : C} {p : Prog R α} {f : α → Prog R β}
  {post : β → W → Prop} {w w₁ : W}

theorem finishes_ret {b : β} : S.Finishes i c (.ret b) post w ↔ post b w := by
  constructor
  · rintro ⟨b', w', heval, hpost⟩
    cases heval
    exact hpost
  · intro hpost
    exact ⟨b, w, rfl, hpost⟩

/-- A call that is answered. -/
theorem finishes_call {q : Q} {k : R q → Prog R β} {r : R q}
    (h : S.respond i c w q = some (r, w₁)) :
    S.Finishes i c (.call q k) post w ↔ S.Finishes i c (k r) post w₁ := by
  unfold Finishes
  rw [eval_call, h]
  rfl

/-- The rule of sequencing, after a part that returns. -/
theorem finishes_bind {a : α} (h : S.eval i c p w = some (a, w₁)) :
    S.Finishes i c (p >>= f) post w ↔ S.Finishes i c (f a) post w₁ := by
  unfold Finishes
  rw [eval_bind, h]
  rfl

/-- After a part that does not return, nothing is returned. -/
theorem not_finishes_bind (h : S.eval i c p w = none) : ¬ S.Finishes i c (p >>= f) post w := by
  rintro ⟨b, w', heval, -⟩
  rw [eval_bind, h] at heval
  cases heval

end Lib.Server
