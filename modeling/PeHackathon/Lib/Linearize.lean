import Mathlib.Data.List.Nodup
import PeHackathon.Lib.Pool

/-!
# Pools that run like a sequence

`Sequential`: programs run one after the other, each alone. `Linearizable`: what the programs of a
pool have returned is what they return in such a sequence, and while none of them is in flight the
world is the one the sequence ends in.
-/

namespace Lib

variable {Q : Type} {R : Q → Type} {ι C W α β : Type}

/-- Some of the programs, in the order of the list and with what they return, run alone one after
the other from `w₀`. Between them the world may change as `idle` says. -/
inductive Sequential (S : Server R ι C W) (idle : W → W → Prop) (procs : ι → Prog R α) (w₀ : W) :
    List (ι × α) → W → Prop
  | nil : Sequential S idle procs w₀ [] w₀
  | wait {l : List (ι × α)} {w w' : W} (h : Sequential S idle procs w₀ l w) (hw : idle w w') :
      Sequential S idle procs w₀ l w'
  | snoc {l : List (ι × α)} {w w' : W} {i : ι} {a : α} (h : Sequential S idle procs w₀ l w)
      (hi : i ∉ l.map Prod.fst) (hr : S.Runs i (procs i) w a w') :
      Sequential S idle procs w₀ (l ++ [(i, a)]) w'

section Sequential

variable {S : Server R ι C W} {idle : W → W → Prop} {procs : ι → Prog R α} {w₀ w : W}
  {l : List (ι × α)}

/-- No program runs twice. -/
theorem Sequential.nodup (h : Sequential S idle procs w₀ l w) : (l.map Prod.fst).Nodup := by
  induction h with
  | nil => exact List.nodup_nil
  | wait _ _ ih => exact ih
  | snoc h hi _ ih =>
    rw [List.map_append]
    exact ih.append (List.nodup_singleton _) (List.disjoint_singleton.2 hi)

/-- Programs that leave the world as it is may all run at the end. -/
theorem Sequential.append_still {js : List ι} {a : α} (h : Sequential S idle procs w₀ l w)
    (hn : (l.map Prod.fst ++ js).Nodup) (hr : ∀ j ∈ js, S.Runs j (procs j) w a w) :
    Sequential S idle procs w₀ (l ++ js.map fun j => (j, a)) w := by
  induction js generalizing l with
  | nil => simpa using h
  | cons j js ih =>
    have hj : j ∉ l.map Prod.fst := fun hmem =>
      List.disjoint_of_nodup_append hn hmem List.mem_cons_self
    have hnext := ih (h.snoc hj (hr j List.mem_cons_self)) (by simpa using hn)
      fun j' hj' => hr j' (List.mem_cons_of_mem _ hj')
    simpa using hnext

end Sequential

variable [DecidableEq ι]

/-- A run from `p₀` to `p` is explained by a sequence of the programs that have begun. Results are
compared by `obs`. -/
def Linearizable (S : Server R ι C W) (idle : W → W → Prop) (obs : α → β) (p₀ p : Pool R ι W α) :
    Prop :=
  ∃ l w, Sequential S idle p₀.procs p₀.world l w ∧ (∀ x ∈ l, p.begun x.1 = true) ∧
    (∀ i a, p.procs i = .ret a → ∃ b, (i, b) ∈ l ∧ obs b = obs a) ∧
    ((∀ i, ¬ p.InFlight i) → p.world = w)

end Lib
