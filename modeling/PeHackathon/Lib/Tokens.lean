import Mathlib.Algebra.BigOperators.Group.Finset.Basic
import Mathlib.Data.Fintype.Basic
import PeHackathon.Lib.Pool

/-!
# Pools under a contract

`Pool.Kept` says that every program of a pool is inside its weakest precondition, and that the
invariant of the contract holds with the tokens of all the programs that wait for an answer. Every
step keeps it (`Kept.next`), so a pool of programs that are correct one by one stays safe in every
interleaving (`Steps.kept`).

`Server.restrict` leaves out the calls that do not meet a condition: a run every step of which meets
the condition is a run of the restricted server.
-/

namespace Lib

namespace Server

variable {Q : Type} {R : Q → Type} {ι C W α : Type}

open Classical in
/-- The server that answers a call only where `ok` holds. -/
noncomputable def restrict (S : Server R ι C W) (ok : ι → C → W → Q → Prop) : Server R ι C W where
  respond i c w q := if ok i c w q then S.respond i c w q else none
  yields := S.yields

variable {S : Server R ι C W} {ok : ι → C → W → Q → Prop}

@[simp] theorem restrict_yields : (S.restrict ok).yields = S.yields := rfl

theorem restrict_respond_of {i : ι} {c : C} {w : W} {q : Q} (h : ok i c w q) :
    (S.restrict ok).respond i c w q = S.respond i c w q := if_pos h

theorem restrict_respond {i : ι} {c : C} {w : W} {q : Q} {rw : R q × W} :
    (S.restrict ok).respond i c w q = some rw ↔ ok i c w q ∧ S.respond i c w q = some rw := by
  unfold restrict
  by_cases h : ok i c w q <;> simp [h]

variable {M : Type} [AddCommMonoid M]

/-- The token a program holds: that of the yielding call whose answer it waits for. -/
def heldToken (S : Server R ι C W) (K : Contract Q M W) : Prog R α → M
  | .ret _ => 0
  | .call q _ => if S.yields q then K.token q else 0

@[simp] theorem heldToken_ret (K : Contract Q M W) (a : α) :
    S.heldToken K (.ret a : Prog R α) = 0 := rfl

theorem heldToken_call (K : Contract Q M W) (q : Q) (k : R q → Prog R α) :
    S.heldToken K (.call q k) = if S.yields q then K.token q else 0 := rfl

end Server

namespace Pool

variable {Q : Type} {R : Q → Type} {ι C W α : Type} [DecidableEq ι] {S : Server R ι C W}
  {p p' : Pool R ι W α} {i : ι} {c : C} {P : Pool R ι W α → ι → C → Prop}

omit [DecidableEq ι] in
theorem inside_restrict {ok : ι → C → W → Q → Prop} (k : Prog R α) :
    inside (S.restrict ok) k = inside S k := by cases k <;> rfl

/-- A run every step of which meets a condition is a run of the restricted server. -/
theorem Steps.restrict {ok : ι → C → W → Q → Prop} (h : Steps S P p p')
    (hok : ∀ p i c q k, P p i c → p.procs i = .call q k → ok i c p.world q) :
    Steps (S.restrict ok) P p p' := by
  induction h with
  | refl p => exact .refl p
  | @step p p' p'' i c hP hn _ ih =>
    refine .step hP ?_ ih
    rw [← hn]
    unfold next
    split
    · split
      · rfl
      · rename_i q k hq
        simp only [Server.restrict_respond_of (hok p i c q k hP hq), inside_restrict]
    · rfl

variable [Fintype ι] {M : Type} [AddCommMonoid M] {K : Server.Contract Q M W}

open Finset in
/-- Every program is inside its precondition, and the invariant holds with all the tokens held. -/
structure Kept (S : Server R ι C W) (K : Server.Contract Q M W) (p : Pool R ι W α) : Prop where
  /-- Between stretches the invariant holds with every token. -/
  free : p.holder = none → K.inv (∑ j, S.heldToken K (p.procs j)) p.world
  /-- Inside a stretch the program is in its precondition, given the tokens of the others. -/
  held : ∀ i, p.holder = some i →
    S.wp i K (p.procs i) (fun _ => K.inv) (∑ j ∈ univ.erase i, S.heldToken K (p.procs j)) p.world
  /-- The other programs are ready to go on wherever the invariant holds. -/
  rest : ∀ i, p.holder ≠ some i → ∀ m w, K.inv (m + S.heldToken K (p.procs i)) w →
    S.wp i K (p.procs i) (fun _ => K.inv) m w
  safe : K.safe p.world

open Finset in
theorem sum_erase_update (S : Server R ι C W) (K : Server.Contract Q M W) (p : Pool R ι W α) (i : ι)
    (k : Prog R α) :
    ∑ j ∈ univ.erase i, S.heldToken K (Function.update p.procs i k j) =
      ∑ j ∈ univ.erase i, S.heldToken K (p.procs j) :=
  sum_congr rfl fun _ hj => by rw [Function.update_of_ne (ne_of_mem_erase hj)]

omit [DecidableEq ι] [Fintype ι] in
/-- At the end of a stretch the program gives the invariant with the token it holds, and is ready to
go on wherever the invariant holds. -/
theorem wp_of_not_inside {k : Prog R α} (hi : inside S k = false) {m : M} {w : W}
    (h : S.wp i K k (fun _ => K.inv) m w) :
    K.inv (m + S.heldToken K k) w ∧
      ∀ m₁ w₁, K.inv (m₁ + S.heldToken K k) w₁ → S.wp i K k (fun _ => K.inv) m₁ w₁ := by
  cases k with
  | ret a =>
    simp only [Server.heldToken_ret, add_zero]
    exact ⟨h, fun _ _ h => h⟩
  | call q k =>
    have hy : S.yields q = true := by simpa [inside] using hi
    rw [Server.wp_call_yield hy] at h
    simp only [Server.heldToken_call, hy, if_true]
    exact ⟨h.1, fun m₁ w₁ hinv => (Server.wp_call_yield hy).2 ⟨hinv, h.2⟩⟩

open Finset in
/-- **One step** keeps a pool in its contract. -/
theorem Kept.next (hK : Kept S K p) (hn : p.next S i c = some p') : Kept S K p' := by
  obtain ⟨q, k, r, w, hq, hr, hh, rfl⟩ := next_cases hn
  have hwp : S.wp i K (p.procs i) (fun _ => K.inv)
      (∑ j ∈ univ.erase i, S.heldToken K (p.procs j)) p.world := by
    rcases hh with hnone | hsome
    · refine hK.rest i (by rw [hnone]; simp) _ _ ?_
      rw [sum_erase_add _ _ (mem_univ i)]
      exact hK.free hnone
    · exact hK.held i hsome
  have hstep : K.safe w ∧ S.wp i K (k r) (fun _ => K.inv)
      (∑ j ∈ univ.erase i, S.heldToken K (p.procs j)) w := by
    rw [hq] at hwp
    cases hy : S.yields q with
    | false => exact (Server.wp_call_sync hy).1 hwp c r w hr
    | true =>
      have := (Server.wp_call_yield hy).1 hwp
      exact this.2 _ _ this.1 c r w hr
  obtain ⟨hsafe, hk⟩ := hstep
  have hothers : ∀ j, j ≠ i → ∀ m w, K.inv (m + S.heldToken K (p.procs j)) w →
      S.wp j K (p.procs j) (fun _ => K.inv) m w := fun j hj => hK.rest j (by
    rintro hs
    rcases hh with hnone | hsome
    · rw [hnone] at hs; cases hs
    · rw [hsome] at hs; cases hs; exact hj rfl)
  cases hin : inside S (k r) with
  | true =>
    refine ⟨by simp, fun j hj => ?_, fun j hj m w' hinv => ?_, hsafe⟩
    · cases hj
      simp only [sum_erase_update, Function.update_self]
      exact hk
    · have hne : j ≠ i := fun h => hj (by simp [h])
      simp only [Function.update_of_ne hne] at hinv ⊢
      exact hothers j hne m w' hinv
  | false =>
    obtain ⟨hend, hgo⟩ := wp_of_not_inside hin hk
    refine ⟨fun _ => ?_, by simp, fun j _ m w' hinv => ?_, hsafe⟩
    · rw [← sum_erase_add _ _ (mem_univ i)]
      simp only [sum_erase_update, Function.update_self]
      exact hend
    · by_cases hne : j = i
      · subst hne
        simp only [Function.update_self] at hinv ⊢
        exact hgo m w' hinv
      · simp only [Function.update_of_ne hne] at hinv ⊢
        exact hothers j hne m w' hinv

open Finset in
/-- **Every interleaving** of programs that are correct one by one keeps the contract. -/
theorem Steps.kept {procs : ι → Prog R α} {w : W} (h : Steps S P (init procs w) p')
    (hinv : K.inv (∑ j, S.heldToken K (procs j)) w) (hsafe : K.safe w)
    (hwp : ∀ i m w, K.inv (m + S.heldToken K (procs i)) w →
      S.wp i K (procs i) (fun _ => K.inv) m w) : Kept S K p' :=
  h.inv (J := Kept S K) (fun _ _ _ _ _ hn hK => hK.next hn)
    ⟨fun _ => hinv, fun _ hi => by simp [init] at hi, fun i _ => hwp i, hsafe⟩

end Pool

end Lib
