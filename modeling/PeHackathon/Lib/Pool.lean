import Mathlib.Logic.Function.Basic
import PeHackathon.Lib.Prog

/-!
# Pools of programs

A pool runs one program for each index `i : ι` against one shared world, in any order. A step makes
one call. After a call that leaves its program before a call of a kind that does not yield, the
same program goes on (`holder`): a stretch between two yielding calls is never interrupted.

`Steps.result`: under an invariant that every step keeps, a program returns only what its weakest
precondition promises.
-/

namespace Lib

/-- The programs, the world, who has taken a step, and who must take the next one. -/
structure Pool {Q : Type} (R : Q → Type) (ι W α : Type) where
  procs : ι → Prog R α
  world : W
  begun : ι → Bool
  holder : Option ι

namespace Pool

variable {Q : Type} {R : Q → Type} {ι C W α : Type} [DecidableEq ι]

/-- A pool none of whose programs has taken a step. -/
def init (procs : ι → Prog R α) (w : W) : Pool R ι W α :=
  { procs, world := w, begun := fun _ => false, holder := none }

/-- Program `i` has returned. -/
def Done (p : Pool R ι W α) (i : ι) : Prop := ∃ a, p.procs i = .ret a

/-- Program `i` has begun and not returned. -/
def InFlight (p : Pool R ι W α) (i : ι) : Prop := p.begun i = true ∧ ¬ p.Done i

/-- Whether a program is before a call of a kind that does not yield. -/
def inside (S : Server R ι C W) : Prog R α → Bool
  | .ret _ => false
  | .call q _ => !S.yields q

/-- One step of program `i` under choice `c`. -/
def next (S : Server R ι C W) (p : Pool R ι W α) (i : ι) (c : C) : Option (Pool R ι W α) :=
  if p.holder = none ∨ p.holder = some i then
    match p.procs i with
    | .ret _ => none
    | .call q k =>
      (S.respond i c p.world q).map fun rw =>
        { procs := Function.update p.procs i (k rw.1)
          world := rw.2
          begun := Function.update p.begun i true
          holder := if inside S (k rw.1) then some i else none }
  else none

variable {S : Server R ι C W} {p p' p'' : Pool R ι W α} {i j : ι} {c : C}

/-- Everything a step can do. -/
theorem next_cases (h : p.next S i c = some p') :
    ∃ q k r w, p.procs i = .call q k ∧ S.respond i c p.world q = some (r, w) ∧
      (p.holder = none ∨ p.holder = some i) ∧
      p' = { procs := Function.update p.procs i (k r)
             world := w
             begun := Function.update p.begun i true
             holder := if inside S (k r) then some i else none } := by
  unfold next at h
  split at h
  · rename_i hh
    split at h
    · cases h
    · rename_i q k hq
      obtain ⟨⟨r, w⟩, hr, rfl⟩ := Option.map_eq_some_iff.1 h
      exact ⟨q, k, r, w, hq, hr, hh, rfl⟩
  · cases h

/-- A step that nobody else has to take first. -/
theorem next_of_call {q : Q} {k : R q → Prog R α} {r : R q} {w : W} (hfree : p.holder = none)
    (hq : p.procs i = .call q k) (hr : S.respond i c p.world q = some (r, w)) :
    p.next S i c = some
      { procs := Function.update p.procs i (k r)
        world := w
        begun := Function.update p.begun i true
        holder := if inside S (k r) then some i else none } := by
  unfold next
  rw [if_pos (.inl hfree), hq]
  dsimp only
  rw [hr, Option.map_some]

theorem next_procs_ne (h : p.next S i c = some p') (hj : j ≠ i) : p'.procs j = p.procs j := by
  obtain ⟨q, k, r, w, -, -, -, rfl⟩ := next_cases h
  exact Function.update_of_ne hj _ _

theorem next_begun (h : p.next S i c = some p') : p'.begun i = true := by
  obtain ⟨q, k, r, w, -, -, -, rfl⟩ := next_cases h
  exact Function.update_self _ _ _

theorem next_begun_ne (h : p.next S i c = some p') (hj : j ≠ i) : p'.begun j = p.begun j := by
  obtain ⟨q, k, r, w, -, -, -, rfl⟩ := next_cases h
  exact Function.update_of_ne hj _ _

theorem next_ne_ret (h : p.next S i c = some p') {a : α} (ha : p.procs j = .ret a) : j ≠ i := by
  rintro rfl
  obtain ⟨q, k, r, w, hq, -⟩ := next_cases h
  rw [ha] at hq
  cases hq

/-! ## Runs -/

/-- `Steps S P p p'`: a run from `p` to `p'` every step of which meets `P`. The condition reads the
pool before the step, who steps, and the choice of the step. -/
inductive Steps (S : Server R ι C W) (P : Pool R ι W α → ι → C → Prop) :
    Pool R ι W α → Pool R ι W α → Prop
  | refl (p : Pool R ι W α) : Steps S P p p
  | step {p p' p'' : Pool R ι W α} {i : ι} {c : C} (hP : P p i c) (h : p.next S i c = some p')
      (hl : Steps S P p' p'') : Steps S P p p''

variable {P P' : Pool R ι W α → ι → C → Prop}

theorem Steps.mono (hPP : ∀ p i c, P p i c → P' p i c) (h : Steps S P p p') : Steps S P' p p' := by
  induction h with
  | refl p => exact .refl p
  | step hP hn _ ih => exact .step (hPP _ _ _ hP) hn ih

theorem Steps.trans (h : Steps S P p p') (h' : Steps S P p' p'') : Steps S P p p'' := by
  induction h with
  | refl p => exact h'
  | step hP hn _ ih => exact .step hP hn (ih h')

/-- A schedule every step of which meets a check. -/
def runIf (S : Server R ι C W) (check : Pool R ι W α → ι → C → Prop)
    [∀ p i c, Decidable (check p i c)] :
    Pool R ι W α → List (ι × C) → Option (Pool R ι W α)
  | p, [] => some p
  | p, (i, c) :: l =>
    if check p i c then (p.next S i c).bind fun p' => p'.runIf S check l else none

theorem Steps.of_runIf [∀ p i c, Decidable (P p i c)] {l : List (ι × C)}
    (h : p.runIf S P l = some p') : Steps S P p p' := by
  induction l generalizing p with
  | nil =>
    simp only [runIf, Option.some.injEq] at h
    subst h
    exact .refl p
  | cons x l ih =>
    simp only [runIf] at h
    split at h
    · obtain ⟨p₁, hn, hl⟩ := Option.bind_eq_some_iff.1 h
      exact .step ‹_› hn (ih hl)
    · cases h

/-- A schedule that reaches a pool with a property, found by running it. -/
theorem Steps.exists_of_runIf [∀ p i c, Decidable (P p i c)] {l : List (ι × C)}
    {J : Pool R ι W α → Bool} (h : (p.runIf S P l).any J = true) : ∃ p', Steps S P p p' ∧ J p' := by
  obtain ⟨p', hrun, hJ⟩ := (Option.any_eq_true J _).1 h
  exact ⟨p', .of_runIf hrun, hJ⟩

/-- **Induction over a run**: a property of the pool that every step keeps. -/
theorem Steps.inv {J : Pool R ι W α → Prop}
    (hJ : ∀ p p' i c, P p i c → p.next S i c = some p' → J p → J p')
    (h : Steps S P p p') (h₀ : J p) : J p' := by
  induction h with
  | refl p => exact h₀
  | step hP hn _ ih => exact ih (hJ _ _ _ _ hP hn h₀)

/-- What a program returns is what it could return from the beginning. -/
theorem Steps.returns {ψ : α → Prop} (h : Steps S P p p') (hp : (p.procs i).Returns ψ) :
    (p'.procs i).Returns ψ := by
  refine h.inv (J := fun p => (p.procs i).Returns ψ) (fun p p' j c _ hn hp => ?_) hp
  obtain ⟨q, k, r, w, hq, -, -, rfl⟩ := next_cases hn
  by_cases hj : i = j
  · subst hj
    rw [hq] at hp
    simpa using hp r
  · simpa [Function.update_of_ne hj] using hp

/-- What every step keeps holds before every step. -/
theorem Steps.along {J : Pool R ι W α → Prop}
    (hJ : ∀ p p' i c, P p i c → p.next S i c = some p' → J p → J p')
    (h : Steps S P p p') (h₀ : J p) : Steps S (fun p i c => P p i c ∧ J p) p p' := by
  induction h with
  | refl p => exact .refl p
  | step hP hn _ ih => exact .step ⟨hP, h₀⟩ hn (ih (hJ _ _ _ _ hP hn h₀))

/-- What every step can only lose, and the last pool has, holds after every step. -/
theorem Steps.back {X : Pool R ι W α → Prop}
    (hX : ∀ p p' i c, P p i c → p.next S i c = some p' → X p' → X p)
    (h : Steps S P p p') (h₀ : X p') :
    X p ∧ Steps S (fun p i c => P p i c ∧ ∀ p', p.next S i c = some p' → X p') p p' := by
  induction h with
  | refl p => exact ⟨h₀, .refl p⟩
  | step hP hn _ ih =>
    obtain ⟨hx, hl⟩ := ih h₀
    refine ⟨hX _ _ _ _ hP hn hx, .step ⟨hP, fun p₁ hn' => ?_⟩ hn hl⟩
    rw [hn] at hn'
    cases hn'
    exact hx

/-- **What a step can only lose**, and keeps just under a condition, holds at the end of a run just
when every step has met the condition. -/
theorem Steps.iff_of_step {J X : Pool R ι W α → Prop} {P : Pool R ι W α → ι → C → Prop}
    (hJ : ∀ p p' i c, p.next S i c = some p' → J p → J p')
    (hX : ∀ p p' i c, p.next S i c = some p' → J p → (X p' ↔ X p ∧ P p i c))
    (h : Steps S (fun _ _ _ => True) p p') (h₀ : J p) (hp : X p) : X p' ↔ Steps S P p p' := by
  constructor
  · intro hp'
    clear hp
    suffices hall : X p ∧ Steps S P p p' from hall.2
    induction h with
    | refl p => exact ⟨hp', .refl p⟩
    | step _ hn _ ih =>
      obtain ⟨hnext, hl⟩ := ih (hJ _ _ _ _ hn h₀) hp'
      obtain ⟨hfirst, hcond⟩ := (hX _ _ _ _ hn h₀).1 hnext
      exact ⟨hfirst, .step hcond hn hl⟩
  · intro hl
    refine (hl.inv (J := fun p => J p ∧ X p) ?_ ⟨h₀, hp⟩).2
    intro p p' i c hP hn hJX
    exact ⟨hJ _ _ _ _ hn hJX.1, (hX _ _ _ _ hn hJX.1).2 ⟨hJX.2, hP⟩⟩

/-- What is left of a program keeps what is always so of it. -/
theorem Steps.always {φ : Prog R α → Prop} (h : Steps S P p p') (h₀ : (p.procs i).Always φ) :
    (p'.procs i).Always φ := by
  refine h.inv (J := fun p => (p.procs i).Always φ) (fun p p' j c _ hn hJ => ?_) h₀
  by_cases hj : i = j
  · subst hj
    obtain ⟨q, k, r, w, hq, -, -, rfl⟩ := next_cases hn
    rw [hq] at hJ
    simp only [Function.update_self]
    exact hJ.2 r
  · rw [next_procs_ne hn hj]
    exact hJ

/-- Where every call yields, nobody has to go on. -/
theorem Steps.free (hy : ∀ q, S.yields q = true) (h : Steps S P p p') (h₀ : p.holder = none) :
    p'.holder = none := by
  refine h.inv (J := fun p => p.holder = none) (fun p p' i c _ hn _ => ?_) h₀
  obtain ⟨q, k, r, w, -, -, -, rfl⟩ := next_cases hn
  cases hk : k r with
  | ret a => rfl
  | call q' k' => simp [inside, hy]

/-- A program that has not begun is as it was. -/
theorem Steps.unbegun {procs : ι → Prog R α} {w : W} (h : Steps S P (init procs w) p)
    (hb : p.begun i = false) : p.procs i = procs i := by
  refine h.inv (J := fun p => p.begun i = false → p.procs i = procs i) ?_ (fun _ => rfl) hb
  intro p p' j c _ hn hJ hb'
  have hj : i ≠ j := by
    rintro rfl
    rw [next_begun hn] at hb'
    cases hb'
  rw [next_procs_ne hn hj, hJ (by rwa [next_begun_ne hn hj] at hb')]

/-! ## The result of one program -/

section Result

/-- **The result of a program among others** when every step of the pool keeps `I` and every call
yields: what it returns satisfies the postcondition of its weakest precondition. -/
theorem Steps.result (I : W → Prop) (post : α → W → Prop) (hy : ∀ q, S.yields q = true)
    (hI : ∀ p p' j c, P p j c → p.next S j c = some p' → I p.world → I p'.world)
    (hpost : ∀ p p' j c a, P p j c → p.next S j c = some p' → I p.world → post a p.world →
      post a p'.world)
    (h : Steps S P p p') (h₀ : I p.world)
    (hwp : ∀ w, I w → S.wp i (.keeping I) (p.procs i) (fun a _ => post a) () w) {a : α}
    (ha : p'.procs i = .ret a) : post a p'.world := by
  have key : I p'.world ∧
        (∀ w, I w → S.wp i (.keeping I) (p'.procs i) (fun a _ => post a) () w) ∨
      I p'.world ∧ ∃ a, p'.procs i = .ret a ∧ post a p'.world := by
    refine h.inv (J := fun p => I p.world ∧
        (∀ w, I w → S.wp i (.keeping I) (p.procs i) (fun a _ => post a) () w) ∨
      I p.world ∧ ∃ a, p.procs i = .ret a ∧ post a p.world) ?_ (.inl ⟨h₀, hwp⟩)
    intro p p' j c hP hn hJ
    rcases hJ with ⟨hw, hwp⟩ | ⟨hw, a, ha, hpa⟩
    · have hw' := hI _ _ _ _ hP hn hw
      by_cases hj : i = j
      · subst hj
        obtain ⟨q, k, r, w, hq, hr, -, rfl⟩ := next_cases hn
        have hc := hwp _ hw
        rw [hq, Server.wp_call_yield (hy q)] at hc
        have hk := (hc.2 () _ hw c r w hr).2
        cases hkr : k r with
        | ret b =>
          rw [hkr] at hk
          exact .inr ⟨hw', b, by simp, hk⟩
        | call q' k' =>
          refine .inl ⟨hw', fun w' hw'' => ?_⟩
          simp only [Function.update_self, hkr] at hk ⊢
          rw [Server.wp_call_yield (hy q')] at hk ⊢
          exact ⟨hw'', hk.2⟩
      · exact .inl ⟨hw', by rw [next_procs_ne hn hj]; exact hwp⟩
    · have hne := next_ne_ret hn ha
      exact .inr ⟨hI _ _ _ _ hP hn hw, a, (next_procs_ne hn hne).trans ha,
        hpost _ _ _ _ _ hP hn hw hpa⟩
  rcases key with ⟨hw, hwp⟩ | ⟨-, b, hb, hpb⟩
  · have := hwp _ hw
    rw [ha] at this
    exact this
  · rw [ha] at hb
    cases hb
    exact hpb

end Result

end Pool

end Lib
