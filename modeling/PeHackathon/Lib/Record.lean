import PeHackathon.Lib.Pool

/-!
# Runs with their record

`Pool.Record`: a run of a pool together with the calls it made, each with its caller and its answer,
the newest first. A condition on a step may read the record so far.
-/

namespace Lib

/-- A call that was made, and what it was answered. -/
structure Made {Q : Type} (R : Q → Type) (ι : Type) where
  caller : ι
  call : Q
  answer : R call

namespace Pool

variable {Q : Type} {R : Q → Type} {ι C W α : Type} [DecidableEq ι]

/-- The call that a step of `i` under choice `c` makes. -/
def made? (S : Server R ι C W) (p : Pool R ι W α) (i : ι) (c : C) : Option (Made R ι) :=
  match p.procs i with
  | .ret _ => none
  | .call q _ => (S.respond i c p.world q).map fun rw => ⟨i, q, rw.1⟩

variable {S : Server R ι C W} {p₀ p p' : Pool R ι W α} {i : ι} {c : C} {m : Made R ι}
  {l l' : List (Made R ι)} {P P' : List (Made R ι) → Pool R ι W α → ι → C → Prop}

/-- Everything a step can do, and the call it is recorded as. -/
theorem made_cases (hm : p.made? S i c = some m) (hn : p.next S i c = some p') :
    ∃ q k r w, p.procs i = .call q k ∧ S.respond i c p.world q = some (r, w) ∧ m = ⟨i, q, r⟩ ∧
      p' = { procs := Function.update p.procs i (k r)
             world := w
             begun := Function.update p.begun i true
             holder := if inside S (k r) then some i else none } := by
  obtain ⟨q, k, r, w, hq, hr, -, rfl⟩ := next_cases hn
  refine ⟨q, k, r, w, hq, hr, ?_, rfl⟩
  unfold made? at hm
  rw [hq] at hm
  dsimp only at hm
  rw [hr] at hm
  cases hm
  rfl

variable (S P p₀) in
/-- A run from `p₀` every step of which meets `P`, with its record. -/
inductive Record : List (Made R ι) → Pool R ι W α → Prop
  | refl : Record [] p₀
  | step {l : List (Made R ι)} {p p' : Pool R ι W α} {i : ι} {c : C} {m : Made R ι}
      (h : Record l p) (hP : P l p i c) (hm : p.made? S i c = some m)
      (hn : p.next S i c = some p') : Record (m :: l) p'

/-- **Induction over a run with its record.** -/
theorem Record.inv {J : List (Made R ι) → Pool R ι W α → Prop} (h₀ : J [] p₀)
    (hJ : ∀ l p i c m p', J l p → P l p i c → p.made? S i c = some m → p.next S i c = some p' →
      J (m :: l) p') (h : Record S p₀ P l p) : J l p := by
  induction h with
  | refl => exact h₀
  | step _ hP hm hn ih => exact hJ _ _ _ _ _ _ ih hP hm hn

/-- Two conditions that agree on the steps from an invariant, which one of them keeps. -/
theorem Record.iff_of_inv {J : List (Made R ι) → Pool R ι W α → Prop} (h₀ : J [] p₀)
    (hJ : ∀ l p i c m p', J l p → P l p i c → p.made? S i c = some m → p.next S i c = some p' →
      J (m :: l) p')
    (hiff : ∀ l p i c m p', J l p → p.made? S i c = some m → p.next S i c = some p' →
      (P l p i c ↔ P' l p i c)) :
    Record S p₀ P l p ↔ Record S p₀ P' l p := by
  constructor
  · intro h
    suffices key : Record S p₀ P' l p ∧ J l p from key.1
    induction h with
    | refl => exact ⟨.refl, h₀⟩
    | step _ hP hm hn ih =>
      exact ⟨.step ih.1 ((hiff _ _ _ _ _ _ ih.2 hm hn).1 hP) hm hn, hJ _ _ _ _ _ _ ih.2 hP hm hn⟩
  · intro h
    suffices key : Record S p₀ P l p ∧ J l p from key.1
    induction h with
    | refl => exact ⟨.refl, h₀⟩
    | step _ hP' hm hn ih =>
      have hP := (hiff _ _ _ _ _ _ ih.2 hm hn).2 hP'
      exact ⟨.step ih.1 hP hm hn, hJ _ _ _ _ _ _ ih.2 hP hm hn⟩

/-- A schedule every step of which meets a check, run with its record. -/
def recordIf (S : Server R ι C W) (check : List (Made R ι) → Pool R ι W α → ι → C → Prop)
    [∀ l p i c, Decidable (check l p i c)] :
    List (Made R ι) → Pool R ι W α → List (ι × C) → Option (List (Made R ι) × Pool R ι W α)
  | l, p, [] => some (l, p)
  | l, p, (i, c) :: rest =>
    if check l p i c then
      (p.made? S i c).bind fun m => (p.next S i c).bind fun p' => recordIf S check (m :: l) p' rest
    else none

theorem Record.of_recordIf [∀ l p i c, Decidable (P l p i c)] {schedule : List (ι × C)}
    (h : Record S p₀ P l p) (hrun : recordIf S P l p schedule = some (l', p')) :
    Record S p₀ P l' p' := by
  induction schedule generalizing l p with
  | nil =>
    cases hrun
    exact h
  | cons x rest ih =>
    simp only [recordIf] at hrun
    split at hrun
    · obtain ⟨m, hm, hrun⟩ := Option.bind_eq_some_iff.1 hrun
      obtain ⟨p₁, hn, hrun⟩ := Option.bind_eq_some_iff.1 hrun
      exact ih (.step h ‹_› hm hn) hrun
    · cases hrun

end Pool

end Lib
