import Mathlib.Data.Fintype.Basic
import PeHackathon.UrlShortener.CircuitBreaker

/-!
# One call in HALF_OPEN

The breaker is HALF_OPEN until a call records its outcome, and every check until then lets its call
pass. `one_probe`: no two calls admitted in HALF_OPEN run their functions at the same time, as long
as no check finds HALF_OPEN while a call that was admitted so has not ended its function; and where
one does, the two can be made to run at the same time.
-/

namespace PeHackathon.UrlShortener

open Lib

section

variable {ι : Type}

/-- The function of call `i`, which was admitted in HALF_OPEN, is in progress. -/
def ProbeRunning (p : BreakerPool ι) (i : ι) : Prop :=
  (p.procs i).next? = some (.funcEnd .halfOpen)

/-- At most one function of the calls admitted in HALF_OPEN is in progress. -/
def OneProbe (p : BreakerPool ι) : Prop :=
  ∀ i j, ProbeRunning p i → ProbeRunning p j → i = j

/-- Call `i` was admitted in HALF_OPEN and has not ended its function. -/
def Probing (p : BreakerPool ι) (i : ι) : Prop :=
  (p.procs i).next? = some (.funcStart .halfOpen) ∨ ProbeRunning p i

/-- What a run asks of a step: a check finds HALF_OPEN only if no call is admitted in HALF_OPEN
already. -/
def ChecksAlone (p : BreakerPool ι) (i : ι) (c : BreakerChoice) : Prop :=
  (p.procs i).next? = some .state → (p.world.breaker.checkState c.now).state = .halfOpen →
    ∀ j, ¬ Probing p j

instance (p : BreakerPool ι) (i : ι) : Decidable (Probing p i) :=
  inferInstanceAs (Decidable (_ = _ ∨ _ = _))

instance [Fintype ι] (p : BreakerPool ι) (i : ι) (c : BreakerChoice) :
    Decidable (ChecksAlone p i c) :=
  inferInstanceAs (Decidable (_ → _ → _))

variable [DecidableEq ι] {p p' : BreakerPool ι} {i j : ι} {c : BreakerChoice}

/-! ## At most one -/

/-- A step makes its call one that was admitted in HALF_OPEN only by a check. -/
theorem probing_step (h : p.next (breakerServer ι) i c = some p') {phase : BreakerPhase}
    (hphase : p.procs i = phase.prog) (hprobing : Probing p' i) : Probing p i ∨
      (p.procs i).next? = some .state ∧ (p.world.breaker.checkState c.now).state = .halfOpen := by
  have hafter := (breaker_step h hphase).2.1
  unfold Probing ProbeRunning at hprobing ⊢
  rw [hafter, BreakerPhase.next?_prog] at hprobing
  rw [hphase, BreakerPhase.next?_prog]
  cases phase with
  | begins =>
    right
    refine ⟨rfl, ?_⟩
    simp only [BreakerPhase.after, BreakerPhase.checked] at hprobing
    split at hprobing
    · simp [BreakerPhase.call?] at hprobing
    · simpa [BreakerPhase.call?] using hprobing
  | admitted state =>
    left
    simpa [BreakerPhase.after, BreakerPhase.call?] using hprobing
  | running state =>
    simp only [BreakerPhase.after] at hprobing
    cases hreturned : c.returned <;> simp [hreturned, BreakerPhase.call?] at hprobing
  | ended returned => simp [BreakerPhase.after, BreakerPhase.call?] at hprobing
  | reads => simp [BreakerPhase.after, BreakerPhase.call?] at hprobing
  | done r => simp [BreakerPhase.after, BreakerPhase.call?] at hprobing

theorem probing_ne (h : p.next (breakerServer ι) i c = some p') (hj : j ≠ i) :
    Probing p' j ↔ Probing p j := by
  unfold Probing ProbeRunning
  rw [Pool.next_procs_ne h hj]

/-- A step keeps at most one call admitted in HALF_OPEN. -/
theorem atMostOne_step (hphases : InPhases p)
    (halone : ChecksAlone p i c) (h : p.next (breakerServer ι) i c = some p')
    (hone : ∀ j k, Probing p j → Probing p k → j = k) :
    ∀ j k, Probing p' j → Probing p' k → j = k := by
  obtain ⟨phase, hphase⟩ := hphases i
  -- a call that steps and one that does not
  have hother : ∀ j, j ≠ i → Probing p' i → ¬ Probing p' j := by
    intro j hj hi hjp
    have hjp := (probing_ne h hj).1 hjp
    rcases probing_step h hphase hi with hi | ⟨hstate, hhalf⟩
    · exact hj (hone j i hjp hi)
    · exact halone hstate hhalf j hjp
  intro j k hj hk
  by_cases hji : j = i
  · by_cases hki : k = i
    · rw [hji, hki]
    · rw [hji] at hj
      exact absurd hk (hother k hki hj)
  · by_cases hki : k = i
    · rw [hki] at hk
      exact absurd hj (hother j hji hk)
    · exact hone j k ((probing_ne h hji).1 hj) ((probing_ne h hki).1 hk)

/-! ## A second one -/

/-- A call admitted in HALF_OPEN can be brought to run its function, without disturbing the
others. -/
theorem probe_runs (hphases : InPhases p)
    (hfree : p.holder = none) (h : Probing p i) :
    ∃ p', Pool.Steps (breakerServer ι) (fun _ _ _ => True) p p' ∧ ProbeRunning p' i ∧
      ∀ j, j ≠ i → p'.procs j = p.procs j := by
  rcases h with hstart | hrunning
  · obtain ⟨phase, hphase⟩ := hphases i
    have hadmitted : p.procs i = (BreakerPhase.admitted .halfOpen).prog := by
      rw [hphase] at hstart ⊢
      cases phase with
      | admitted state =>
        cases hstart
        rfl
      | ended returned => cases returned <;> cases hstart
      | _ => cases hstart
    have hrespond : (breakerServer ι).respond i ⟨p.world.now, true⟩ p.world (.funcStart .halfOpen) =
        some ((), ⟨p.world.now, p.world.breaker⟩) := if_pos (Int.le_refl p.world.now)
    have hnext := Pool.next_of_call hfree hadmitted hrespond
    refine ⟨_, .step trivial hnext (.refl _), ?_, fun j hj => Pool.next_procs_ne hnext hj⟩
    unfold ProbeRunning
    simp only [Function.update_self]
    rfl
  · exact ⟨p, .refl p, hrunning, fun _ _ => rfl⟩

/-- A check that finds HALF_OPEN while a call is admitted so lets a second function run beside
it. -/
theorem second_probe (hphases : InPhases p)
    (hfree : p.holder = none) (halone : ¬ ChecksAlone p i c)
    (h : p.next (breakerServer ι) i c = some p') :
    ∃ p'', Pool.Steps (breakerServer ι) (fun _ _ _ => True) p' p'' ∧ ¬ OneProbe p'' := by
  unfold ChecksAlone at halone
  push Not at halone
  obtain ⟨hstate, hhalf, j, hj⟩ := halone
  obtain ⟨phase, hphase⟩ := hphases i
  have hafter := (breaker_step h hphase).2.1
  have hadmitted : p'.procs i = (BreakerPhase.admitted .halfOpen).prog := by
    rw [hphase] at hstate
    rw [hafter]
    cases phase with
    | begins =>
      unfold BreakerPhase.after
      rw [hhalf]
      rfl
    | ended returned => cases returned <;> cases hstate
    | _ => cases hstate
  have hji : j ≠ i := by
    rintro rfl
    unfold Probing ProbeRunning at hj
    rw [hstate] at hj
    rcases hj with hj | hj <;> cases hj
  -- after the check both calls are admitted, and each goes on to its function
  have hsteps : Pool.Steps (breakerServer ι) (fun _ _ _ => True) p p' := .step trivial h (.refl p')
  have hi' : Probing p' i := by
    unfold Probing
    rw [hadmitted]
    exact .inl rfl
  have hj' : Probing p' j := (probing_ne h hji).2 hj
  obtain ⟨p₁, hsteps₁, hi₁, hothers₁⟩ :=
    probe_runs (hphases.steps hsteps) (hsteps.free (fun _ => rfl) hfree) hi'
  have hj₁ : Probing p₁ j := by
    unfold Probing ProbeRunning at hj' ⊢
    rwa [hothers₁ j hji]
  obtain ⟨p₂, hsteps₂, hj₂, hothers₂⟩ := probe_runs ((hphases.steps hsteps).steps hsteps₁)
    (hsteps₁.free (fun _ => rfl) (hsteps.free (fun _ => rfl) hfree)) hj₁
  have hi₂ : ProbeRunning p₂ i := by
    unfold ProbeRunning at hi₁ ⊢
    rwa [hothers₂ i hji.symm]
  exact ⟨p₂, hsteps₁.trans hsteps₂, fun hone => hji (hone j i hj₂ hi₂)⟩

/-! ## Runs -/

/-- **HALF_OPEN lets one call through** in every run each of whose checks finds HALF_OPEN only while
no call admitted so has its function before it or in progress. From the first check that does
otherwise, a run can go on to two functions in progress. -/
theorem one_probe (thread : ι → BreakerThread) (failureThreshold recoveryTimeout now : Int) :
    (∀ p, Pool.Steps (breakerServer ι) ChecksAlone
        (breakerThreads thread failureThreshold recoveryTimeout now) p → OneProbe p) ∧
      ∀ p i c p', Pool.Steps (breakerServer ι) ChecksAlone
          (breakerThreads thread failureThreshold recoveryTimeout now) p →
        ¬ ChecksAlone p i c → p.next (breakerServer ι) i c = some p' →
          ∃ p'', Pool.Steps (breakerServer ι) (fun _ _ _ => True) p' p'' ∧ ¬ OneProbe p'' := by
  have hphases := inPhases_threads thread failureThreshold recoveryTimeout now
  constructor
  · intro p h
    have hone : InPhases p ∧ ∀ i j, Probing p i → Probing p j → i = j := by
      refine h.inv (J := fun p => InPhases p ∧ ∀ i j, Probing p i → Probing p j → i = j) ?_
        ⟨hphases, ?_⟩
      · rintro p p' i c halone hn ⟨hphases, hone⟩
        exact ⟨hphases.steps (.step (P := fun _ _ _ => True) trivial hn (.refl p')),
          atMostOne_step hphases halone hn hone⟩
      · intro i j hi _
        have hproc : (breakerThreads thread failureThreshold recoveryTimeout now).procs i =
          (thread i).prog := rfl
        unfold Probing ProbeRunning at hi
        rw [hproc] at hi
        cases hthread : thread i <;> rw [hthread] at hi <;> rcases hi with hi | hi <;> cases hi
    exact fun i j hi hj => hone.2 i j (.inr hi) (.inr hj)
  · intro p i c p' h halone hn
    exact second_probe (hphases.steps h) (h.free (fun _ => rfl) rfl) halone hn

end

/-! ## Two threads -/

/-- The steps of thread `i` at one time, where a function fails or returns. -/
def breakerTurns {ι : Type} (n : Nat) (i : ι) (now : Int) (returned : Bool) :
    List (ι × BreakerChoice) :=
  List.replicate n (i, ⟨now, returned⟩)

/-- The first call fails and opens the breaker; the second is let through after the timeout, and the
third waits until it is over. -/
theorem one_probe_sample : ∃ p : BreakerPool (Fin 3),
    p.procs 1 = .ret .result ∧ p.procs 2 = .ret .result ∧ OneProbe p := by
  obtain ⟨p, hrun, h₁, h₂⟩ : ∃ p : BreakerPool (Fin 3),
      (breakerThreads (fun _ => .call) 1 30 0).runIf (breakerServer (Fin 3)) ChecksAlone
          (breakerTurns 4 0 0 false ++ breakerTurns 4 1 31 true ++ breakerTurns 4 2 31 true) =
            some p ∧
        p.procs 1 = .ret .result ∧ p.procs 2 = .ret .result :=
    ⟨_, rfl, rfl, rfl⟩
  exact ⟨p, h₁, h₂, (one_probe (fun _ => .call) 1 30 0).1 p (.of_runIf hrun)⟩

/-- Two calls check the breaker after the timeout, before either has called its function. -/
def probeRace {ι : Type} (opener first second : ι) : List (ι × BreakerChoice) :=
  breakerTurns 4 opener 0 false ++ breakerTurns 2 first 31 true ++ breakerTurns 2 second 31 true

theorem two_probes :
    ∃ p : BreakerPool (Fin 3), Pool.Steps (breakerServer (Fin 3)) (fun _ _ _ => True)
    (breakerThreads (fun _ => .call) 1 30 0) p ∧ ¬ OneProbe p := by
  obtain ⟨p, hrun, h₁, h₂⟩ : ∃ p : BreakerPool (Fin 3),
      (breakerThreads (fun _ => .call) 1 30 0).runIf (breakerServer (Fin 3)) (fun _ _ _ => True)
          (probeRace 0 1 2) = some p ∧ ProbeRunning p 1 ∧ ProbeRunning p 2 :=
    ⟨_, rfl, rfl, rfl⟩
  exact ⟨p, .of_runIf hrun, fun h => absurd (h 1 2 h₁ h₂) (by decide)⟩

end PeHackathon.UrlShortener
