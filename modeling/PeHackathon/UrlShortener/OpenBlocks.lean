import PeHackathon.UrlShortener.HalfOpenProbe

/-!
# OPEN until the recovery timeout

A failure that leaves the breaker OPEN at time `t` blocks every call that begins until
`t + recovery_timeout`. `record_success` closes the breaker from every state, also for a call that
was admitted before the breaker opened. `open_blocks`: the calls are rejected as long as no success
is recorded in OPEN before the timeout is over; after one that is, the next call runs its function.
-/

namespace PeHackathon.UrlShortener

open Lib

section

variable {ι : Type}

/-- What a run asks of a step: no success is recorded in OPEN before the recovery timeout is
over. -/
def NoLateSuccess (p : BreakerPool ι) (i : ι) (c : BreakerChoice) : Prop :=
  (p.procs i).next? = some .recordSuccess → p.world.breaker.state = .opened →
    ∀ last ∈ p.world.breaker.lastFailureTime, last + p.world.breaker.recoveryTimeout < c.now

instance (p : BreakerPool ι) (i : ι) (c : BreakerChoice) : Decidable (NoLateSuccess p i c) :=
  inferInstanceAs (Decidable (_ → _ → _))

/-- It is `t` or later, and the time is over `t + recovery_timeout` or the breaker is OPEN with its
last failure at `t` or later. -/
def Blocks (recoveryTimeout t : Int) (w : BreakerWorld) : Prop :=
  w.breaker.recoveryTimeout = recoveryTimeout ∧ t ≤ w.now ∧
    (w.now ≤ t + recoveryTimeout →
      w.breaker.state = .opened ∧ ∃ last, w.breaker.lastFailureTime = some last ∧ t ≤ last)

/-! ## The breaker in OPEN -/

namespace CircuitBreaker

variable {b : CircuitBreaker} {now last : Int}

theorem checkState_recoveryTimeout : (b.checkState now).recoveryTimeout = b.recoveryTimeout := by
  unfold checkState
  split
  · split <;> rfl
  · rfl

theorem recordFailure_recoveryTimeout :
    (b.recordFailure now).recoveryTimeout = b.recoveryTimeout := by
  simp only [recordFailure]
  split <;> rfl

theorem recordFailure_lastFailureTime : (b.recordFailure now).lastFailureTime = some now := by
  simp only [recordFailure]
  split <;> rfl

/-- A check in OPEN before the timeout is over leaves the breaker as it is. -/
theorem checkState_opened (hopen : b.state = .opened) (hlast : b.lastFailureTime = some last)
    (hnow : now ≤ last + b.recoveryTimeout) : b.checkState now = b := by
  unfold checkState
  rw [hopen, hlast]
  exact if_neg (by omega)

/-- Another failure in OPEN leaves the breaker in OPEN. -/
theorem recordFailure_opened (hopen : b.state = .opened) :
    (b.recordFailure now).state = .opened := by
  simp only [recordFailure]
  split
  · rfl
  · exact hopen

end CircuitBreaker

/-! ## Steps -/

/-- A step at a time until `t + recovery_timeout` leaves OPEN only by a success. -/
theorem Blocks.serve {recoveryTimeout t : Int} {w : BreakerWorld} {c : BreakerChoice}
    {q : BreakerCall} (h : Blocks recoveryTimeout t w) (hclock : w.now ≤ c.now)
    (hsuccess : q = .recordSuccess → w.breaker.state = .opened →
      ∀ last ∈ w.breaker.lastFailureTime, last + w.breaker.recoveryTimeout < c.now) :
    Blocks recoveryTimeout t ⟨c.now, (breakerServe c w.breaker q).2⟩ := by
  obtain ⟨htimeout, hfrom, hopen⟩ := h
  have hfrom : t ≤ c.now := le_trans hfrom hclock
  have hcheck : ∀ b : CircuitBreaker, b = w.breaker.checkState c.now →
      Blocks recoveryTimeout t ⟨c.now, b⟩ := by
    intro b hb
    refine ⟨by rw [hb, CircuitBreaker.checkState_recoveryTimeout, htimeout], hfrom, fun hnow => ?_⟩
    have hnow : c.now ≤ t + recoveryTimeout := hnow
    obtain ⟨hstate, last, hlast, hle⟩ := hopen (by omega)
    rw [hb, CircuitBreaker.checkState_opened hstate hlast (by omega)]
    exact ⟨hstate, last, hlast, hle⟩
  cases q with
  | state => exact hcheck _ rfl
  | status => exact hcheck _ rfl
  | funcStart admitted => exact ⟨htimeout, hfrom, fun hnow => hopen (le_trans hclock hnow)⟩
  | funcEnd admitted => exact ⟨htimeout, hfrom, fun hnow => hopen (le_trans hclock hnow)⟩
  | recordSuccess =>
    refine ⟨htimeout, hfrom, fun hnow => ?_⟩
    have hnow : c.now ≤ t + recoveryTimeout := hnow
    obtain ⟨hstate, last, hlast, hle⟩ := hopen (by omega)
    have hlate := hsuccess rfl hstate last (by rw [hlast]; rfl)
    omega
  | recordFailure =>
    refine ⟨CircuitBreaker.recordFailure_recoveryTimeout.trans htimeout, hfrom, fun hnow => ?_⟩
    have hnow : c.now ≤ t + recoveryTimeout := hnow
    obtain ⟨hstate, -⟩ := hopen (by omega)
    exact ⟨CircuitBreaker.recordFailure_opened hstate, c.now,
      CircuitBreaker.recordFailure_lastFailureTime, hfrom⟩

variable [DecidableEq ι] {p p' : BreakerPool ι} {i : ι} {c : BreakerChoice}

/-- The timeout is that of the breaker the threads began with. -/
theorem recoveryTimeout_steps {P : BreakerPool ι → ι → BreakerChoice → Prop}
    (hphases : InPhases p) (h : Pool.Steps (breakerServer ι) P p p') :
    p'.world.breaker.recoveryTimeout = p.world.breaker.recoveryTimeout := by
  refine (h.inv (J := fun q => InPhases q ∧
    q.world.breaker.recoveryTimeout = p.world.breaker.recoveryTimeout) ?_ ⟨hphases, rfl⟩).2
  rintro q q' j c _ hn ⟨hphases, htimeout⟩
  obtain ⟨phase, hphase⟩ := hphases j
  obtain ⟨-, -, -, call, -, hbreaker⟩ := breaker_step hn hphase
  refine ⟨hphases.steps (.step (P := fun _ _ _ => True) trivial hn (.refl q')), ?_⟩
  rw [hbreaker, ← htimeout]
  cases call with
  | state => exact CircuitBreaker.checkState_recoveryTimeout
  | status => exact CircuitBreaker.checkState_recoveryTimeout
  | recordFailure => exact CircuitBreaker.recordFailure_recoveryTimeout
  | _ => rfl

/-- What blocks the calls lasts through a run that records no success in OPEN before the timeout. -/
theorem Blocks.steps {recoveryTimeout t : Int} (hphases : InPhases p)
    (h : Pool.Steps (breakerServer ι) NoLateSuccess p p')
    (hblocks : Blocks recoveryTimeout t p.world) :
    Blocks recoveryTimeout t p'.world := by
  refine (h.inv (J := fun q => InPhases q ∧ Blocks recoveryTimeout t q.world) ?_
    ⟨hphases, hblocks⟩).2
  rintro q q' j c hlate hn ⟨hphases, hblocks⟩
  obtain ⟨phase, hphase⟩ := hphases j
  obtain ⟨hclock, -, hnow, call, hcall, hbreaker⟩ := breaker_step hn hphase
  refine ⟨hphases.steps (.step (P := fun _ _ _ => True) trivial hn (.refl q')), ?_⟩
  have hserve := hblocks.serve (q := call) hclock (fun hq => hlate (by rw [hcall, hq]))
  rwa [← hnow, ← hbreaker] at hserve

/-- A call that checks the breaker while it blocks is rejected before its function. -/
theorem Blocks.rejects {recoveryTimeout t : Int} (hphases : InPhases p)
    (hblocks : Blocks recoveryTimeout t p.world) (hcall : (p.procs i).next? = some .state)
    (hn : p.next (breakerServer ι) i c = some p') (hnow : c.now ≤ t + recoveryTimeout) :
    p'.procs i = .ret .circuitBreakerOpen := by
  obtain ⟨phase, hphase⟩ := hphases i
  obtain ⟨hclock, hafter, -, -⟩ := breaker_step hn hphase
  obtain ⟨htimeout, -, hopen⟩ := hblocks
  obtain ⟨hstate, last, hlast, hle⟩ := hopen (by omega)
  have hcheck : p.world.breaker.checkState c.now = p.world.breaker :=
    CircuitBreaker.checkState_opened hstate hlast (by omega)
  rw [hafter]
  rw [hphase, BreakerPhase.next?_prog] at hcall
  cases phase with
  | begins =>
    simp only [BreakerPhase.after, hcheck, hstate]
    rfl
  | ended returned => cases returned <;> cases hcall
  | _ => cases hcall

/-! ## After a late success -/

/-- After a success that is recorded in OPEN before the timeout is over, a call that begins at the
same time goes on to its function. -/
theorem late_success_admits (hphases : InPhases p) (hfree : p.holder = none)
    (hlate : ¬ NoLateSuccess p i c) (hn : p.next (breakerServer ι) i c = some p') {j : ι}
    (hj : (p'.procs j).next? = some .state) :
    (∃ last, p.world.breaker.state = .opened ∧ p.world.breaker.lastFailureTime = some last ∧
      c.now ≤ last + p.world.breaker.recoveryTimeout) ∧
      ∃ q, p'.next (breakerServer ι) j c = some q ∧
      (q.procs j).next? = some (.funcStart .closed) := by
  unfold NoLateSuccess at hlate
  push Not at hlate
  obtain ⟨hsuccess, hopen, last, hlast, hle⟩ := hlate
  refine ⟨⟨last, hopen, hlast, hle⟩, ?_⟩
  have hsteps : Pool.Steps (breakerServer ι) (fun _ _ _ => True) p p' := .step trivial hn (.refl p')
  obtain ⟨phase, hphase⟩ := hphases i
  obtain ⟨-, -, hnow, call, hcall, hbreaker⟩ := breaker_step hn hphase
  have hclosed : p'.world.breaker.state = .closed := by
    rw [hsuccess] at hcall
    cases hcall
    rw [hbreaker]
    rfl
  obtain ⟨phase', hphase'⟩ := hphases.steps hsteps j
  have hbegins : p'.procs j = breakerCall := by
    rw [hphase'] at hj ⊢
    cases phase' with
    | begins => rfl
    | ended returned => cases returned <;> cases hj
    | _ => cases hj
  have hcheck : p'.world.breaker.checkState c.now = p'.world.breaker := by
    unfold CircuitBreaker.checkState
    rw [hclosed]
  have hrespond : (breakerServer ι).respond j c p'.world .state =
      some (BreakerState.closed, ⟨c.now, p'.world.breaker⟩) := by
    refine (if_pos (le_of_eq hnow)).trans ?_
    simp only [breakerServe, hcheck, hclosed]
  have hnext := Pool.next_of_call (hsteps.free (fun _ => rfl) hfree) hbegins hrespond
  refine ⟨_, hnext, ?_⟩
  simp only [Function.update_self]
  rfl

/-! ## Runs -/

/-- **OPEN blocks until the recovery timeout**: after a failure recorded at `c.now` has left the
breaker OPEN, a call that checks the breaker at a time until `c.now + recovery_timeout` is rejected
by its check, in every run that goes on without recording a success in OPEN before the timeout is
over. Where a success is recorded so, the next call to check the breaker at that time goes on to its
function. -/
theorem open_blocks (thread : ι → BreakerThread) (failureThreshold recoveryTimeout now : Int) :
    (∀ p p' q q' i j c c', Pool.Steps (breakerServer ι) (fun _ _ _ => True)
        (breakerThreads thread failureThreshold recoveryTimeout now) p →
      (p.procs i).next? = some .recordFailure → p.next (breakerServer ι) i c = some p' →
      p'.world.breaker.state = .opened → Pool.Steps (breakerServer ι) NoLateSuccess p' q →
      (q.procs j).next? = some .state → q.next (breakerServer ι) j c' = some q' →
      c'.now ≤ c.now + recoveryTimeout → q'.procs j = .ret .circuitBreakerOpen) ∧
    ∀ p p' i j c, Pool.Steps (breakerServer ι) (fun _ _ _ => True)
        (breakerThreads thread failureThreshold recoveryTimeout now) p →
      ¬ NoLateSuccess p i c → p.next (breakerServer ι) i c = some p' →
      (p'.procs j).next? = some .state →
      (∃ last, p.world.breaker.state = .opened ∧ p.world.breaker.lastFailureTime = some last ∧
        c.now ≤ last + recoveryTimeout) ∧
      ∃ q, p'.next (breakerServer ι) j c = some q ∧
        (q.procs j).next? = some (.funcStart .closed) := by
  have hphases := inPhases_threads thread failureThreshold recoveryTimeout now
  constructor
  · intro p p' q q' i j c c' hrun hfailure hn hopen hsteps hcall hn' hnow
    have hphases' := hphases.steps hrun
    obtain ⟨phase, hphase⟩ := hphases' i
    obtain ⟨hclock, -, hnow', call, hq, hbreaker⟩ := breaker_step hn hphase
    have htimeout := recoveryTimeout_steps hphases hrun
    have hblocks : Blocks recoveryTimeout c.now p'.world := by
      rw [hfailure] at hq
      cases hq
      refine ⟨?_, le_of_eq hnow'.symm, fun _ => ⟨hopen, c.now, ?_, le_refl _⟩⟩
      · rw [hbreaker]
        exact CircuitBreaker.recordFailure_recoveryTimeout.trans htimeout
      · rw [hbreaker]
        exact CircuitBreaker.recordFailure_lastFailureTime
    have hstep := hphases'.steps (.step (P := fun _ _ _ => True) trivial hn (.refl p'))
    exact (hblocks.steps hstep hsteps).rejects (hstep.steps hsteps) hcall hn' hnow
  · intro p p' i j c hrun hlate hn hj
    have htimeout := recoveryTimeout_steps hphases hrun
    obtain ⟨⟨last, hopen, hlast, hle⟩, hadmits⟩ :=
      late_success_admits (hphases.steps hrun) (hrun.free (fun _ => rfl) rfl) hlate hn hj
    rw [htimeout] at hle
    exact ⟨⟨last, hopen, hlast, hle⟩, hadmits⟩

end

/-! ## Three calls -/

/-- Two calls pass a closed breaker; the first fails and opens it. -/
def openedRun {ι : Type} (opener other : ι) : List (ι × BreakerChoice) :=
  breakerTurns 1 opener 0 false ++ breakerTurns 1 other 0 true ++ breakerTurns 2 opener 0 false

/-- The second call waits until the timeout is over; the third is rejected. -/
theorem open_blocks_sample : ∃ p : BreakerPool (Fin 3), p.procs 2 = .ret .circuitBreakerOpen := by
  obtain ⟨p, p', q, q', hrun, hn, hopen, hsteps, hcall, hn'⟩ : ∃ p p' q q' : BreakerPool (Fin 3),
      (breakerThreads (fun _ => .call) 1 30 0).runIf (breakerServer (Fin 3)) (fun _ _ _ => True)
          (openedRun 0 1) = some p ∧
        p.next (breakerServer (Fin 3)) 0 ⟨0, false⟩ = some p' ∧ p'.world.breaker.state = .opened ∧
        p'.runIf (breakerServer (Fin 3)) NoLateSuccess (breakerTurns 2 1 1 true) = some q ∧
        (q.procs 2).next? = some .state ∧ q.next (breakerServer (Fin 3)) 2 ⟨30, true⟩ = some q' :=
    ⟨_, _, _, _, rfl, rfl, rfl, rfl, rfl, rfl⟩
  have hfailure : (p.procs 0).next? = some .recordFailure := by
    cases hrun
    rfl
  exact ⟨q', (open_blocks (fun _ => .call) 1 30 0).1 p p' q q' 0 2 ⟨0, false⟩ ⟨30, true⟩
    (.of_runIf hrun) hfailure hn hopen (.of_runIf hsteps) hcall hn' (by decide)⟩

/-- The first call fails at time 0 and opens the breaker, the second returns at time 1, and the
third, which begins at time 2, runs its function. -/
theorem late_success_closes : ∃ p p' q q' : BreakerPool (Fin 3),
    Pool.Steps (breakerServer (Fin 3)) (fun _ _ _ => True)
        (breakerThreads (fun _ => .call) 1 30 0) p ∧
      (p.procs 0).next? = some .recordFailure ∧
      p.next (breakerServer (Fin 3)) 0 ⟨0, false⟩ = some p' ∧ p'.world.breaker.state = .opened ∧
      Pool.Steps (breakerServer (Fin 3)) (fun _ _ _ => True) p' q ∧
      (q.procs 2).next? = some .state ∧
      q.next (breakerServer (Fin 3)) 2 ⟨2, true⟩ = some q' ∧ (2 : Int) ≤ 0 + 30 ∧
      (q'.procs 2).next? = some (.funcStart .closed) := by
  obtain ⟨p, p', q, q', hrun, hfailure, hn, hopen, hsteps, hcall, hn', hstart⟩ :
      ∃ p p' q q' : BreakerPool (Fin 3),
      (breakerThreads (fun _ => .call) 1 30 0).runIf (breakerServer (Fin 3)) (fun _ _ _ => True)
          (openedRun 0 1) = some p ∧
        (p.procs 0).next? = some .recordFailure ∧
        p.next (breakerServer (Fin 3)) 0 ⟨0, false⟩ = some p' ∧ p'.world.breaker.state = .opened ∧
        p'.runIf (breakerServer (Fin 3)) (fun _ _ _ => True) (breakerTurns 3 1 1 true) = some q ∧
        (q.procs 2).next? = some .state ∧ q.next (breakerServer (Fin 3)) 2 ⟨2, true⟩ = some q' ∧
        (q'.procs 2).next? = some (.funcStart .closed) :=
    ⟨_, _, _, _, rfl, rfl, rfl, rfl, rfl, rfl, rfl, rfl⟩
  exact ⟨p, p', q, q', .of_runIf hrun, hfailure, hn, hopen, .of_runIf hsteps, hcall, hn', by
    decide, hstart⟩

end PeHackathon.UrlShortener
