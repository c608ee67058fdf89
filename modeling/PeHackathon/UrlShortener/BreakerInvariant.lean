import PeHackathon.Lib.Record
import PeHackathon.UrlShortener.CircuitBreaker

/-!
# The state and the failure count

The sections that hold the lock, in any order and at any times, keep the state and the count in
step: the breaker is closed exactly while the failures since the last success are fewer than the
threshold (`BreakerSound.serve`). Nothing is asked of the clock here, which may also be set back.
-/

namespace PeHackathon.UrlShortener

open Lib

variable {ι : Type}

/-- Threads that share a breaker, under a clock that may show anything. -/
def anyClockServer (ι : Type) : Server BreakerAnswer ι BreakerChoice CircuitBreaker where
  respond _ c b q := some (breakerServe c b q)
  yields _ := true

/-- The failures recorded since the last recorded success, in a record with the newest call
first. -/
def failuresSinceSuccess (l : List (Made BreakerAnswer ι)) : Nat :=
  (l.takeWhile fun m => m.call ≠ .recordSuccess).countP fun m => m.call = .recordFailure

/-- What holds between any two sections. -/
structure BreakerSound (l : List (Made BreakerAnswer ι)) (b : CircuitBreaker) : Prop where
  closed_iff : b.state = .closed ↔ (b.failureCount : Int) < b.failureThreshold
  failureCount : b.failureCount = failuresSinceSuccess l
  lastFailureTime : b.state ≠ .closed → b.lastFailureTime.isSome

section Sections

variable {l : List (Made BreakerAnswer ι)} {b : CircuitBreaker} {now : Int}

@[simp] theorem checkState_failureCount : (b.checkState now).failureCount = b.failureCount := by
  unfold CircuitBreaker.checkState
  split
  · split <;> rfl
  · rfl

@[simp] theorem checkState_failureThreshold :
    (b.checkState now).failureThreshold = b.failureThreshold := by
  unfold CircuitBreaker.checkState
  split
  · split <;> rfl
  · rfl

@[simp] theorem checkState_lastFailureTime :
    (b.checkState now).lastFailureTime = b.lastFailureTime := by
  unfold CircuitBreaker.checkState
  split
  · split <;> rfl
  · rfl

/-- A check opens or closes nothing. -/
@[simp] theorem checkState_closed : (b.checkState now).state = .closed ↔ b.state = .closed := by
  unfold CircuitBreaker.checkState
  split
  · rename_i hstate _
    split <;> simp [hstate]
  · rfl

theorem BreakerSound.new {failureThreshold : Int} (recoveryTimeout : Int)
    (h : 1 ≤ failureThreshold) :
    BreakerSound ([] : List (Made BreakerAnswer ι)) (.new failureThreshold recoveryTimeout) where
  closed_iff := ⟨fun _ => h, fun _ => rfl⟩
  failureCount := rfl
  lastFailureTime hstate := absurd rfl hstate

theorem BreakerSound.checkState (h : BreakerSound l b) : BreakerSound l (b.checkState now) where
  closed_iff := by simpa using h.closed_iff
  failureCount := by simpa using h.failureCount
  lastFailureTime hstate := by simpa using h.lastFailureTime (by simpa using hstate)

/-- A failure that leaves the breaker closed is one below the threshold. -/
theorem BreakerSound.recordFailure (h : BreakerSound l b) :
    (b.recordFailure now).state = .closed ↔ (b.failureCount : Int) + 1 < b.failureThreshold := by
  unfold CircuitBreaker.recordFailure
  dsimp only
  split
  · rename_i hopens
    simp only [reduceCtorEq, false_iff]
    push_cast at hopens
    omega
  · rename_i hstays
    rw [h.closed_iff]
    push_cast at hstays
    omega

theorem recordFailure_failureCount : (b.recordFailure now).failureCount = b.failureCount + 1 := by
  unfold CircuitBreaker.recordFailure
  dsimp only
  split <;> rfl

theorem recordFailure_failureThreshold :
    (b.recordFailure now).failureThreshold = b.failureThreshold := by
  unfold CircuitBreaker.recordFailure
  dsimp only
  split <;> rfl

theorem recordFailure_lastFailureTime : (b.recordFailure now).lastFailureTime = some now := by
  unfold CircuitBreaker.recordFailure
  dsimp only
  split <;> rfl

end Sections

/-! ## Runs -/

section Run

variable {l : List (Made BreakerAnswer ι)} {m : Made BreakerAnswer ι} {b : CircuitBreaker}

theorem failuresSinceSuccess_success (h : m.call = .recordSuccess) :
    failuresSinceSuccess (m :: l) = 0 := by
  simp [failuresSinceSuccess, h]

theorem failuresSinceSuccess_failure (h : m.call = .recordFailure) :
    failuresSinceSuccess (m :: l) = failuresSinceSuccess l + 1 := by
  simp [failuresSinceSuccess, h]

theorem failuresSinceSuccess_other (hsuccess : m.call ≠ .recordSuccess)
    (hfailure : m.call ≠ .recordFailure) :
    failuresSinceSuccess (m :: l) = failuresSinceSuccess l := by
  simp [failuresSinceSuccess, hsuccess, hfailure]

theorem BreakerSound.other (h : BreakerSound l b) (hsuccess : m.call ≠ .recordSuccess)
    (hfailure : m.call ≠ .recordFailure) : BreakerSound (m :: l) b :=
  { h with
    failureCount := h.failureCount.trans (failuresSinceSuccess_other hsuccess hfailure).symm }

/-- Every section keeps the state and the count in step. -/
theorem BreakerSound.serve (h : BreakerSound l b) (hthreshold : 1 ≤ b.failureThreshold)
    (c : BreakerChoice) :
    BreakerSound (m :: l) (breakerServe c b m.call).2 ∧
      (breakerServe c b m.call).2.failureThreshold = b.failureThreshold := by
  cases hcall : m.call with
  | state =>
    exact ⟨h.checkState.other (by simp [hcall]) (by simp [hcall]), checkState_failureThreshold⟩
  | status =>
    exact ⟨h.checkState.other (by simp [hcall]) (by simp [hcall]), checkState_failureThreshold⟩
  | funcStart admitted => exact ⟨h.other (by simp [hcall]) (by simp [hcall]), rfl⟩
  | funcEnd admitted => exact ⟨h.other (by simp [hcall]) (by simp [hcall]), rfl⟩
  | recordSuccess =>
    refine ⟨⟨⟨fun _ => hthreshold, fun _ => rfl⟩, ?_, fun hstate => absurd rfl hstate⟩, rfl⟩
    exact (failuresSinceSuccess_success hcall).symm
  | recordFailure =>
    refine ⟨⟨?_, ?_, fun _ => ?_⟩, recordFailure_failureThreshold⟩
    · simp only [breakerServe]
      rw [h.recordFailure, recordFailure_failureCount, recordFailure_failureThreshold]
      push_cast
      rfl
    · rw [failuresSinceSuccess_failure hcall, ← h.failureCount]
      exact recordFailure_failureCount
    · simp only [breakerServe]
      rw [recordFailure_lastFailureTime]
      rfl

variable [DecidableEq ι] {p₀ p : Pool BreakerAnswer ι CircuitBreaker BreakerResult}

theorem BreakerSound.record (h₀ : BreakerSound ([] : List (Made BreakerAnswer ι)) p₀.world)
    (hthreshold : 1 ≤ p₀.world.failureThreshold)
    (h : Pool.Record (anyClockServer ι) p₀ (fun _ _ _ _ => True) l p) :
    BreakerSound l p.world ∧ p.world.failureThreshold = p₀.world.failureThreshold := by
  induction h with
  | refl => exact ⟨h₀, rfl⟩
  | step _ _ hm hn ih =>
    obtain ⟨hsound, hsame⟩ := ih
    obtain ⟨q, k, r, b, -, hrespond, rfl, rfl⟩ := Pool.made_cases hm hn
    obtain ⟨-, rfl⟩ := Prod.mk.inj (Option.some.inj hrespond)
    obtain ⟨hsound', hsame'⟩ := hsound.serve (hsame ▸ hthreshold) _
    exact ⟨hsound', hsame'.trans hsame⟩

end Run

/-- **The state follows the failures**: after every run of calls, the breaker is closed exactly
while the failure count is below the threshold, the count is that of the failures since the last
success, and a breaker that is not closed knows when it failed last. A failure in HALF_OPEN opens it
again, and an open one is HALF_OPEN once the timeout has passed. -/
theorem breaker_state_follows_failures [DecidableEq ι] (thread : ι → BreakerThread)
    (failureThreshold recoveryTimeout : Int) (hthreshold : 1 ≤ failureThreshold)
    {l : List (Made BreakerAnswer ι)} {p : Pool BreakerAnswer ι CircuitBreaker BreakerResult}
    (h : Pool.Record (anyClockServer ι)
      (.init (fun i => (thread i).prog) (.new failureThreshold recoveryTimeout))
      (fun _ _ _ _ => True) l p) :
    (p.world.state = .closed ↔ (p.world.failureCount : Int) < failureThreshold) ∧
      p.world.failureCount = failuresSinceSuccess l ∧
      (p.world.state ≠ .closed → p.world.lastFailureTime.isSome) ∧
      (p.world.state = .halfOpen → ∀ now, (p.world.recordFailure now).state = .opened) ∧
      (p.world.state = .opened → ∃ last, p.world.lastFailureTime = some last ∧
        ∀ now, p.world.recoveryTimeout < now - last →
          (p.world.checkState now).state = .halfOpen) := by
  obtain ⟨hsound, hsame⟩ := BreakerSound.record (.new recoveryTimeout hthreshold) hthreshold h
  have hsame : p.world.failureThreshold = failureThreshold := hsame
  refine ⟨hsame ▸ hsound.closed_iff, hsound.failureCount, hsound.lastFailureTime, ?_, ?_⟩
  · intro hhalf now
    have hover : ¬ (p.world.failureCount : Int) < p.world.failureThreshold :=
      fun hlt => absurd (hsound.closed_iff.2 hlt) (by simp [hhalf])
    have hopens : p.world.failureThreshold ≤ ((p.world.failureCount + 1 : Nat) : Int) := by
      push_cast
      omega
    unfold CircuitBreaker.recordFailure
    dsimp only
    rw [if_pos hopens]
  · intro hopened
    obtain ⟨last, hlast⟩ := Option.isSome_iff_exists.1 (hsound.lastFailureTime (by simp [hopened]))
    refine ⟨last, hlast, fun now hnow => ?_⟩
    unfold CircuitBreaker.checkState
    rw [hopened, hlast]
    dsimp only
    rw [if_pos hnow]

/-- Two calls that fail against a threshold of one, the second at an earlier time. -/
theorem breaker_state_follows_failures_sample :
    ∃ (l : List (Made BreakerAnswer (Fin 2)))
      (p : Pool BreakerAnswer (Fin 2) CircuitBreaker BreakerResult),
      Pool.Record (anyClockServer (Fin 2)) (.init (fun _ => breakerCall) (.new 1 30))
        (fun _ _ _ _ => True) l p ∧
        p.world.failureCount = 2 ∧ p.world.state = .opened ∧
        (p.world.state = .opened → ∃ last, p.world.lastFailureTime = some last ∧
          ∀ now, p.world.recoveryTimeout < now - last →
            (p.world.checkState now).state = .halfOpen) := by
  obtain ⟨l, p, hrun, hcount, hstate⟩ :
      ∃ (l : List (Made BreakerAnswer (Fin 2)))
        (p : Pool BreakerAnswer (Fin 2) CircuitBreaker BreakerResult),
        Pool.recordIf (anyClockServer (Fin 2)) (fun _ _ _ _ => True) []
          (.init (fun _ => breakerCall) (.new 1 30))
          [(0, ⟨9, true⟩), (1, ⟨9, true⟩), (0, ⟨9, true⟩), (1, ⟨9, true⟩), (0, ⟨9, false⟩),
            (1, ⟨9, false⟩), (0, ⟨9, true⟩), (1, ⟨5, true⟩)] = some (l, p) ∧
        p.world.failureCount = 2 ∧ p.world.state = .opened :=
    ⟨_, _, rfl, rfl, rfl⟩
  have hrecord := Pool.Record.of_recordIf .refl hrun
  have hall := breaker_state_follows_failures (fun _ : Fin 2 => .call) 1 30 (by decide) hrecord
  exact ⟨l, p, hrecord, hcount, hstate, hall.2.2.2.2⟩

end PeHackathon.UrlShortener
