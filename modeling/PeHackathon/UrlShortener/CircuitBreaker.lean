import PeHackathon.Lib.Pool

/-!
# The circuit breaker

`app/circuit_breaker.py`: the sections that hold the lock, each one step, and `call` between them.
The function that is called runs outside the lock: it starts at one step and ends at a later one, in
success or with an exception. Its two steps carry the local variable `state` that let it pass. The
clock does not run backwards; its unit is that of `recovery_timeout`.
-/

namespace PeHackathon.UrlShortener

open Lib

/-! ## The breaker -/

inductive BreakerState
  | closed
  /-- Service is failing, requests are blocked. -/
  | opened
  | halfOpen
  deriving DecidableEq, Repr

structure CircuitBreaker where
  failureThreshold : Int
  recoveryTimeout : Int
  failureCount : Nat
  lastFailureTime : Option Int
  state : BreakerState
  deriving DecidableEq, Repr

namespace CircuitBreaker

def new (failureThreshold recoveryTimeout : Int) : CircuitBreaker where
  failureThreshold := failureThreshold
  recoveryTimeout := recoveryTimeout
  failureCount := 0
  lastFailureTime := none
  state := .closed

/-- The property `state`: what it makes of the breaker. -/
def checkState (now : Int) (b : CircuitBreaker) : CircuitBreaker :=
  match b.state, b.lastFailureTime with
  | .opened, some last =>
    if b.recoveryTimeout < now - last then { b with state := .halfOpen } else b
  | _, _ => b

def recordSuccess (b : CircuitBreaker) : CircuitBreaker :=
  { b with failureCount := 0, state := .closed }

def recordFailure (now : Int) (b : CircuitBreaker) : CircuitBreaker :=
  let b := { b with failureCount := b.failureCount + 1, lastFailureTime := some now }
  if b.failureThreshold ≤ b.failureCount then { b with state := .opened } else b

end CircuitBreaker

/-! ## Steps -/

inductive BreakerCall
  /-- `state = self.state`, in `call`. -/
  | state
  /-- The same property, read by `get_status`. -/
  | status
  | funcStart (admitted : BreakerState)
  /-- `func` is over: whether it returned. -/
  | funcEnd (admitted : BreakerState)
  | recordSuccess
  | recordFailure
  deriving DecidableEq, Repr

abbrev BreakerAnswer : BreakerCall → Type
  | .state | .status => BreakerState
  | .funcEnd _ => Bool
  | _ => Unit

/-- What is left open at a step: the time, and whether a function that ends returned. -/
structure BreakerChoice where
  now : Int
  returned : Bool

structure BreakerWorld where
  now : Int
  breaker : CircuitBreaker

/-- What a step answers and does at its time. -/
def breakerServe (c : BreakerChoice) (b : CircuitBreaker) :
    (q : BreakerCall) → BreakerAnswer q × CircuitBreaker
  | .state | .status => ((b.checkState c.now).state, b.checkState c.now)
  | .funcStart _ => ((), b)
  | .funcEnd _ => (c.returned, b)
  | .recordSuccess => ((), b.recordSuccess)
  | .recordFailure => ((), b.recordFailure c.now)

/-- Threads that share the breaker. -/
def breakerServer (ι : Type) : Server BreakerAnswer ι BreakerChoice BreakerWorld where
  respond _ c w q :=
    if w.now ≤ c.now then
      some ((breakerServe c w.breaker q).1, ⟨c.now, (breakerServe c w.breaker q).2⟩)
    else none
  yields _ := true

/-! ## Threads -/

abbrev BreakerProg (α : Type) := Prog BreakerAnswer α

def BreakerProg.step (q : BreakerCall) : BreakerProg (BreakerAnswer q) := .perform q

open BreakerProg

inductive BreakerResult
  /-- What `func` returned. -/
  | result
  /-- What `func` raised is raised again. -/
  | raised
  | circuitBreakerOpen
  | status (state : BreakerState)
  deriving DecidableEq, Repr

/-- The part of `call` after `func` is over. -/
def callEnded (returned : Bool) : BreakerProg BreakerResult := do
  if returned then
    step .recordSuccess
    return .result
  else
    step .recordFailure
    return .raised

/-- `func` runs. -/
def callRunning (state : BreakerState) : BreakerProg BreakerResult := do
  let returned ← step (.funcEnd state)
  callEnded returned

/-- The part of `call` after its check. -/
def callChecked (state : BreakerState) : BreakerProg BreakerResult := do
  if state = .opened then return .circuitBreakerOpen
  else
    step (.funcStart state)
    callRunning state

/-- `call`. -/
def breakerCall : BreakerProg BreakerResult := do
  let state ← step .state
  callChecked state

/-- `get_status`. -/
def getStatus : BreakerProg BreakerResult := do
  let state ← step .status
  return .status state

/-- Who may run; a thread that calls several times is several of them, one after the other. -/
inductive BreakerThread
  | call
  | status

def BreakerThread.prog : BreakerThread → BreakerProg BreakerResult
  | .call => breakerCall
  | .status => getStatus

abbrev BreakerPool (ι : Type) := Pool BreakerAnswer ι BreakerWorld BreakerResult

/-- A new breaker, and threads none of which has taken a step. -/
def breakerThreads {ι : Type} (thread : ι → BreakerThread)
    (failureThreshold recoveryTimeout now : Int) :
    BreakerPool ι :=
  .init (fun i => (thread i).prog) ⟨now, .new failureThreshold recoveryTimeout⟩

/-! ## Where a thread stands -/

/-- What is left of a thread. -/
inductive BreakerPhase
  | begins
  | admitted (state : BreakerState)
  | running (state : BreakerState)
  | ended (returned : Bool)
  | reads
  | done (r : BreakerResult)

namespace BreakerPhase

def prog : BreakerPhase → BreakerProg BreakerResult
  | begins => breakerCall
  | admitted state => do
    step (.funcStart state)
    callRunning state
  | running state => callRunning state
  | ended returned => callEnded returned
  | reads => getStatus
  | done r => return r

/-- What the check leads to. -/
def checked (state : BreakerState) : BreakerPhase :=
  if state = .opened then done .circuitBreakerOpen else admitted state

theorem callChecked_eq (state : BreakerState) : callChecked state = (checked state).prog := by
  cases state <;> rfl

/-- Where a step leads. -/
def after (c : BreakerChoice) (b : CircuitBreaker) : BreakerPhase → BreakerPhase
  | begins => checked (b.checkState c.now).state
  | admitted state => running state
  | running _ => ended c.returned
  | ended returned => done (if returned then .result else .raised)
  | reads => done (.status (b.checkState c.now).state)
  | done r => done r

/-- The step a phase is before. -/
def call? : BreakerPhase → Option BreakerCall
  | begins => some .state
  | admitted state => some (.funcStart state)
  | running state => some (.funcEnd state)
  | ended true => some .recordSuccess
  | ended false => some .recordFailure
  | reads => some .status
  | done _ => none

@[simp] theorem next?_prog (phase : BreakerPhase) : phase.prog.next? = phase.call? := by
  cases phase with
  | ended returned => cases returned <;> rfl
  | _ => rfl

theorem of_thread (thread : BreakerThread) : ∃ phase : BreakerPhase, thread.prog = phase.prog := by
  cases thread with
  | call => exact ⟨begins, rfl⟩
  | status => exact ⟨reads, rfl⟩

end BreakerPhase

section

variable {ι : Type} [DecidableEq ι] {p p' : BreakerPool ι} {i : ι} {c : BreakerChoice}

/-- A step of a thread: the clock, the breaker, and what is left of the thread. -/
theorem breaker_step (h : p.next (breakerServer ι) i c = some p') {phase : BreakerPhase}
    (hphase : p.procs i = phase.prog) : p.world.now ≤ c.now ∧
      p'.procs i = (phase.after c p.world.breaker).prog ∧ p'.world.now = c.now ∧
      ∃ q, (p.procs i).next? = some q ∧
      p'.world.breaker = (breakerServe c p.world.breaker q).2 := by
  obtain ⟨q, k, r, w, hq, hr, -, rfl⟩ := Pool.next_cases h
  simp only [breakerServer] at hr
  split at hr
  · rename_i hclock
    obtain ⟨rfl, rfl⟩ := Prod.mk.inj (Option.some.inj hr)
    refine ⟨hclock, ?_, rfl, q, by rw [hq]; rfl, rfl⟩
    simp only [Function.update_self]
    rw [hphase] at hq
    cases phase with
    | begins =>
      cases hq
      exact BreakerPhase.callChecked_eq _
    | admitted state =>
      cases hq
      rfl
    | running state =>
      cases hq
      rfl
    | ended returned =>
      cases returned with
      | true =>
        cases hq
        rfl
      | false =>
        cases hq
        rfl
    | reads =>
      cases hq
      rfl
    | done r => cases hq
  · cases hr

/-- Every thread is in some phase. -/
def InPhases (p : BreakerPool ι) : Prop := ∀ i, ∃ phase : BreakerPhase, p.procs i = phase.prog

omit [DecidableEq ι] in
theorem inPhases_threads (thread : ι → BreakerThread) (failureThreshold recoveryTimeout now : Int) :
    InPhases (breakerThreads thread failureThreshold recoveryTimeout now) :=
  fun i => BreakerPhase.of_thread (thread i)

/-- A run goes from phases to phases. -/
theorem InPhases.steps {P : BreakerPool ι → ι → BreakerChoice → Prop} (hphases : InPhases p)
    (h : Pool.Steps (breakerServer ι) P p p') : InPhases p' := by
  refine h.inv (J := InPhases) ?_ hphases
  intro p p' j c _ hn hphases i
  by_cases hij : i = j
  · subst hij
    obtain ⟨phase, hphase⟩ := hphases i
    exact ⟨_, (breaker_step hn hphase).2.1⟩
  · rw [Pool.next_procs_ne hn hij]
    exact hphases i

end

end PeHackathon.UrlShortener
