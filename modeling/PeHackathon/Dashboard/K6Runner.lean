import PeHackathon.Lib.Pool
import PeHackathon.Python.Json

/-!
# The k6 load test runner

`dashboard/backend/k6_runner.py`: the sections of `start`, `stop` and `get_status` that hold the
lock, each one step, and the start of the process between the two of `start`. The reader thread that
`start` leaves behind reads `_proc`, waits until that process is over, and has one more section. A
process is over at a step of its own. What the reader makes of k6's output (the metrics and the
series) is left out.
-/

namespace PeHackathon.Dashboard

open Lib

/-! ## The runner -/

/-- A process, by its number among those that were launched. -/
abbrev Pid := Nat

/-- The arguments of `start`. -/
structure K6Run where
  preset : String
  vus : Int
  duration : String
  targetUrl : String
  deriving DecidableEq, Repr

/-- What `os.environ` holds of the names the runner reads. -/
structure K6Environ where
  loadTestTargetUrl : Option String
  loadTestBypassToken : Option String

/-- The names that `start` sets for the process. -/
structure K6Env where
  k6TargetUrl : String
  loadTestBypassToken : String
  k6Preset : String
  /-- `K6_VUS` and `K6_DURATION`. -/
  k6Load : Option (Int × String)
  deriving DecidableEq, Repr

/-- `K6Stats`, less the metrics. -/
structure K6Stats where
  running : Bool
  preset : String
  vus : Int
  duration : String
  targetUrl : String
  startedAt : Int
  finished : Bool
  deriving DecidableEq, Repr

def K6Stats.new : K6Stats where
  running := false
  preset := ""
  vus := 0
  duration := ""
  targetUrl := ""
  startedAt := 0
  finished := false

/-- The runner and the processes it has launched: those that are alive. -/
structure K6World where
  proc : Option Pid
  stats : K6Stats
  launched : Nat
  alive : Pid → Bool

namespace K6World

def new : K6World := ⟨none, .new, 0, fun _ => false⟩

/-- `self._proc and self._proc.poll() is None`. -/
def procAlive (w : K6World) : Bool :=
  match w.proc with
  | some pid => w.alive pid
  | none => false

/-- What `get_status` and the end of the reader make of the runner. -/
def testFinished (w : K6World) : K6World :=
  if w.stats.running then { w with stats := { w.stats with running := false, finished := true } }
    else w

end K6World

def defaultLoadTestBypassToken : String := "pe-hackathon-k6-edge-bypass"

def defaultTargetUrl (environ : K6Environ) : String :=
  pyStrip (environ.loadTestTargetUrl.getD "http://load-balancer:80")

def effectiveLoadTestBypassToken (environ : K6Environ) : String :=
  let token := pyStrip (environ.loadTestBypassToken.getD "")
  if token = "" then defaultLoadTestBypassToken else token

/-- Max VUs for each preset. -/
def presetMaxVus : List (String × Int) :=
  [("bronze", 50), ("silver", 200), ("gold", 500), ("chaos", 100)]

def resolvedUrl (environ : K6Environ) (run : K6Run) : String :=
  let url := pyStrip run.targetUrl
  if url = "" then defaultTargetUrl environ else url

def k6Env (environ : K6Environ) (run : K6Run) : K6Env where
  k6TargetUrl := resolvedUrl environ run
  loadTestBypassToken := effectiveLoadTestBypassToken environ
  k6Preset := if run.preset = "" then "" else pyLower run.preset
  k6Load := if run.preset = "" then some (run.vus, run.duration) else none

def maxVus (run : K6Run) : Int :=
  if run.preset = "" then run.vus else (presetMaxVus.lookup (pyLower run.preset)).getD run.vus

/-! ## Steps -/

inductive K6Call
  /-- The check of `start`. -/
  | poll
  | popen (env : K6Env)
  /-- The second section of `start`. -/
  | store (pid : Pid) (run : K6Run) (url : String)
  | stop
  | status
  /-- `proc = self._proc`, in the reader. -/
  | readerProc
  /-- The output of the process has ended. -/
  | readerEof (pid : Pid)
  /-- The last section of the reader. -/
  | readerEnds
  /-- The process is over. -/
  | exit (pid : Pid)
  deriving DecidableEq, Repr

/-- Why `Popen` launches no process. -/
inductive PopenError
  | fileNotFound
  | other
  deriving DecidableEq, Repr

inductive K6Stop
  | notRunning
  | stopping
  /-- `OSError`. -/
  | error (text : String)
  deriving DecidableEq, Repr

abbrev K6Answer : K6Call → Type
  | .poll => Bool
  | .popen _ => Except PopenError Pid
  | .stop => K6Stop
  | .status => K6Stats
  | .readerProc => Option Pid
  | _ => Unit

/-- What is left open at a step: the time, why no process is launched, and why no signal is sent. -/
structure K6Choice where
  now : Int
  popenFails : Option PopenError
  signalFails : Option String

/-- What a step answers and does; nothing where it has to wait. -/
def k6Serve (c : K6Choice) (w : K6World) : (q : K6Call) → Option (K6Answer q × K6World)
  | .poll => some (w.procAlive, w)
  | .popen _ =>
    match c.popenFails with
    | none =>
      some (.ok w.launched,
        { w with launched := w.launched + 1, alive := Function.update w.alive w.launched true })
    | some error => some (.error error, w)
  | .store pid run url =>
    let stats : K6Stats :=
      { running := true, preset := run.preset, vus := maxVus run, duration := run.duration,
        targetUrl := url, startedAt := c.now, finished := false }
    some ((), { w with proc := some pid, stats })
  | .stop =>
    if w.procAlive then
      match c.signalFails with
      | none => some (.stopping, w)
      | some text => some (.error text, w)
    else some (.notRunning, w)
  | .status =>
    let w := if w.proc.isSome && !w.procAlive then w.testFinished else w
    some (w.stats, w)
  | .readerProc => some (w.proc, w)
  | .readerEof pid => if w.alive pid then none else some ((), w)
  | .readerEnds => some ((), w.testFinished)
  | .exit pid =>
    if w.alive pid then some ((), { w with alive := Function.update w.alive pid false }) else none

/-- Threads that share the runner. -/
def k6Server (ι : Type) : Server K6Answer ι K6Choice K6World where
  respond _ c w q := k6Serve c w q
  yields _ := true

/-! ## Threads -/

abbrev K6Prog (α : Type) := Prog K6Answer α

def K6Prog.step (q : K6Call) : K6Prog (K6Answer q) := .perform q

open K6Prog

inductive K6Result
  | error (text : String)
  | started (preset : String) (vus : Int) (duration : String)
  | notRunning
  | stopping
  | status (stats : K6Stats)
  /-- The exception of `Popen` passes through `start`. -/
  | raised
  /-- A thread that is no request is over. -/
  | ended
  deriving DecidableEq, Repr

def alreadyRunning : K6Result := .error "A test is already running. Stop it first."

def binaryNotFound : K6Result :=
  .error "k6 binary not found. Rebuild the container with k6 installed."

/-- The part of `start` after the process was launched. -/
def startLaunched (environ : K6Environ) (run : K6Run) (pid : Pid) : K6Prog K6Result := do
  step (.store pid run (resolvedUrl environ run))
  return .started run.preset run.vus run.duration

/-- The part of `start` after its check. -/
def startChecked (environ : K6Environ) (run : K6Run) : K6Prog K6Result := do
  match ← step (.popen (k6Env environ run)) with
  | .ok pid => startLaunched environ run pid
  | .error .fileNotFound => return binaryNotFound
  | .error .other => return .raised

/-- `start`. -/
def k6Start (environ : K6Environ) (run : K6Run) : K6Prog K6Result := do
  if ← step .poll then return alreadyRunning
  else startChecked environ run

/-- `stop`. -/
def k6Stop : K6Prog K6Result := do
  match ← step .stop with
  | .notRunning => return .notRunning
  | .stopping => return .stopping
  | .error text => return .error text

/-- `get_status`. -/
def k6GetStatus : K6Prog K6Result := do
  let stats ← step .status
  return .status stats

/-- `_read_output` after the output has ended. -/
def readerEnded : K6Prog K6Result := do
  step .readerEnds
  return .ended

/-- `_read_output` of a process. -/
def readOutputOf (pid : Pid) : K6Prog K6Result := do
  step (.readerEof pid)
  readerEnded

/-- `_read_output`. -/
def readOutput : K6Prog K6Result := do
  match ← step .readerProc with
  | none => return .ended
  | some pid => readOutputOf pid

/-- A process is over, of itself or by a signal. -/
def processExit (pid : Pid) : K6Prog K6Result := do
  step (.exit pid)
  return .ended

/-- Who may run; a request thread that serves several requests is several of them. -/
inductive K6Thread
  | start (run : K6Run)
  | stop
  | status
  | reader
  | exit (pid : Pid)

def K6Thread.prog (environ : K6Environ) : K6Thread → K6Prog K6Result
  | .start run => k6Start environ run
  | .stop => k6Stop
  | .status => k6GetStatus
  | .reader => readOutput
  | .exit pid => processExit pid

abbrev K6Pool (ι : Type) := Pool K6Answer ι K6World K6Result

/-- A new runner, and threads none of which has taken a step. -/
def k6Threads {ι : Type} (environ : K6Environ) (thread : ι → K6Thread) : K6Pool ι :=
  .init (fun i => (thread i).prog environ) .new

/-! ## Where a thread stands -/

/-- What is left of a thread. -/
inductive K6Phase
  | begins (thread : K6Thread)
  /-- `start` has found no test running. -/
  | launches (run : K6Run)
  | stores (run : K6Run) (pid : Pid)
  | waits (pid : Pid)
  | ends
  | done (r : K6Result)

namespace K6Phase

def prog (environ : K6Environ) : K6Phase → K6Prog K6Result
  | begins thread => thread.prog environ
  | launches run => startChecked environ run
  | stores run pid => startLaunched environ run pid
  | waits pid => readOutputOf pid
  | ends => readerEnded
  | done r => return r

/-- Where a step leads. -/
def after (c : K6Choice) (w : K6World) : K6Phase → K6Phase
  | begins (.start run) => if w.procAlive then done alreadyRunning else launches run
  | begins .stop =>
    if w.procAlive then
      match c.signalFails with
      | none => done .stopping
      | some text => done (.error text)
    else done .notRunning
  | begins .status =>
    done (.status (if w.proc.isSome && !w.procAlive then w.testFinished else w).stats)
  | begins .reader =>
    match w.proc with
    | none => done .ended
    | some pid => waits pid
  | begins (.exit _) => done .ended
  | launches run =>
    match c.popenFails with
    | none => stores run w.launched
    | some .fileNotFound => done binaryNotFound
    | some .other => done .raised
  | stores run _ => done (.started run.preset run.vus run.duration)
  | waits _ => ends
  | ends => done .ended
  | done r => done r

/-- The step a phase is before. -/
def call? (environ : K6Environ) : K6Phase → Option K6Call
  | begins (.start _) => some .poll
  | begins .stop => some .stop
  | begins .status => some .status
  | begins .reader => some .readerProc
  | begins (.exit pid) => some (.exit pid)
  | launches run => some (.popen (k6Env environ run))
  | stores run pid => some (.store pid run (resolvedUrl environ run))
  | waits pid => some (.readerEof pid)
  | ends => some .readerEnds
  | done _ => none

@[simp] theorem next?_prog (environ : K6Environ) (phase : K6Phase) :
    (phase.prog environ).next? = phase.call? environ := by
  cases phase with
  | begins thread => cases thread <;> rfl
  | _ => rfl

end K6Phase

section

variable {ι : Type} [DecidableEq ι] {environ : K6Environ} {p p' : K6Pool ι} {i : ι} {c : K6Choice}

/-- A step of a thread: what is left of it, and the world. -/
theorem k6_step (h : p.next (k6Server ι) i c = some p') {phase : K6Phase}
    (hphase : p.procs i = phase.prog environ) :
    p'.procs i = (phase.after c p.world).prog environ ∧
      ∃ q r, (p.procs i).next? = some q ∧ k6Serve c p.world q = some (r, p'.world) := by
  obtain ⟨q, k, r, w, hq, hr, -, rfl⟩ := Pool.next_cases h
  refine ⟨?_, q, r, by rw [hq]; rfl, hr⟩
  simp only [Function.update_self]
  rw [hphase] at hq
  simp only [k6Server] at hr
  cases phase with
  | begins thread =>
    cases thread with
    | start run =>
      cases hq
      obtain ⟨rfl, rfl⟩ := Prod.mk.inj (Option.some.inj hr)
      cases hp : p.world.procAlive <;> simp [K6Phase.after, hp] <;> rfl
    | stop =>
      cases hq
      simp only [k6Serve] at hr
      cases hp : p.world.procAlive <;> cases hs : c.signalFails <;> simp [hp, hs] at hr <;>
        obtain ⟨rfl, rfl⟩ := hr <;> simp [K6Phase.after, hp, hs] <;> rfl
    | status =>
      cases hq
      obtain ⟨rfl, rfl⟩ := Prod.mk.inj (Option.some.inj hr)
      rfl
    | reader =>
      cases hq
      obtain ⟨rfl, rfl⟩ := Prod.mk.inj (Option.some.inj hr)
      cases hp : p.world.proc <;> simp [K6Phase.after, hp] <;> rfl
    | exit pid =>
      cases hq
      rfl
  | launches run =>
    cases hq
    simp only [k6Serve] at hr
    rcases hp : c.popenFails with _ | error
    · simp only [hp, Option.some.injEq, Prod.mk.injEq] at hr
      obtain ⟨rfl, rfl⟩ := hr
      simp only [K6Phase.after, hp]
      rfl
    · simp only [hp, Option.some.injEq, Prod.mk.injEq] at hr
      obtain ⟨rfl, rfl⟩ := hr
      cases error <;> simp only [K6Phase.after, hp] <;> rfl
  | stores run pid =>
    cases hq
    rfl
  | waits pid =>
    cases hq
    rfl
  | ends =>
    cases hq
    rfl
  | done r => cases hq

end

end PeHackathon.Dashboard
