import PeHackathon.Dashboard.K6Runner
import PeHackathon.Python.Division
import PeHackathon.Python.JsonText

/-!
# The live statistics of a k6 run

What `K6Runner` leaves out of `dashboard/backend/k6_runner.py`: the metrics, the durations and the
series, the output that a process writes, and the loop of `_read_output` over it. A step of `start`,
`stop` or of a process is that of `k6Serve`, and does here what it leaves out (`K6Live.noted`);
`get_status` and the reader thread have their own. The error rate is computed as Python does; how it
rounds for the page, and the durations, are a parameter, `K6Numbers`. A time is in microseconds, and
a section of the lock reads the clock once.
-/

namespace PeHackathon.Dashboard

open Lib

/-! ## Statistics -/

/-- `isinstance(x, (int, float))`: a `bool` is an `int`. -/
def jsonIsNumber : Json → Bool
  | .int _ | .bool _ | .float _ => true
  | _ => false

/-- Python's arithmetic with durations, and the rounding for the page. -/
structure K6Numbers where
  /-- `round(x, digits)`. -/
  round : Json → Nat → Json
  /-- `round(x, digits)` of the error rate. -/
  roundRate : ℚ → Nat → ℚ
  /-- `round(dt, 1)`, where `dt` is in seconds. -/
  seconds : Int → Json
  /-- `sum(durations) / len(durations)`; `none` if it raises. -/
  mean : List Json → Option Json
  /-- `sorted(durations)[min(int(n * 0.95), n - 1)]`; `none` if it raises. -/
  p95 : List Json → Option Json

/-- The metrics of `K6Stats`. -/
structure K6Metrics where
  elapsedS : Json
  requests : Int
  errors : Int
  errorRate : ℚ
  avgDurationMs : Json
  p95DurationMs : Json
  currentVus : Int
  /-- `summary["stdout"]`. -/
  summary : Option String

def K6Metrics.new : K6Metrics where
  elapsedS := .float 0
  requests := 0
  errors := 0
  errorRate := 0
  avgDurationMs := .float 0
  p95DurationMs := .float 0
  currentVus := 0
  summary := none

/-- A sample of the chart. -/
structure K6Sample where
  t : Json
  vus : Int
  avgMs : Json

/-- What the runner keeps to show: `_stats`, `_durations`, `_series` and
`_last_series_sample_at`. -/
structure K6Shown where
  stats : K6Stats
  metrics : K6Metrics
  durations : List Json
  series : List K6Sample
  lastSeriesSampleAt : Int

/-- `to_dict`, with the series. -/
structure K6Report where
  stats : K6Stats
  metrics : K6Metrics
  series : List K6Sample

namespace K6Shown

/-- What `start` puts in place, and `__init__` with the statistics of a new runner. -/
def of (stats : K6Stats) : K6Shown where
  stats := stats
  metrics := .new
  durations := []
  series := []
  lastSeriesSampleAt := 0

variable (n : K6Numbers) (now : Int) (s : K6Shown)

/-- `_append_series_sample`. -/
def appendSeriesSample (force : Bool) : K6Shown :=
  if s.stats.startedAt ≤ 0 then s
  else if !force && !s.stats.running then s
  else if !force && now - s.lastSeriesSampleAt < 750000 then s
  else
    let series := s.series ++
      [{ t := n.seconds (now - s.stats.startedAt), vus := s.metrics.currentVus,
         avgMs := n.round s.metrics.avgDurationMs 2 }]
    { s with
      lastSeriesSampleAt := now
      series := if 2500 < series.length then series.drop (series.length - 2500) else series }

/-- The test is over: the same lines in `get_status` and at the end of the reader. -/
def finish : K6Shown :=
  let s := { s with metrics := { s.metrics with elapsedS := n.seconds (now - s.stats.startedAt) } }
  let s := s.appendSeriesSample n now true
  { s with stats := { s.stats with running := false, finished := true } }

/-- What `get_status` does first. `ended`: there is a process, and it is over. -/
def polled (ended : Bool) : K6Shown :=
  if ended && s.stats.running then s.finish n now
  else if s.stats.running then s.appendSeriesSample n now false
  else s

/-- The last section of the reader. -/
def readerEnds : K6Shown := if s.stats.running then s.finish n now else s

/-- A point of `load_test_error_checks`, and whether it raises. -/
def countErrors (value : Json) : K6Shown × Bool :=
  match if jsonIsNumber value then (pyInt value).toOption else some 0 with
  | none => (s, true)
  | some added =>
    let metrics := { s.metrics with errors := s.metrics.errors + added }
    if 0 < metrics.requests then
      match pyTrueDiv metrics.errors metrics.requests with
      | none => ({ s with metrics }, true)
      | some quotient =>
        ({ s with metrics := { metrics with errorRate := pyMinOne quotient } }, false)
    else ({ s with metrics }, false)

/-- A point of `http_req_duration`, and whether it raises. -/
def countDuration (value : Json) : K6Shown × Bool :=
  let durations := s.durations ++ [value]
  match n.mean durations with
  | none => ({ s with durations }, true)
  | some avgDurationMs =>
    let metrics := { s.metrics with avgDurationMs }
    if 20 ≤ durations.length then
      match n.p95 durations with
      | none => ({ s with durations, metrics }, true)
      | some p95DurationMs =>
        ({ s with durations, metrics := { metrics with p95DurationMs } }, false)
    else ({ s with durations, metrics }, false)

/-- A point of `vus`, and whether it raises. -/
def countVus (value : Json) : K6Shown × Bool :=
  match (pyInt value).toOption with
  | none => (s, true)
  | some currentVus => ({ s with metrics := { s.metrics with currentVus } }, false)

/-- The section for a data point, and whether it raises. -/
def point (metric value : Json) : K6Shown × Bool :=
  match metric with
  | .str "http_reqs" =>
    ({ s with metrics := { s.metrics with requests := s.metrics.requests + 1 } }, false)
  | .str "load_test_error_checks" => s.countErrors value
  | .str "http_req_duration" => s.countDuration n value
  | .str "vus" => s.countVus value
  | _ => (s, false)

def setSummary (text : String) : K6Shown :=
  { s with metrics := { s.metrics with summary := some text } }

/-- `to_dict()`, and `out["series"]`. -/
def report : K6Report where
  stats := s.stats
  metrics :=
    { s.metrics with
      elapsedS :=
        if s.stats.running then n.seconds (now - s.stats.startedAt) else s.metrics.elapsedS
      errorRate := n.roundRate s.metrics.errorRate 4
      avgDurationMs := n.round s.metrics.avgDurationMs 2
      p95DurationMs := n.round s.metrics.p95DurationMs 2 }
  series := s.series

end K6Shown

/-! ## Lines -/

/-- What a line of the output is. -/
inductive K6Line
  | skip
  | point (metric value : Json)
  /-- `AttributeError`: there is no `get`. -/
  | raises

/-- The loop of `_read_output`, from a line to its data point. -/
def readLine (raw : String) : K6Line :=
  let line := pyStrip raw
  if line = "" then .skip
  else
    match jsonLoads line with
    | none => .skip
    | some (.obj data) =>
      match JsonObject.get? data "type" with
      | some (.str "Point") =>
        match (JsonObject.get? data "data").getD (.obj []) with
        | .obj fields =>
          .point ((JsonObject.get? data "metric").getD (.str ""))
            ((JsonObject.get? fields "value").getD (.int 0))
        | _ => .raises
      | _ => .skip
    | some _ => .raises

/-! ## Processes -/

/-- A process: its environment, the lines in the pipe of its `stderr`, all that it has written
there, and its `stdout`. Text is as it is after `decode`. -/
structure K6Process where
  env : Option K6Env
  stderr : List String
  written : List String
  stdout : String

def K6Process.launched (env : Option K6Env) : K6Process := ⟨env, [], [], ""⟩

/-- A run: the process that was stored with its statistics, the arguments, the address and the
time. -/
structure K6Begun where
  pid : Pid
  run : K6Run
  url : String
  startedAt : Int

/-- The statistics that `start` stores. -/
def K6Begun.stats (b : K6Begun) : K6Stats where
  running := true
  preset := b.run.preset
  vus := maxVus b.run
  duration := b.run.duration
  targetUrl := b.url
  startedAt := b.startedAt
  finished := false

/-- The runner, the processes, and all the runs so far, newest first. -/
structure K6Live where
  proc : Option Pid
  launched : Nat
  alive : Pid → Bool
  shown : K6Shown
  process : Pid → K6Process
  begun : List K6Begun

namespace K6Live

def new : K6Live where
  proc := none
  launched := 0
  alive _ := false
  shown := .of .new
  process _ := .launched none
  begun := []

/-- The part that `K6World` has. -/
def runner (w : K6Live) : K6World := ⟨w.proc, w.shown.stats, w.launched, w.alive⟩

def withRunner (w : K6Live) (r : K6World) : K6Live :=
  { w with
    proc := r.proc, launched := r.launched, alive := r.alive
    shown := { w.shown with stats := r.stats } }

/-- What a step of `k6Serve` does besides: a process has an environment, and a run has new
statistics. -/
def noted (w : K6Live) (now : Int) : (q : K6Call) → K6Answer q → K6Live
  | .popen env, .ok pid =>
    { w with process := Function.update w.process pid (.launched (some env)) }
  | .store pid run url, _ =>
    { w with shown := .of w.shown.stats, begun := ⟨pid, run, url, now⟩ :: w.begun }
  | _, _ => w

/-- There is a process, and it is over. -/
def ended (w : K6Live) : Bool := w.proc.isSome && !w.runner.procAlive

def setProcess (w : K6Live) (pid : Pid) (process : K6Process) : K6Live :=
  { w with process := Function.update w.process pid process }

end K6Live

/-! ## Steps -/

inductive K6LiveCall
  /-- A step of `start`, of `stop`, of the end of a process, or `proc = self._proc` in the
  reader. -/
  | runner (q : K6Call)
  | status
  /-- The next line of the pipe. -/
  | readerLine (pid : Pid)
  | readerPoint (metric value : Json)
  /-- `proc.stdout.read()`. -/
  | readerStdout (pid : Pid)
  | readerSummary (text : String)
  | readerEnds
  /-- The process writes a line to its `stderr`. -/
  | write (pid : Pid) (line : String)
  /-- The process writes to its `stdout`. -/
  | writeStdout (pid : Pid) (text : String)

abbrev K6LiveAnswer : K6LiveCall → Type
  | .runner q => K6Answer q
  | .status => K6Report
  | .readerLine _ => Option String
  | .readerPoint _ _ => Bool
  | .readerStdout _ => String
  | _ => Unit

variable (n : K6Numbers)

/-- What a step answers and does; nothing where it has to wait. -/
def liveServe (c : K6Choice) (w : K6Live) : (q : K6LiveCall) → Option (K6LiveAnswer q × K6Live)
  | .runner q =>
    (k6Serve c w.runner q).map fun answer =>
      (answer.1, (w.withRunner answer.2).noted c.now q answer.1)
  | .status =>
    let shown := w.shown.polled n c.now w.ended
    some (shown.report n c.now, { w with shown })
  | .readerLine pid =>
    match (w.process pid).stderr with
    | line :: stderr => some (some line, w.setProcess pid { w.process pid with stderr })
    | [] => if w.alive pid then none else some (none, w)
  | .readerPoint metric value =>
    let counted := w.shown.point n metric value
    some (counted.2, { w with shown := counted.1 })
  | .readerStdout pid => if w.alive pid then none else some ((w.process pid).stdout, w)
  | .readerSummary text => some ((), { w with shown := w.shown.setSummary text })
  | .readerEnds => some ((), { w with shown := w.shown.readerEnds n c.now })
  | .write pid line =>
    let process := w.process pid
    if w.alive pid then
      some ((), w.setProcess pid
        { process with stderr := process.stderr ++ [line], written := process.written ++ [line] })
    else none
  | .writeStdout pid text =>
    let process := w.process pid
    if w.alive pid then
      some ((), w.setProcess pid { process with stdout := process.stdout ++ text }) else none

/-- Threads that share the runner. -/
def liveServer (ι : Type) : Server K6LiveAnswer ι K6Choice K6Live where
  respond _ c w q := liveServe n c w q
  yields _ := true

/-! ## Threads -/

abbrev K6LiveProg (α : Type) := Prog K6LiveAnswer α

namespace K6LiveProg

def step (q : K6LiveCall) : K6LiveProg (K6LiveAnswer q) := .perform q

end K6LiveProg

open K6LiveProg

inductive K6LiveResult
  | runner (r : K6Result)
  | status (report : K6Report)
  /-- An exception has ended the thread. -/
  | raised
  | ended

/-- A program of `K6Runner`. -/
def onRunner : K6Prog K6Result → K6LiveProg K6LiveResult
  | .ret r => .ret (.runner r)
  | .call q k => .call (.runner q) fun r => onRunner (k r)

/-- `get_status`. -/
def liveGetStatus : K6LiveProg K6LiveResult := do
  let report ← step .status
  return .status report

/-- The end of `_read_output`. -/
def liveReaderEnded : K6LiveProg K6LiveResult := do
  step .readerEnds
  return .ended

def summarize (text : String) : K6LiveProg K6LiveResult := do
  step (.readerSummary text)
  liveReaderEnded

/-- `_read_output` after its loop. -/
def readStdout (pid : Pid) : K6LiveProg K6LiveResult := do
  let stdout ← step (.readerStdout pid)
  if pyStrip stdout = "" then liveReaderEnded else summarize (pyStrip stdout)

/-- A data point in the loop of `_read_output`, and what follows it. -/
def applyPoint (metric value : Json) (rest : K6LiveProg K6LiveResult) :
    K6LiveProg K6LiveResult := do
  if ← step (.readerPoint metric value) then return .raised
  else rest

/-- The loop of `_read_output`, for at most so many lines: a run is over before the thread reads
another. -/
def readLines : Nat → Pid → K6LiveProg K6LiveResult
  | 0, _ => return .ended
  | lines + 1, pid => do
    match ← step (.readerLine pid) with
    | none => readStdout pid
    | some raw =>
      match readLine raw with
      | .skip => readLines lines pid
      | .raises => return .raised
      | .point metric value => applyPoint metric value (readLines lines pid)

/-- `_read_output`. -/
def liveReadOutput (lines : Nat) : K6LiveProg K6LiveResult := do
  match ← step (.runner .readerProc) with
  | none => return .ended
  | some pid => readLines lines pid

/-- A process writes to its `stderr`. -/
def processWrite (pid : Pid) (line : String) : K6LiveProg K6LiveResult := do
  step (.write pid line)
  return .ended

/-- A process writes to its `stdout`. -/
def processWriteStdout (pid : Pid) (text : String) : K6LiveProg K6LiveResult := do
  step (.writeStdout pid text)
  return .ended

/-- Who may run; a process that writes several lines is several of them. -/
inductive K6LiveThread
  | start (run : K6Run)
  | stop
  | exit (pid : Pid)
  | status
  | reader (lines : Nat)
  | write (pid : Pid) (line : String)
  | writeStdout (pid : Pid) (text : String)

def K6LiveThread.prog (environ : K6Environ) : K6LiveThread → K6LiveProg K6LiveResult
  | .start run => onRunner (k6Start environ run)
  | .stop => onRunner k6Stop
  | .exit pid => onRunner (processExit pid)
  | .status => liveGetStatus
  | .reader lines => liveReadOutput lines
  | .write pid line => processWrite pid line
  | .writeStdout pid text => processWriteStdout pid text

abbrev K6LivePool (ι : Type) := Pool K6LiveAnswer ι K6Live K6LiveResult

/-- A new runner, and threads none of which has taken a step. -/
def liveThreads {ι : Type} (environ : K6Environ) (thread : ι → K6LiveThread) : K6LivePool ι :=
  .init (fun i => (thread i).prog environ) .new

end PeHackathon.Dashboard
