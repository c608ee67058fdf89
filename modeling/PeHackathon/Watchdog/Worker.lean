import PeHackathon.Lib.Unfinished
import PeHackathon.Watchdog.SequentialTicks

/-!
# The watchdog worker

`watchdog-service/src/server.ts`: one process polls on an interval, and sends the payload of each
tick to the subscribers of `/v1/stream`. `Worker.step` is what the process does in one turn of its
event loop; the promises of `runTick` that have not settled are in `running`.
-/

namespace PeHackathon.Watchdog

open Lib

/-! ## Payloads -/

inductive PayloadSource
  | docker
  | railway
  | unconfigured
  | error
  deriving DecidableEq, Repr

structure SourcedPayload where
  source : PayloadSource
  payload : WatchdogPayload
  deriving DecidableEq, Repr

/-- What is written to a subscriber: an event `tick`, or a comment. -/
inductive Chunk
  | tick (payload : SourcedPayload)
  | keepalive
  deriving DecidableEq, Repr

def Chunk.payload? : Chunk → Option SourcedPayload
  | .tick payload => some payload
  | .keepalive => none

/-- A payload that only says what is wrong. -/
def barePayload (env : Environment) (source : PayloadSource) (lastTickAt : Option String)
    (error : String) :
    SourcedPayload where
  source
  payload :=
    { intervalSec := railwayWatchdogIntervalSec env, lastTickAt, instancesMonitored := 0,
      events := [], heartbeat := none, error := some error, logTail := none, apiActivity := [] }

/-! ## The process -/

/-- A call of `runRailwayWatchdogTick`: it returns, or throws with a message. -/
abbrev TickPromise := Tick (Except String WatchdogPayload)

/-- `runRailwayWatchdogTick(state)` in the environment of the process. None of its statements
throws. -/
def workerTick (env : Environment) : TickPromise := do
  let payload ← runRailwayWatchdogTick env
  return .ok payload

structure Worker where
  world : World
  lastPayload : Option SourcedPayload
  tickInFlight : Bool
  running : List TickPromise
  /-- The responses so far; each has its own number. -/
  opened : List Nat
  sseResponses : List Nat
  /-- The responses whose keepalive interval runs. -/
  keepalives : List Nat
  written : Nat → List Chunk
  /-- The payloads of `broadcastTick` so far, oldest first. No step reads it. -/
  broadcasts : List SourcedPayload

def Worker.start : Worker where
  world := .start
  lastPayload := none
  tickInFlight := false
  running := []
  opened := []
  sseResponses := []
  keepalives := []
  written _ := []
  broadcasts := []

inductive WorkerEvent
  /-- `runTick` is called: when the server listens, and by the interval. -/
  | timer
  /-- A tick makes its next call. -/
  | call (i : Nat) (c : Choice)
  /-- A tick has returned or thrown. `iso` is the time, and `throws` says which writes throw. -/
  | settle (i : Nat) (iso : String) (throws : Nat → Bool)
  /-- `GET /v1/stream`. -/
  | stream (res : Nat)
  | keepalive (res : Nat) (throws : Bool)
  /-- The request of a response is closed. -/
  | close (res : Nat)

namespace Worker

variable (env : Environment) (w : Worker)

/-- `res.write(chunk)`. -/
def write (res : Nat) (chunk : Chunk) : Worker :=
  { w with written := fun r => if r = res then w.written r ++ [chunk] else w.written r }

/-- `sseResponses.delete(res)`. -/
def unsubscribe (res : Nat) : Worker := { w with sseResponses := w.sseResponses.filter (· != res) }

/-- `clearInterval` on the keepalive of a response. -/
def clearKeepalive (res : Nat) : Worker := { w with keepalives := w.keepalives.filter (· != res) }

/-- The body of the loop of `broadcastTick`. -/
def send (throws : Nat → Bool) (payload : SourcedPayload) (w : Worker) (res : Nat) : Worker :=
  if throws res then w.unsubscribe res else w.write res (.tick payload)

def broadcastTick (throws : Nat → Bool) (payload : SourcedPayload) : Worker :=
  w.sseResponses.foldl (send throws payload) { w with broadcasts := w.broadcasts ++ [payload] }

/-- `runTick` up to its `await`. -/
def runTick (tick : TickPromise) : Worker :=
  if w.tickInFlight then w else { w with tickInFlight := true, running := w.running ++ [tick] }

/-- `runTick` from its `await` on. -/
def settleTick (i : Nat) (iso : String) (throws : Nat → Bool)
    (result : Except String WatchdogPayload) : Worker :=
  let payload := match result with
    | .ok payload => ⟨.railway, payload⟩
    | .error msg => barePayload env .error (some iso) msg
  { ({ w with
      running := w.running.eraseIdx i
      lastPayload := some payload }).broadcastTick throws payload with
    tickInFlight := false }

/-- `GET /v1/stream`: subscribe, and send the last payload. -/
def openStream (res : Nat) : Worker :=
  let w := { w with
    opened := w.opened ++ [res]
    sseResponses := w.sseResponses ++ [res]
    keepalives := w.keepalives ++ [res] }
  match w.lastPayload with
  | some payload => w.write res (.tick payload)
  | none => w

/-- `GET /v1/status`. -/
def status : SourcedPayload :=
  w.lastPayload.getD (barePayload env .unconfigured none "No tick completed yet")

/-- One turn of the event loop, when this event can happen. -/
def step (tick : TickPromise) : WorkerEvent → Option Worker
  | .timer => some (w.runTick tick)
  | .call i c =>
    match w.running[i]? with
    | some (.call q k) =>
      some { w with
        world := (serve c w.world q).2
        running := w.running.set i (k (serve c w.world q).1) }
    | _ => none
  | .settle i iso throws =>
    match w.running[i]? with
    | some (.ret result) => some (w.settleTick env i iso throws result)
    | _ => none
  | .stream res => if res ∈ w.opened then none else some (w.openStream res)
  | .keepalive res throws =>
    if res ∈ w.keepalives then
      some (if throws then (w.clearKeepalive res).unsubscribe res else w.write res .keepalive)
    else none
  | .close res => if res ∈ w.opened then some ((w.clearKeepalive res).unsubscribe res) else none

/-- The process after these events. -/
def run (tick : TickPromise) : List WorkerEvent → Worker → Option Worker
  | [], w => some w
  | e :: events, w => (w.step env tick e).bind (run tick events)

end Worker

end PeHackathon.Watchdog
