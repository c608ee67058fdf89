import PeHackathon.Lib.Dict
import PeHackathon.Lib.Pool
import PeHackathon.Watchdog.Heartbeat
import PeHackathon.Watchdog.Lifecycle

/-!
# What a tick works on

The state ticks share (`WatchdogPersistentState`), and the steps of a tick: reading and changing
that state, reading a clock, and the three things it waits for (`fetchRows`, `awaitDeploy`, `ping`).
Other ticks run only while one waits.

`World.trace` is a history of what ticks did, newest first. No step reads it.
-/

namespace PeHackathon.Watchdog

open Lib

/-! ## The persistent state -/

structure WatchdogPrevEntry where
  deploymentStatus : String
  deploymentId : String
  onlineStatus : RailwayOnlineStatus
  deriving DecidableEq, Repr

structure HeartbeatRecoverState where
  deploymentId : String
  deploymentStatus : String
  consecutiveMisses : Nat
  recoveriesUsed : Nat
  loggedBudgetExhausted : Bool
  loggedCooldownWait : Option Bool
  deriving DecidableEq, Repr

inductive WatchdogEventKind
  | recover
  | railwayDeploy
  | railwayRebooting
  | railwayAutoRecover
  | heartbeatRecover
  | heartbeatExitRedeploy
  | railwayStopped
  deriving DecidableEq, Repr

structure WatchdogEvent where
  id : String
  time : String
  service : String
  kind : WatchdogEventKind
  message : String
  deriving DecidableEq, Repr

inductive ActivityKind
  | graphql
  | http
  deriving DecidableEq, Repr

inductive ActivityStatus
  | code (n : Nat)
  | text (s : String)
  deriving DecidableEq, Repr

/-- What `pushActivity` is given. -/
structure Activity where
  kind : ActivityKind
  target : String
  method : Option String := none
  durationMs : Option Int := none
  status : Option ActivityStatus := none
  detail : Option String := none
  deriving DecidableEq, Repr

structure WatchdogApiActivityEntry extends Activity where
  time : String
  deriving DecidableEq, Repr

/-- The map `heartbeatRecoverState` holds references: a tick that waits keeps its object, and
changes it after the wait whether or not the map still has it. `heartbeatObjects` says what is
stored at each reference, `freshObject` is the next one. -/
structure WatchdogPersistentState where
  prev : Dict String WatchdogPrevEntry
  logTail : List String
  recoverCooldown : Dict String Nat
  heartbeatRecoverState : Dict String Nat
  heartbeatObjects : Nat → HeartbeatRecoverState
  freshObject : Nat
  heartbeatLastRecoverAt : Dict String Nat
  apiActivity : List WatchdogApiActivityEntry
  heartbeatExitLifecycle : HeartbeatExitLifecycleState

def createEmptyWatchdogState : WatchdogPersistentState where
  prev := .empty
  logTail := []
  recoverCooldown := .empty
  heartbeatRecoverState := .empty
  heartbeatObjects _ :=
    { deploymentId := "", deploymentStatus := "", consecutiveMisses := 0, recoveriesUsed := 0,
      loggedBudgetExhausted := false, loggedCooldownWait := none }
  freshObject := 0
  heartbeatLastRecoverAt := .empty
  apiActivity := []
  heartbeatExitLifecycle := createHeartbeatExitLifecycleState

/-! ## The history -/

/-- The three places that call `serviceInstanceDeploy`. -/
inductive DeploySite
  | exitRedeploy
  | heartbeatRecover
  | autoRecover
  deriving DecidableEq, Repr

/-- A probe and what the lifecycle made of it. -/
structure ProbeMark where
  serviceId : String
  deploymentId : String
  onlineStatus : RailwayOnlineStatus
  ok : Bool
  /-- The service becomes exited. -/
  becomesExited : Bool
  /-- The redeem flag is scheduled. -/
  schedules : Bool
  deriving DecidableEq, Repr

inductive MarkKind
  /-- A tick has its rows. -/
  | fetched (result : VisibilityResult)
  /-- A tick takes up a row. -/
  | row (env : Environment) (row : RailwayVisibilityRow)
  /-- `serviceInstanceDeploy` is sent. -/
  | attempt (site : DeploySite) (serviceId : String)
  /-- Its answer is there. -/
  | outcome (site : DeploySite) (serviceId : String) (ok : Bool)
  | probe (p : ProbeMark)
  /-- A tick sees the service healthy and forgets its cooldown. -/
  | healthy (serviceId : String)

structure Mark where
  time : Nat
  kind : MarkKind

/-! ## Steps -/

inductive Call
  /-- A tick turns to a row. It only leaves a mark. -/
  | takeUp (env : Environment) (row : RailwayVisibilityRow)
  | get
  | update (f : WatchdogPersistentState → WatchdogPersistentState)
  /-- Change the state and note what it was changed for, in view of the state before. -/
  | record (f : WatchdogPersistentState → WatchdogPersistentState)
      (mark : WatchdogPersistentState → MarkKind)
  | dateNow
  | isoNow
  | performanceNow
  | sendDeploy (site : DeploySite) (environmentId serviceId : String)
  | fetchRows
  | awaitDeploy (site : DeploySite) (serviceId : String)
  | ping (probeUrl : String)

abbrev Answer : Call → Type
  | .takeUp _ _ => Unit
  | .get => WatchdogPersistentState
  | .update _ => Unit
  | .record _ _ => Unit
  | .dateNow => Nat
  | .isoNow => String
  -- in microseconds
  | .performanceNow => Nat
  | .sendDeploy _ _ _ => Unit
  | .fetchRows => VisibilityResult
  -- the message of the error, if the promise was rejected
  | .awaitDeploy _ _ => Option String
  | .ping _ => PingResult

/-- What is left open at a step: the time, and what Railway and the probed service answer. -/
structure Choice where
  now : Nat
  iso : String
  micros : Nat
  rows : VisibilityResult
  ping : PingResult
  deployError : Option String

structure World where
  state : WatchdogPersistentState
  clock : Nat
  trace : List Mark

/-- Before the first tick. -/
def World.start : World where
  state := createEmptyWatchdogState
  clock := 0
  trace := []

/-- Time `t` has come, and the history gains these marks. -/
def World.after (w : World) (t : Nat) (marks : List MarkKind) : World :=
  { w with clock := t, trace := (marks.map fun k => ⟨t, k⟩) ++ w.trace }

def World.setState (w : World) (s : WatchdogPersistentState) : World := { w with state := s }

/-- What a step answers and does. -/
def serve (c : Choice) (w : World) : (q : Call) → Answer q × World
  | .takeUp env row => ((), w.after c.now [.row env row])
  | .get => (w.state, w.after c.now [])
  | .update f => ((), (w.after c.now []).setState (f w.state))
  | .record f mark => ((), (w.after c.now [mark w.state]).setState (f w.state))
  | .dateNow => (c.now, w.after c.now [])
  | .isoNow => (c.iso, w.after c.now [])
  | .performanceNow => (c.micros, w.after c.now [])
  | .sendDeploy site _ serviceId => ((), w.after c.now [.attempt site serviceId])
  | .fetchRows => (c.rows, w.after c.now [.fetched c.rows])
  | .awaitDeploy site serviceId =>
    (c.deployError, w.after c.now [.outcome site serviceId c.deployError.isNone])
  | .ping _ => (c.ping, w.after c.now [])

/-- The steps at which a tick waits. -/
def Call.waits : Call → Bool
  | .fetchRows | .awaitDeploy _ _ | .ping _ => true
  | _ => false

/-- Ticks that share one state. The clock does not go back. -/
def server (ι : Type) : Server Answer ι Choice World where
  respond _ c w q := if w.clock ≤ c.now then some (serve c w q) else none
  yields := Call.waits

abbrev Tick (α : Type) := Prog Answer α

end PeHackathon.Watchdog
