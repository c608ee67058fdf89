import PeHackathon.Lib.Counter
import PeHackathon.Python.Attribute

/-!
# A tick of the compose watchdog

`compose-watchdog/watchdog.py`. What the Docker client answers in a tick is a `Poll`: the list of
the project's containers, and for each of them how `reload`, `start` and `restart` end. What
outlives a tick is a `Watchdog`: the streaks that `main` keeps and the part of `STATE` that a tick
writes. `calls` is the record of the `start` and `restart` calls; the code does not keep it.
-/

namespace PeHackathon.ComposeWatchdog

open Lib

/-! ## Settings -/

/-- The arguments of `_tick`, and the variable that `_should_recover_exited` reads. -/
structure Settings where
  selfService : String
  exclude : List String
  unhealthyPolls : Nat
  interval : Float
  /-- `WATCHDOG_ONLY_ALWAYS`. -/
  onlyAlways : Option String

/-- `_env`. -/
def env (v : Option String) (default : String) : String :=
  match v with
  | some v => if v ≠ "" then v else default
  | none => default

/-- `_parse_policy`. -/
def parsePolicy (name : Json) : Except String String := do
  let name ← pyStrFor (pyOr name (.str "")) "strip"
  return pyLower (pyStrip name)

/-- `_should_recover_exited`. -/
def shouldRecoverExited (cfg : Settings) (policyName : String) : Bool :=
  let onlyAlways := ["1", "true", "yes", "on"].contains (pyLower (env cfg.onlyAlways "0"))
  if onlyAlways then policyName == "always"
  else ["always", "unless-stopped", "on-failure"].contains policyName

/-- `_should_restart_unhealthy`. -/
def shouldRestartUnhealthy (policyName : String) : Bool :=
  if ["no", ""].contains policyName then false
  else ["always", "unless-stopped", "on-failure"].contains policyName

/-! ## Containers -/

/-- A container after `reload`: its property `labels`, which may raise, and its `attrs`. -/
structure Inspected where
  labels : Except String Json
  attrs : Json

structure Container where
  id : String
  shortId : String
  reload : Except String Inspected
  start : Except String Unit
  restart : Except String Unit
  /-- The clock when an event about it is appended, in nanoseconds. -/
  time : Int

/-- What `containers.list` returns: no container twice. -/
structure Listing where
  containers : List Container
  nodup : (containers.map (·.id)).Nodup

/-- What the Docker client answers in a tick, and the clock at its end. -/
structure Poll where
  list : Except String Listing
  time : Float

/-! ## Reading a container -/

/-- `svc`. -/
def service (c : Inspected) : Except String String := do
  let labels ← c.labels
  let name ← pyGet (pyOr labels (.obj [])) "com.docker.compose.service" .null
  let name ← pyStrFor (pyOr name (.str "")) "strip"
  return pyLower (pyStrip name)

/-- Whether a container is passed over before its state is read. -/
def Settings.passesOver (cfg : Settings) (svc : String) : Bool :=
  svc == "" || svc == cfg.selfService || cfg.exclude.contains svc

/-- `state`. -/
def containerState (c : Inspected) : Except String Json := do
  let state ← pyGet (pyOr c.attrs (.obj [])) "State" .null
  return pyOr state (.obj [])

/-- `status`. -/
def containerStatus (state : Json) : Except String String := do
  let status ← pyGet state "Status" .null
  let status ← pyStrFor (pyOr status (.str "")) "lower"
  return pyLower status

/-- `policy_name`. -/
def containerPolicy (c : Inspected) : Except String String := do
  let hostConfig ← pyGet (pyOr c.attrs (.obj [])) "HostConfig" .null
  let restartPolicy ← pyGet (pyOr hostConfig (.obj [])) "RestartPolicy" (.obj [])
  let name ← pyGet restartPolicy "Name" .null
  parsePolicy name

/-- `hs`. -/
def containerHealth (state : Json) : Except String String := do
  let health ← pyGet state "Health" .null
  let hs ← pyGet (pyOr health (.obj [])) "Status" .null
  let hs ← pyStrFor (pyOr hs (.str "")) "lower"
  return pyLower hs

/-- What a tick makes of a container. -/
inductive Sight
  /-- No service, the watchdog itself, or excluded. -/
  | passedOver
  | exited (svc : String)
  | unhealthy (svc : String)
  | healthy
  /-- Monitored, with nothing to do. -/
  | other
  deriving DecidableEq, Repr

def look (cfg : Settings) (c : Inspected) : Except String Sight := do
  let svc ← service c
  if cfg.passesOver svc then return .passedOver
  else
    let state ← containerState c
    let status ← containerStatus state
    let policyName ← containerPolicy c
    if status == "exited" && shouldRecoverExited cfg policyName then return .exited svc
    else if status == "running" && shouldRestartUnhealthy policyName then
      let hs ← containerHealth state
      if hs == "unhealthy" then return .unhealthy svc
      else if ["healthy", "none", ""].contains hs then return .healthy
      else return .other
    else return .other

/-- `c.reload()` and what is read after it. -/
def Container.sight (cfg : Settings) (c : Container) : Except String Sight := do
  let inspected ← c.reload
  look cfg inspected

/-! ## State -/

structure WatchdogEvent where
  id : String
  /-- The time, where the code keeps its text. -/
  time : Int
  service : String
  action : String
  reason : String
  deriving DecidableEq, Repr

/-- `STATE`. -/
structure Status where
  intervalSec : Float
  lastTickAt : Option Float
  instancesMonitored : Nat
  events : List WatchdogEvent
  logTail : List String

structure Watchdog where
  unhealthyStreak : Dict String Nat
  status : Status

/-- `unhealthy_streak.get(id, 0)`. -/
def Watchdog.streak (w : Watchdog) (id : String) : Nat := (w.unhealthyStreak.get id).getD 0

inductive DockerCall
  | start (id : String)
  | restart (id : String)
  deriving DecidableEq, Repr

/-- A tick under way. -/
structure Pass where
  watchdog : Watchdog
  seen : List String
  monitored : Nat
  calls : List DockerCall

def logTailMax : Nat := 40

/-- `_log`. -/
def Status.log (msg : String) (status : Status) : Status :=
  let tail := status.logTail ++ [msg]
  { status with logTail := tail.drop (tail.length - logTailMax) }

/-- `_append_event`. -/
def Status.appendEvent (time : Int) (svc action reason : String) (status : Status) : Status :=
  let event := ⟨toString time ++ "-" ++ svc ++ "-" ++ action, time, svc, action, reason⟩
  { status with events := (event :: status.events).take 30 }

def Watchdog.log (msg : String) (w : Watchdog) : Watchdog := { w with status := w.status.log msg }

def Watchdog.setStreak (id : String) (n : Nat) (w : Watchdog) : Watchdog :=
  { w with unhealthyStreak := w.unhealthyStreak.set id n }

/-- What follows a call on a container: the event, or the line about its exception. -/
def Watchdog.report (result : Except String Unit) (time : Int) (svc action reason : String)
    (w : Watchdog) : Watchdog :=
  match result with
  | .ok _ => { w with status := w.status.appendEvent time svc action reason }
  | .error e => w.log ("watchdog: " ++ action ++ " failed service=" ++ svc ++ ": " ++ e)

/-! ## The loop -/

/-- The branch for an exited container. -/
def startExited (c : Container) (svc : String) (pass : Pass) : Pass :=
  let w := pass.watchdog.log ("watchdog: starting exited service=" ++ svc ++ " id=" ++ c.shortId)
  { pass with
    watchdog := w.report c.start c.time svc "start" "exited"
    calls := pass.calls ++ [.start c.id] }

/-- The branch for an unhealthy container. -/
def countUnhealthy (cfg : Settings) (c : Container) (svc : String) (pass : Pass) : Pass :=
  let streak := pass.watchdog.streak c.id + 1
  let w := pass.watchdog.setStreak c.id streak
  if cfg.unhealthyPolls ≤ streak then
    let w := w.log ("watchdog: restarting unhealthy service=" ++ svc ++ " id=" ++ c.shortId)
    let w := w.report c.restart c.time svc "restart" "unhealthy"
    { pass with watchdog := w.setStreak c.id 0, calls := pass.calls ++ [.restart c.id] }
  else { pass with watchdog := w }

def act (cfg : Settings) (c : Container) (sight : Sight) (pass : Pass) : Pass :=
  let pass := { pass with seen := c.id :: pass.seen }
  let monitored := { pass with monitored := pass.monitored + 1 }
  match sight with
  | .passedOver => pass
  | .exited svc => startExited c svc monitored
  | .unhealthy svc => countUnhealthy cfg c svc monitored
  | .healthy => { monitored with watchdog := monitored.watchdog.setStreak c.id 0 }
  | .other => monitored

/-- The loop over the containers. What raises, raises before the turn has changed anything that
outlives the tick; what the turns before have done, stays. -/
def visit (cfg : Settings) : List Container → Pass → Pass × Option String
  | [], pass => (pass, none)
  | c :: containers, pass =>
    match c.sight cfg with
    | .error e => (pass, some e)
    | .ok sight => visit cfg containers (act cfg c sight pass)

/-- What is done after the loop. -/
def settle (cfg : Settings) (time : Float) (pass : Pass) : Watchdog where
  unhealthyStreak := pass.watchdog.unhealthyStreak.deleteAll
    (pass.watchdog.unhealthyStreak.keys.filter fun cid => !pass.seen.contains cid)
  status := { pass.watchdog.status with
    lastTickAt := some time
    instancesMonitored := pass.monitored
    intervalSec := cfg.interval }

/-- How a tick ends. -/
structure Ended where
  watchdog : Watchdog
  calls : List DockerCall
  raised : Option String

/-- `_tick`. -/
def tick (cfg : Settings) (poll : Poll) (w : Watchdog) : Ended :=
  match poll.list with
  | .error e => ⟨w, [], some e⟩
  | .ok listing =>
    match visit cfg listing.containers ⟨w, [], 0, []⟩ with
    | (pass, some e) => ⟨pass.watchdog, pass.calls, some e⟩
    | (pass, none) => ⟨settle cfg poll.time pass, pass.calls, none⟩

/-- A turn of the loop in `main`. -/
def turn (cfg : Settings) (w : Watchdog) (poll : Poll) : Watchdog :=
  let ended := tick cfg poll w
  match ended.raised with
  | some e => ended.watchdog.log ("watchdog: tick error: " ++ e)
  | none => ended.watchdog

/-- `main`, as far as these polls. -/
def run (cfg : Settings) (status : Status) (polls : List Poll) : Watchdog :=
  polls.foldl (turn cfg) ⟨.empty, status⟩

end PeHackathon.ComposeWatchdog
