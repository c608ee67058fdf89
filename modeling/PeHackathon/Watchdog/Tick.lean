import PeHackathon.Watchdog.State

/-!
# One tick

`runRailwayWatchdogTick` (`railway-watchdog-tick.ts`), cut into its parts: `processRow` is the body
of the loop over the rows, and each of its parts is a function of its own, in the order of the
source.
-/

namespace PeHackathon.Watchdog

open Lib Js

/-! ## Steps -/

def step (q : Call) : Tick (Answer q) := .perform q

def readState : Tick WatchdogPersistentState := step .get

def update (f : WatchdogPersistentState → WatchdogPersistentState) : Tick Unit := step (.update f)

def record (f : WatchdogPersistentState → WatchdogPersistentState)
    (mark : WatchdogPersistentState → MarkKind) : Tick Unit := step (.record f mark)

def dateNow : Tick Nat := step .dateNow

def isoNow : Tick String := step .isoNow

def performanceNow : Tick Nat := step .performanceNow

/-- `Math.round(performance.now() - start)`. -/
def elapsedMs (start : Nat) : Tick Int := do
  let stop ← performanceNow
  return roundDiv ((stop : Int) - start) 1000

/-- The request goes out, then the caller waits for the answer. -/
def railwayServiceInstanceDeployLatest (site : DeploySite) (environmentId serviceId : String) :
    Tick (Option String) := do
  step (.sendDeploy site environmentId serviceId)
  step (.awaitDeploy site serviceId)

def fetchRailwayVisibilityRows : Tick VisibilityResult := step .fetchRows

def pingHeartbeatUrl (probeUrl : String) : Tick PingResult := step (.ping probeUrl)

def updateLifecycle (f : HeartbeatExitLifecycleState → HeartbeatExitLifecycleState) : Tick Unit :=
  update fun s => { s with heartbeatExitLifecycle := f s.heartbeatExitLifecycle }

def updateHeartbeatObject (ref : Nat) (f : HeartbeatRecoverState → HeartbeatRecoverState) :
    Tick Unit :=
  update fun s =>
    { s with heartbeatObjects := fun r => if r = ref then f (s.heartbeatObjects r)
        else s.heartbeatObjects r }

/-! ## Logs -/

def LOG_TAIL_MAX : Nat := 40

def API_ACTIVITY_MAX : Nat := 48

/-- Min time between auto-redeploy attempts per service (avoids hammering the API). -/
def RECOVER_COOLDOWN_MS : Nat := 50000

/-- `s || other`. -/
def orElse (s other : String) : String := if s = "" then other else s

/-- `a.slice(-n)`. -/
def keepLast {α : Type} (n : Nat) (l : List α) : List α := l.drop (l.length - n)

def pushLogLine (line : String) : Tick Unit :=
  update fun s => { s with logTail := keepLast LOG_TAIL_MAX (s.logTail ++ [line]) }

def pushActivity (entry : Activity) : Tick Unit := do
  let time ← isoNow
  update fun s =>
    { s with apiActivity := keepLast API_ACTIVITY_MAX (s.apiActivity ++ [{ entry with time }]) }

/-! ## What a tick computes once, and what it counts -/

structure TickLocals where
  env : Environment
  now : String
  environmentId : String
  autoRecover : Bool
  hbThreshold : Nat
  hbMaxRecover : Nat
  hbCooldownMs : Nat

def TickLocals.of (env : Environment) (now : String) : TickLocals where
  env := env
  now := now
  environmentId := railwayEnvironmentId env
  autoRecover := autoRecoverOn env
  hbThreshold := heartbeatMissThreshold env
  hbMaxRecover := heartbeatMaxRecoverPerEpoch env
  hbCooldownMs := heartbeatRecoverCooldownMs env

structure TickTotals where
  events : List WatchdogEvent
  hbProbes : Nat
  hbOk : Nat
  hbFail : Nat
  hbSkipped : Nat

def TickTotals.zero : TickTotals where
  events := []
  hbProbes := 0
  hbOk := 0
  hbFail := 0
  hbSkipped := 0

def TickTotals.push (totals : TickTotals) (event : WatchdogEvent) : TickTotals :=
  { totals with events := totals.events ++ [event] }

section Row

variable (t : TickLocals) (row : RailwayVisibilityRow) (totals : TickTotals)

/-! ## Exit redeploy -/

/-- The condition of the exit redeploy. -/
def exitRedeployDue (lifecycle : HeartbeatExitLifecycleState) : Bool :=
  railwayHeartbeatEnabled t.env && railwayHeartbeatExitRedeployEnabled t.env && t.autoRecover &&
    t.environmentId != "" && peekExitLifecycleRedeem lifecycle row.railwayServiceId &&
    isHealthy row.cur && !isDeploying row.cur && row.depId != ""

def exitRedeploy : Tick TickTotals := do
  let s ← readState
  if exitRedeployDue t row s.heartbeatExitLifecycle then
    updateLifecycle (clearExitLifecycleRedeemFlag · row.railwayServiceId)
    let depT0 ← performanceNow
    match ← railwayServiceInstanceDeployLatest .exitRedeploy t.environmentId
      row.railwayServiceId with
    | none =>
      let depMs ← elapsedMs depT0
      pushActivity
        { kind := .graphql
          target := s!"serviceInstanceDeploy exit-redeploy ({row.label})"
          method := some "POST"
          durationMs := some depMs
          status := some (.code 200) }
      updateLifecycle (clearExitLifecycleForService · row.railwayServiceId)
      let time ← dateNow
      pushLogLine s!"watchdog: exit-lifecycle redeploy {row.label} → serviceInstanceDeploy"
      return totals.push
        { id := s!"{row.railwayServiceId}-exit-redeploy-{time}"
          time := t.now
          service := row.label
          kind := .heartbeatExitRedeploy
          message :=
            s!"Lifecycle was exited (liveness failed); serviceInstanceDeploy(latest) for {row.label}." }
    | some msg =>
      updateLifecycle (requeueExitLifecycleRedeem · row.railwayServiceId)
      pushLogLine s!"watchdog: exit-lifecycle redeploy failed {row.label}: {msg}"
      return totals
  else return totals

/-! ## Heartbeat -/

def newHeartbeatObject : Tick Nat := do
  let s ← readState
  update fun s =>
    { s with
      heartbeatObjects := fun r =>
        if r = s.freshObject then
          { deploymentId := row.depId
            deploymentStatus := row.cur
            consecutiveMisses := 0
            recoveriesUsed := 0
            loggedBudgetExhausted := false
            loggedCooldownWait := some false }
        else s.heartbeatObjects r
      freshObject := s.freshObject + 1 }
  return s.freshObject

/-- `hbSt`: the object of the service, or a new one that is not in the map yet. -/
def heartbeatObject : Tick Nat := do
  let s ← readState
  match s.heartbeatRecoverState.get row.railwayServiceId with
  | none => newHeartbeatObject row
  | some ref =>
    if (s.heartbeatObjects ref).deploymentId ≠ row.depId then newHeartbeatObject row
    else
      updateHeartbeatObject ref fun hbSt =>
        { hbSt with
          deploymentStatus := row.cur
          loggedCooldownWait := some (hbSt.loggedCooldownWait.getD false) }
      return ref

/-- `Date.now() - last >= cooldown`. -/
def cooldownOver (now last cooldown : Nat) : Bool := decide ((cooldown : Int) ≤ (now : Int) - last)

/-- The redeploy of a service whose heartbeat failed often enough. -/
def heartbeatRecover (ref : Nat) : Tick TickTotals := do
  let depT0 ← performanceNow
  match ← railwayServiceInstanceDeployLatest .heartbeatRecover t.environmentId
    row.railwayServiceId with
  | none =>
    let depMs ← elapsedMs depT0
    pushActivity
      { kind := .graphql
        target := s!"serviceInstanceDeploy({row.label})"
        method := some "POST"
        durationMs := some depMs
        status := some (.code 200) }
    updateHeartbeatObject ref fun hbSt =>
      { hbSt with
        recoveriesUsed := hbSt.recoveriesUsed + 1
        consecutiveMisses := 0
        loggedBudgetExhausted := false
        loggedCooldownWait := some false }
    let recoveredAt ← dateNow
    update fun s =>
      { s with
        heartbeatLastRecoverAt := s.heartbeatLastRecoverAt.set row.railwayServiceId recoveredAt }
    let time ← dateNow
    let s ← readState
    let used := (s.heartbeatObjects ref).recoveriesUsed
    pushLogLine
      s!"watchdog: heartbeat redeploy {row.label} (epoch {used}/{t.hbMaxRecover}) → serviceInstanceDeploy; cooldown {t.hbCooldownMs}ms"
    return totals.push
      { id := s!"{row.railwayServiceId}-heartbeat-{time}"
        time := t.now
        service := row.label
        kind := .heartbeatRecover
        message :=
          s!"HTTP heartbeat failed {t.hbThreshold}+ time(s) for {row.label} (deployment {row.cur}); serviceInstanceDeploy(latest) ({used}/{t.hbMaxRecover} this deployment id). Next allowed after {roundDiv t.hbCooldownMs 60000}m cooldown." }
  | some msg =>
    pushLogLine s!"watchdog: heartbeat redeploy failed {row.label}: {msg}"
    return totals

/-- `cooldownOk`: the clock is read only when there is a cooldown. -/
def heartbeatCooldownOk (lastHbRecover : Nat) : Tick Bool :=
  if t.hbCooldownMs = 0 then return true
  else do
    let now ← dateNow
    return cooldownOver now lastHbRecover t.hbCooldownMs

/-- A probe failed and the recovery by heartbeat is on. -/
def heartbeatMissed (ref : Nat) : Tick TickTotals := do
  updateHeartbeatObject ref fun hbSt =>
    { hbSt with consecutiveMisses := hbSt.consecutiveMisses + 1 }
  let s ← readState
  let hbSt := s.heartbeatObjects ref
  let enough := t.hbThreshold ≤ hbSt.consecutiveMisses
  let canRecover := 0 < t.hbMaxRecover ∧ hbSt.recoveriesUsed < t.hbMaxRecover
  let lastHbRecover := (s.heartbeatLastRecoverAt.get row.railwayServiceId).getD 0
  let cooldownOk ← heartbeatCooldownOk t lastHbRecover
  if enough ∧ canRecover ∧ cooldownOk then heartbeatRecover t row totals ref
  else if enough ∧ canRecover ∧ !cooldownOk ∧ !(hbSt.loggedCooldownWait.getD false) then
    updateHeartbeatObject ref fun hbSt => { hbSt with loggedCooldownWait := some true }
    let now ← dateNow
    let left := roundDiv ((t.hbCooldownMs : Int) - ((now : Int) - lastHbRecover)) 1000
    pushLogLine
      s!"watchdog: heartbeat recover waiting on cooldown ({left}s left, {roundDiv t.hbCooldownMs 60000}m total); RAILWAY_HEARTBEAT_RECOVER_COOLDOWN_MS"
    return totals
  else if enough ∧ ¬ canRecover ∧ !hbSt.loggedBudgetExhausted then
    updateHeartbeatObject ref fun hbSt => { hbSt with loggedBudgetExhausted := true }
    let depText := orElse row.depId "?"
    pushLogLine
      s!"watchdog: heartbeat recover paused for {row.label} — max {t.hbMaxRecover} redeploy(s) for deployment id {depText}; resets when Railway assigns a new deployment."
    return totals
  else return totals

/-- The condition of the recovery by heartbeat. -/
def heartbeatRecoverDue : Bool :=
  !railwayHeartbeatExitRedeployEnabled t.env && railwayHeartbeatRecoverEnabled t.env &&
    t.autoRecover && isHealthy row.cur && !isDeploying row.cur

/-- What a probe means for the recovery by heartbeat. -/
def heartbeatAnswered (ref : Nat) (pr : PingResult) : Tick TickTotals := do
  if pr.ok then
    updateHeartbeatObject ref fun hbSt =>
      { hbSt with consecutiveMisses := 0, loggedCooldownWait := some false }
    return { totals with hbOk := totals.hbOk + 1 }
  else
    let totals := { totals with hbFail := totals.hbFail + 1 }
    if heartbeatRecoverDue t row then heartbeatMissed t row totals ref
    else if !isHealthy row.cur then
      updateHeartbeatObject ref fun hbSt => { hbSt with consecutiveMisses := 0 }
      return totals
    else return totals

def probeMark (lifecycle : HeartbeatExitLifecycleState) (ok : Bool) : ProbeMark :=
  let synced := syncHeartbeatExitDeploymentId lifecycle row.railwayServiceId row.depId
  let becomesExited := decide (row.railwayOnlineStatus = .online) && !ok &&
    showsFirstExit synced row.railwayServiceId t.env
  { serviceId := row.railwayServiceId
    deploymentId := row.depId
    onlineStatus := row.railwayOnlineStatus
    ok := ok
    becomesExited := becomesExited
    schedules := becomesExited && railwayHeartbeatExitRedeployEnabled t.env }

/-- The probe goes into the lifecycle. -/
def recordProbe (ok : Bool) : Tick Unit :=
  record
    (fun s => { s with
      heartbeatExitLifecycle := (afterTickProbe s.heartbeatExitLifecycle
        row.railwayServiceId row.depId t.env row.railwayOnlineStatus ok).1 })
    (fun s => .probe (probeMark t row s.heartbeatExitLifecycle ok))

def pingActivity (probeUrl : String) (hbMs : Int) (pr : PingResult) : Activity :=
  { kind := .http
    target := probeUrl
    method := some "GET"
    durationMs := some hbMs
    status := some (match pr.statusCode with
      | some n => .code n
      | none => if pr.ok then .code 200 else .text "fail")
    detail := pr.error.filter (· != "") }

/-- Why a row is not probed. -/
def pushSkipped : Tick Unit :=
  if row.railwayPublicUrl.getD "" ≠ "" then
    pushActivity
      { kind := .http
        target := s!"heartbeat skipped ({row.label})"
        detail := some "no probe path for service" }
  else if trim (row.railwayPublicUrl.getD "") = "" ∧ !shouldUsePrivateRailwayHeartbeat t.env then
    pushActivity
      { kind := .http
        target := s!"heartbeat skipped ({row.label})"
        detail := some "no public URL" }
  else return ()

def heartbeatSkipped : Tick TickTotals := do
  update fun s =>
    { s with heartbeatRecoverState := s.heartbeatRecoverState.delete row.railwayServiceId }
  pushSkipped t row
  return { totals with hbSkipped := totals.hbSkipped + 1 }

def heartbeat : Tick TickTotals := do
  let ref ← heartbeatObject row
  match row.probedAt t.env with
  | some probeUrl =>
    let totals := { totals with hbProbes := totals.hbProbes + 1 }
    let hbT0 ← performanceNow
    let pr ← pingHeartbeatUrl probeUrl
    let hbMs ← elapsedMs hbT0
    pushActivity (pingActivity probeUrl hbMs pr)
    let totals ← heartbeatAnswered t row totals ref pr
    recordProbe t row pr.ok
    update fun s =>
      { s with heartbeatRecoverState := s.heartbeatRecoverState.set row.railwayServiceId ref }
    return totals
  | none =>
    if railwayHeartbeatEnabled t.env then heartbeatSkipped t row totals else return totals

/-! ## Auto-recover -/

def forgetCooldown : Tick Unit := do
  if isHealthy row.cur then
    record (fun s => { s with recoverCooldown := s.recoverCooldown.delete row.railwayServiceId })
      (fun _ => .healthy row.railwayServiceId)
  else return ()

def autoRedeploy : Tick TickTotals := do
  let depT0 ← performanceNow
  match ← railwayServiceInstanceDeployLatest .autoRecover t.environmentId row.railwayServiceId with
  | none =>
    let depMs ← elapsedMs depT0
    pushActivity
      { kind := .graphql
        target := s!"serviceInstanceDeploy auto-recover ({row.label})"
        method := some "POST"
        durationMs := some depMs
        status := some (.code 200) }
    let recoveredAt ← dateNow
    update fun s =>
      { s with recoverCooldown := s.recoverCooldown.set row.railwayServiceId recoveredAt }
    let time ← dateNow
    pushLogLine s!"watchdog: auto-redeploy {row.label} ({row.cur}) → serviceInstanceDeploy"
    return totals.push
      { id := s!"{row.railwayServiceId}-autorecover-{time}"
        time := t.now
        service := row.label
        kind := .railwayAutoRecover
        message :=
          s!"Watchdog triggered serviceInstanceDeploy(latest) for {row.label} (was {row.cur})." }
  | some msg =>
    pushLogLine s!"watchdog: auto-redeploy failed {row.label}: {msg}"
    return totals

def autoRecover : Tick TickTotals := do
  if t.autoRecover && needsAutoRecoverTrigger row.cur && !isDeploying row.cur then
    let s ← readState
    match s.recoverCooldown.get row.railwayServiceId with
    | none => autoRedeploy t row totals
    | some lastAttempt =>
      let now ← dateNow
      if cooldownOver now lastAttempt RECOVER_COOLDOWN_MS then autoRedeploy t row totals
      else return totals
  else return totals

/-! ## Events -/

/-- Previous tick looked like an active healthy deployment. -/
def wasActivelyDeployed (before : WatchdogPrevEntry) : Bool :=
  trim before.deploymentId != "" &&
    (isHealthy before.deploymentStatus || isDeploying before.deploymentStatus)

/-- Current row indicates stopped, removed, or no active deployment. -/
def isNowStoppedOrNoDeployment : Bool :=
  trim row.depId == "" ||
    toUpperCase row.cur ∈ ["STOPPED", "REMOVED", "CANCELED", "CANCELLED"] ||
    includes (toLowerCase row.status) "no active deployment"

def stoppedEvents (before : WatchdogPrevEntry) : Tick TickTotals := do
  if wasActivelyDeployed before && isNowStoppedOrNoDeployment row then
    let time ← dateNow
    let nowText := orElse row.cur "no deployment"
    let nowWord := orElse row.cur "none"
    pushLogLine s!"watchdog: {row.label} railway_stopped ({before.deploymentStatus} → {nowText})"
    return totals.push
      { id := s!"{row.railwayServiceId}-stopped-{time}"
        time := t.now
        service := row.label
        kind := .railwayStopped
        message :=
          s!"Deployment stopped or removed; no active deployment for {row.label} (was {before.deploymentStatus}, now {nowWord})." }
  else return totals

/-- The totals, and `emittedLifecycle`. -/
def lifecycleEvents (before : WatchdogPrevEntry) : Tick (TickTotals × Bool) := do
  if wasCompletedLike before.onlineStatus && row.railwayOnlineStatus == .deploying then
    pushLogLine s!"watchdog: {row.label} {before.onlineStatus.render} → deploying ({row.cur})"
    return (totals.push
      { id := s!"{row.railwayServiceId}-rebooting-{t.now}"
        time := t.now
        service := row.label
        kind := .railwayRebooting
        message :=
          s!"Watchdog: {row.label} left Completed/stopped and is Deploying (reboot / new deployment). Status: {row.cur}." }, true)
  else if before.onlineStatus == .online && row.railwayOnlineStatus == .deploying then
    return (totals.push
      { id := s!"{row.railwayServiceId}-redeploy-{t.now}"
        time := t.now
        service := row.label
        kind := .railwayDeploy
        message :=
          s!"Watchdog: {row.label} is Deploying while previously Online ({row.cur}) — rolling out a new revision." }, true)
  else return (totals, false)

def deploymentEvents (before : WatchdogPrevEntry) (emittedLifecycle : Bool) : TickTotals :=
  let b := toUpperCase before.deploymentStatus
  let c := toUpperCase row.cur
  if isBad b && (isDeploying c || isHealthy c) then
    totals.push
      { id := s!"{row.railwayServiceId}-recover-{t.now}-{c}"
        time := t.now
        service := row.label
        kind := .recover
        message :=
          s!"Watchdog identified a stalled or crashed deployment ({before.deploymentStatus}) and Railway is recovering {row.label} (now {row.cur})." }
  else if !emittedLifecycle && before.deploymentId != row.depId && row.depId != "" && !isBad b &&
      (isDeploying c || isHealthy c) then
    totals.push
      { id := s!"{row.railwayServiceId}-dep-{row.depId}-{t.now}"
        time := t.now
        service := row.label
        kind := .railwayDeploy
        message := s!"New deployment for {row.label}; Railway is rolling out a new revision." }
  else totals

def rowEvents (before : Option WatchdogPrevEntry) : Tick TickTotals :=
  match before with
  | none => return totals
  | some before => do
    let totals ← stoppedEvents t row totals before
    let (totals, emittedLifecycle) ← lifecycleEvents t row totals before
    return deploymentEvents t row totals before emittedLifecycle

/-! ## The loop -/

/-- The body of the loop over the rows. -/
def processRow : Tick TickTotals := do
  step (.takeUp t.env row)
  let s ← readState
  let before := s.prev.get row.railwayServiceId
  let totals ← exitRedeploy t row totals
  let totals ← heartbeat t row totals
  forgetCooldown row
  let totals ← autoRecover t row totals
  let totals ← rowEvents t row totals before
  let entry : WatchdogPrevEntry :=
    { deploymentStatus := row.cur
      deploymentId := row.depId
      onlineStatus := row.railwayOnlineStatus }
  update fun s => { s with prev := s.prev.set row.railwayServiceId entry }
  return totals

end Row

/-! ## The tick -/

structure HeartbeatCounts where
  enabled : Bool
  probes : Nat
  ok : Nat
  failed : Nat
  skipped : Nat
  deriving DecidableEq, Repr

/-- The payload of source `railway`. -/
structure WatchdogPayload where
  intervalSec : ParsedInt
  lastTickAt : Option String
  instancesMonitored : Nat
  events : List WatchdogEvent
  heartbeat : Option HeartbeatCounts
  error : Option String
  logTail : Option (List String)
  apiActivity : List WatchdogApiActivityEntry
  deriving DecidableEq, Repr

def WatchdogPersistentState.logTailOut (s : WatchdogPersistentState) : Option (List String) :=
  if 0 < s.logTail.length then some s.logTail else none

/-- Delete the entries of the services that are gone. -/
def forgetGone (rows : List RailwayVisibilityRow) (s : WatchdogPersistentState) :
    WatchdogPersistentState :=
  let ids := rows.map (·.railwayServiceId)
  { s with
    prev := s.prev.deleteAll (s.prev.keys.filter (· ∉ ids))
    heartbeatRecoverState :=
      s.heartbeatRecoverState.deleteAll (s.heartbeatRecoverState.keys.filter (· ∉ ids))
    heartbeatLastRecoverAt :=
      s.heartbeatLastRecoverAt.deleteAll (s.heartbeatLastRecoverAt.keys.filter (· ∉ ids)) }

/-- The services in a bad state. -/
def pushStatusLine (rows : List RailwayVisibilityRow) : Tick Unit :=
  let bad := rows.filter fun r => isBad (trim (r.deploymentStatus.getD ""))
  if 0 < bad.length then
    let texts := ", ".intercalate (bad.map fun r => r.label ++ "=" ++ r.deploymentStatus.getD "?")
    pushLogLine s!"  status: {texts}"
  else return ()

/-- What follows the loop. -/
def finishTick (env : Environment) (now : String) (rows : List RailwayVisibilityRow)
    (totals : TickTotals) : Tick WatchdogPayload := do
  update (forgetGone rows)
  let eventsOut := totals.events.take 30
  pushLogLine s!"[{now}] poll · {rows.length} service(s) · {eventsOut.length} new event(s)"
  eventsOut.forM fun ev => pushLogLine s!"  {ev.message}"
  pushStatusLine rows
  let s ← readState
  return {
    intervalSec := railwayWatchdogIntervalSec env
    lastTickAt := some now
    instancesMonitored := rows.length
    events := eventsOut
    heartbeat := some (if railwayHeartbeatEnabled env then
        { enabled := true, probes := totals.hbProbes, ok := totals.hbOk, failed := totals.hbFail,
          skipped := totals.hbSkipped }
      else { enabled := false, probes := 0, ok := 0, failed := 0, skipped := 0 })
    error := none
    logTail := s.logTailOut
    apiActivity := s.apiActivity }

/-- `rows.error`, when it is not the empty text. -/
def VisibilityResult.errorText (rows : VisibilityResult) : Option String :=
  rows.error.filter (· != "")

/-- The poll and its log entry. -/
def pollRows : Tick VisibilityResult := do
  let gqlT0 ← performanceNow
  let rows ← fetchRailwayVisibilityRows
  let gqlMs ← elapsedMs gqlT0
  pushActivity
    { kind := .graphql
      target := "Railway GraphQL (fetchRailwayVisibilityRows)"
      method := some "POST"
      durationMs := some gqlMs
      status := some (if rows.errorText.isSome then .text "error" else .code 200)
      detail := rows.errorText }
  return rows

/-- A tick whose poll failed. -/
def failTick (env : Environment) (error : String) : Tick WatchdogPayload := do
  let s ← readState
  return {
    intervalSec := railwayWatchdogIntervalSec env
    lastTickAt := none
    instancesMonitored := 0
    events := []
    heartbeat := none
    error := some error
    logTail := s.logTailOut
    apiActivity := s.apiActivity }

def runRailwayWatchdogTick (env : Environment) : Tick WatchdogPayload := do
  let rows ← pollRows
  match rows.errorText with
  | some error => failTick env error
  | none =>
    let now ← isoNow
    let totals ← rows.containers.foldlM
      (fun totals row => processRow (TickLocals.of env now) row totals) TickTotals.zero
    finishTick env now rows.containers totals

end PeHackathon.Watchdog
