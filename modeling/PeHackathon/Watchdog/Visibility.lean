import PeHackathon.Js.Text

/-!
# The rows of a poll

`railway-visibility.ts`: what a poll of Railway answers for each service. The columns of the Ops
table that the tick does not read (`id`, `image`, `state`, `health`, `created` and the metrics) are
left out.
-/

namespace PeHackathon.Watchdog

open Js

inductive RailwayOnlineStatus
  | online
  | completed
  | deploying
  | failed
  | skipped
  | unknown
  | exited
  deriving DecidableEq, Repr

def RailwayOnlineStatus.render : RailwayOnlineStatus → String
  | .online => "online"
  | .completed => "completed"
  | .deploying => "deploying"
  | .failed => "failed"
  | .skipped => "skipped"
  | .unknown => "unknown"
  | .exited => "exited"

structure RailwayVisibilityRow where
  name : String
  status : String
  deploymentStatus : Option String
  railwayOnlineStatus : RailwayOnlineStatus
  service : String
  railwayServiceId : String
  railwayDeploymentId : Option String
  railwayPublicUrl : Option String
  deriving DecidableEq, Repr

/-- What `fetchRailwayVisibilityRows` resolves to. -/
structure VisibilityResult where
  containers : List RailwayVisibilityRow
  error : Option String
  deriving DecidableEq, Repr

def deploymentStatusToRailwayUi (deploymentStatus : Option String) (hasActiveDeployment : Bool) :
    RailwayOnlineStatus :=
  if !hasActiveDeployment then .completed
  else
    let s := toUpperCase (trim (deploymentStatus.getD ""))
    if s = "" ∨ s = "UNKNOWN" then .unknown
    else if s ∈ ["SUCCESS", "SLEEPING"] then .online
    else if s ∈ ["BUILDING", "DEPLOYING", "INITIALIZING", "NEEDS_APPROVAL", "QUEUED", "WAITING",
        "REMOVING", "THROTTLED"] then .deploying
    else if s ∈ ["FAILED", "CRASHED"] then .failed
    else if s ∈ ["REMOVED", "STOPPED", "CANCELED", "CANCELLED"] then .completed
    else if s = "SKIPPED" then .skipped
    else .unknown

/-- The newest deployment of a service, as GraphQL answers it. -/
structure DeploymentNode where
  id : String
  status : Option String
  url : Option String
  staticUrl : Option String
  deriving DecidableEq, Repr

/-- `a || b || undefined` on texts. -/
def firstNonEmpty (a b : Option String) : Option String :=
  (a.filter (· != "")).or (b.filter (· != ""))

/-- The row of one service: the body of the loop of `fetchRailwayVisibilityRows`. -/
def visibilityRow (sid name : String) : Option DeploymentNode → RailwayVisibilityRow
  | none =>
    { name := if name = "" then sid else name
      status := "No active deployment"
      deploymentStatus := none
      railwayOnlineStatus := deploymentStatusToRailwayUi none false
      service := name
      railwayServiceId := sid
      railwayDeploymentId := none
      railwayPublicUrl := none }
  | some dep =>
    let status := dep.status.getD "UNKNOWN"
    let publicUrl := firstNonEmpty dep.staticUrl dep.url
    { name := if name = "" then sid else name
      status := status ++ (match publicUrl with
        | some url => " · " ++ url
        | none => "")
      deploymentStatus := some status
      railwayOnlineStatus := deploymentStatusToRailwayUi (some status) true
      service := name
      railwayServiceId := sid
      railwayDeploymentId := some dep.id
      railwayPublicUrl := publicUrl }

/-! ## Predicates on a status -/

def isBad (s : String) : Bool := toUpperCase s ∈ ["CRASHED", "FAILED"]

def isDeploying (s : String) : Bool :=
  toUpperCase s ∈ ["BUILDING", "DEPLOYING", "INITIALIZING", "QUEUED", "WAITING"]

def isHealthy (s : String) : Bool := toUpperCase s ∈ ["SUCCESS", "SLEEPING"]

/-- Involuntary failure states, not an intentional shutdown. -/
def needsAutoRecoverTrigger (status : String) : Bool :=
  toUpperCase status ∈ ["CRASHED", "FAILED"]

def wasCompletedLike (onlineStatus : RailwayOnlineStatus) : Bool :=
  onlineStatus ∈ [.completed, .failed, .unknown, .skipped]

namespace RailwayVisibilityRow

/-- `name` in the tick: `row.service || row.name`. -/
def label (row : RailwayVisibilityRow) : String :=
  if row.service = "" then row.name else row.service

/-- `depId` in the tick. -/
def depId (row : RailwayVisibilityRow) : String := row.railwayDeploymentId.getD ""

/-- `cur` in the tick. -/
def cur (row : RailwayVisibilityRow) : String := trim (row.deploymentStatus.getD "UNKNOWN")

end RailwayVisibilityRow

theorem isDeploying_of_isHealthy {s : String} (h : isHealthy s = true) : isDeploying s = false := by
  simp only [isHealthy, isDeploying, decide_eq_true_eq, List.mem_cons, List.not_mem_nil,
    or_false] at h ⊢
  rcases h with h | h <;> rw [h] <;> decide

theorem needsAutoRecoverTrigger_of_isHealthy {s : String} (h : isHealthy s = true) :
    needsAutoRecoverTrigger s = false := by
  simp only [isHealthy, needsAutoRecoverTrigger, decide_eq_true_eq, List.mem_cons, List.not_mem_nil,
    or_false] at h ⊢
  rcases h with h | h <;> rw [h] <;> decide

end PeHackathon.Watchdog
