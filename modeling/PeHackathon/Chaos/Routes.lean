import PeHackathon.Lib.Prog
import PeHackathon.Watchdog.EnvSnapshot
import PeHackathon.Watchdog.Tick

/-!
# Chaos actions of the dashboard

`docker-chaos-policy.ts` says which services may be hit. `POST chaos/kill` and `POST chaos/restart`
look the target up, check it against the name that the request confirms, and act on it. The two
routes differ in their last call and their texts (`ChaosRoute`). What Railway and Docker answer is
open.
-/

namespace PeHackathon.Chaos

open Js Lib Watchdog

/-! ## The policy -/

/-- Never kill the Ops dashboard container. -/
def BLOCKED_SERVICES : List String := ["dashboard"]

/-- When `CHAOS_ALLOWED_SERVICES` is unset, only these services may be killed. -/
def DEFAULT_ALLOWED_SERVICES : List String :=
  ["db", "postgres", "redis", "zookeeper", "kafka", "kafka-log-consumer", "url-shortener-a",
    "url-shortener-b", "load-balancer", "prometheus", "alertmanager", "db-backup", "dashboard-db",
    "dashboard-backend", "user-frontend"]

def chaosKillEnabled (env : Environment) : Bool :=
  let raw := trim ((runtimeEnv env "CHAOS_KILL_ENABLED").getD "")
  if raw = "" then env.process.lookup "NODE_ENV" = some "development"
  else
    let v := toLowerCase raw
    if v ∈ offWords then false else v ∈ onWords

/-- The services of `CHAOS_ALLOWED_SERVICES`, in their order. -/
def parseAllowedServicesOverride (env : Environment) : Option (List String) :=
  let raw := trim ((runtimeEnv env "CHAOS_ALLOWED_SERVICES").getD "")
  if raw = "" then none
  else
    let names :=
      ((raw.toList.splitOn ',').map fun s => toLowerCase (trim (String.ofList s))).filter (· != "")
    if names = [] then none else some names

def isServiceKillAllowed (env : Environment) (service : String) : Bool :=
  let s := toLowerCase (trim service)
  if s = "" then false
  else if s ∈ BLOCKED_SERVICES then false
  else
    match parseAllowedServicesOverride env with
    | some names => s ∈ names
    | none => s ∈ DEFAULT_ALLOWED_SERVICES

/-! ## Calls -/

structure ServiceNode where
  id : String
  name : String
  deriving DecidableEq, Repr

/-- The labels that Compose gives a container. -/
structure ComposeLabels where
  service : Option String
  project : Option String
  deriving DecidableEq, Repr

inductive Call
  | projectServices (projectId : String)
  | deployments (projectId environmentId : String) (serviceIds : List String)
  | deploymentStop (id : String)
  | deploymentRemove (id : String)
  | deploymentRestart (id : String)
  | inspect (containerId : String)
  | kill (containerId : String)
  | restart (containerId : String) (t : Nat)
  deriving DecidableEq, Repr

/-- Every call can throw, with a message. A project may be `null`, as may its services, and a batch
has the newest deployment of the service at each place. A mutation answers a boolean, `null` or
nothing. -/
abbrev Answer : Call → Type
  | .projectServices _ => Except String (Option (List (Option ServiceNode)))
  | .deployments _ _ _ => Except String (Nat → Option DeploymentNode)
  | .deploymentStop _ => Except String (Option Bool)
  | .deploymentRemove _ => Except String (Option Bool)
  | .deploymentRestart _ => Except String (Option Bool)
  | .inspect _ => Except String ComposeLabels
  | .kill _ => Except String Unit
  | .restart _ _ => Except String Unit

abbrev Request := Prog Answer

abbrev ask (q : Call) : Request (Answer q) := Prog.perform q

/-! ## `railway-visibility.ts` -/

/-- `byId.get(sid) || ""`, where `byId` has the last name of each id. -/
def serviceName (services : List ServiceNode) (sid : String) : String :=
  ((services.reverse.find? (·.id = sid)).map (·.name)).getD ""

/-- The rows of the services, in their order. -/
def visibilityRows (services : List ServiceNode) (batch : Nat → Option DeploymentNode) :
    List RailwayVisibilityRow :=
  services.zipIdx.map fun s => visibilityRow s.1.id (serviceName services s.1.id) (batch s.2)

def fetchRailwayVisibilityRows (env : Environment) : Request VisibilityResult := do
  let projectId := (runtimeEnv env "RAILWAY_PROJECT_ID").getD ""
  let environmentId := (runtimeEnv env "RAILWAY_ENVIRONMENT_ID").getD ""
  match ← ask (.projectServices projectId) with
  | .error msg => pure { containers := [], error := some msg }
  | .ok none =>
    pure { containers := [], error := some "Railway project not found (check RAILWAY_PROJECT_ID)" }
  | .ok (some nodes) =>
    let services := nodes.reduceOption
    if services.isEmpty then pure { containers := [], error := none }
    else
      match ← ask (.deployments projectId environmentId (services.map (·.id))) with
      | .error msg => pure { containers := [], error := some msg }
      | .ok batch => pure { containers := visibilityRows services batch, error := none }

def getRailwayChaosRowForService (env : Environment) (railwayServiceId : String) :
    Request (Option RailwayVisibilityRow) := do
  let r ← fetchRailwayVisibilityRows env
  pure (if r.errorText.isSome then none
    else r.containers.find? (·.railwayServiceId = railwayServiceId))

inductive HaltMethod
  | deploymentStop
  | deploymentRemove
  deriving DecidableEq, Repr

def HaltMethod.render : HaltMethod → String
  | .deploymentStop => "deploymentStop"
  | .deploymentRemove => "deploymentRemove"

/-- What `railwayChaosHaltDeployment` throws when `deploymentRemove` fails too. -/
def haltFailed (stopped : Except String (Option Bool)) (msg : String) : String :=
  match stopped with
  | .error stopErr =>
    "Railway halt failed: deploymentStop (" ++ stopErr ++ "); deploymentRemove (" ++ msg ++ ")"
  | .ok _ =>
    "Railway halt failed: deploymentStop did not return true; deploymentRemove (" ++ msg ++ ")"

/-- The second `try` of `railwayChaosHaltDeployment`, where `deploymentStop` was answered with
`stopped`. -/
def haltByRemove (deploymentId : String) (stopped : Except String (Option Bool)) :
    Request (Except String HaltMethod) := do
  match ← ask (.deploymentRemove deploymentId) with
  | .error msg => pure (.error (haltFailed stopped msg))
  | .ok (some false) => pure (.error (haltFailed stopped "deploymentRemove returned false"))
  | .ok _ => pure (.ok .deploymentRemove)

/-- `deploymentStop`, then `deploymentRemove` unless the first answered `true`. -/
def railwayChaosHaltDeployment (deploymentId : String) : Request (Except String HaltMethod) := do
  match ← ask (.deploymentStop deploymentId) with
  | .ok (some true) => pure (.ok .deploymentStop)
  | stopped => haltByRemove deploymentId stopped

def railwayDeploymentRestart (deploymentId : String) : Request (Except String Unit) := do
  match ← ask (.deploymentRestart deploymentId) with
  | .error msg => pure (.error msg)
  | .ok (some false) =>
    pure (.error
      "Railway deploymentRestart returned false — check token permissions and deployment state.")
  | .ok _ => pure (.ok ())

/-! ## Requests and responses -/

/-- A field of the body: `undefined` or `null`, a string, or another value, which has no `trim`. -/
inductive BodyField
  | nullish
  | str (s : String)
  | other
  deriving DecidableEq, Repr

/-- `(field ?? "").trim()`, which can throw. -/
def BodyField.text : BodyField → Option String
  | .nullish => some ""
  | .str s => some (trim s)
  | .other => none

/-- The body as `request.json()` gives it: no JSON, `null`, or a value with fields. -/
inductive RequestBody
  | malformed
  | null
  | fields (containerId railwayServiceId confirmService : BodyField)
  deriving DecidableEq, Repr

structure ChaosResponse where
  status : Nat
  error : Option String
  ok : Option Bool
  service : Option String
  railwayMethod : Option String
  message : Option String
  deriving DecidableEq, Repr

/-- `NextResponse.json({ error }, { status })`. -/
def refusal (status : Nat) (error : String) : ChaosResponse :=
  ⟨status, some error, none, none, none, none⟩

/-- The answer of the `catch` around the calls. -/
def caught (message : String) : ChaosResponse := ⟨503, some message, some false, none, none, none⟩

/-- An exception that the handler lets through. -/
def unhandled : ChaosResponse := ⟨500, none, none, none, none, none⟩

def success (service : String) (railwayMethod : Option String) (message : String) : ChaosResponse :=
  ⟨200, none, some true, some service, railwayMethod, some message⟩

/-! ## The routes -/

/-- What the two routes differ in. `halt` and `hit` act on a deployment and on a container; they
answer the method and the message, or throw. -/
structure ChaosRoute where
  disabled : String
  notAllowed : String → String
  noDeployment : String
  halt : String → Request (Except String (Option String × String))
  hit : String → Request (Except String String)

namespace ChaosRoute

variable (route : ChaosRoute) (env : Environment)

/-- The part for a Railway service. -/
def postRailway (confirmService railwayServiceId : String) : Request ChaosResponse :=
  if !hasRailwayGraphqlCredential env then
    pure (refusal 503
      "Railway API token missing — set RAILWAY_PROJECT_TOKEN or RAILWAY_API_TOKEN on the dashboard service.")
  else if (runtimeEnv env "RAILWAY_PROJECT_ID").isNone ||
      (runtimeEnv env "RAILWAY_ENVIRONMENT_ID").isNone then
    pure (refusal 503
      ("RAILWAY_PROJECT_ID and RAILWAY_ENVIRONMENT_ID must be set on the dashboard service " ++
      "(e.g. via setup-railway variable sync)."))
  else do
    match ← getRailwayChaosRowForService env railwayServiceId with
    | none =>
      pure (refusal 404
        "Service not found or Railway visibility query failed — refresh the table and try again.")
    | some row =>
      if toLowerCase (trim row.service) ≠ confirmService then
        pure (refusal 400 "confirmService does not match this Railway service name.")
      else if !isServiceKillAllowed env row.service then
        pure (refusal 403 (route.notAllowed row.service))
      else
        match row.railwayDeploymentId.filter (· != "") with
        | none => pure (refusal 400 route.noDeployment)
        | some depId => do
          match ← route.halt depId with
          | .error msg => pure (caught msg)
          | .ok (method, message) => pure (success row.service method message)

/-- The part for a container. -/
def postDocker (confirmService containerId : String) : Request ChaosResponse := do
  let project := (runtimeEnv env "VISIBILITY_COMPOSE_PROJECT").getD "pe-hackathon-2026"
  match ← ask (.inspect containerId) with
  | .error msg => pure (caught msg)
  | .ok labels =>
    let svc := labels.service.getD ""
    let proj := labels.project.getD ""
    if proj = "" ∨ proj ≠ project then
      pure (refusal 403
        "Container is not part of the configured Compose project (check VISIBILITY_COMPOSE_PROJECT).")
    else if toLowerCase svc ≠ confirmService then
      pure (refusal 400 "confirmService does not match this container's Compose service name.")
    else if !isServiceKillAllowed env svc then pure (refusal 403 (route.notAllowed svc))
    else do
      match ← route.hit containerId with
      | .error msg => pure (caught msg)
      | .ok message => pure (success svc none message)

def post : RequestBody → Request ChaosResponse
  | body =>
    if !chaosKillEnabled env then pure (refusal 403 route.disabled)
    else
      match body with
      | .malformed =>
        pure (refusal 400
          ("JSON body required with confirmService and either containerId (Docker) or " ++
          "railwayServiceId (Railway)"))
      | .null => pure unhandled
      | .fields containerId railwayServiceId confirmService =>
        match confirmService.text with
        | none => pure unhandled
        | some confirm =>
          if toLowerCase confirm = "" then pure (refusal 400 "confirmService is required")
          else
            match railwayServiceId.text with
            | none => pure unhandled
            | some sid =>
              if sid ≠ "" then route.postRailway env (toLowerCase confirm) sid
              else
                match containerId.text with
                | none => pure unhandled
                | some cid =>
                  if cid = "" then
                    pure (refusal 400
                      "containerId and confirmService are required for Docker chaos")
                  else route.postDocker env (toLowerCase confirm) cid

end ChaosRoute

/-- `chaos/kill/route.ts`. -/
def killRoute : ChaosRoute where
  disabled :=
    "Chaos kill is disabled. Set CHAOS_KILL_ENABLED=1 (Compose sets this by default), use \u0060next dev\u0060 " ++
      "locally, or remove CHAOS_KILL_ENABLED=0."
  notAllowed service :=
    "Service \"" ++ service ++
      "\" is not allowed for chaos kill. Blocked or not in the allow list. Override with " ++
      "CHAOS_ALLOWED_SERVICES if needed."
  noDeployment := "No active deployment to stop — deploy the service in Railway first."
  halt depId := do
    match ← railwayChaosHaltDeployment depId with
    | .error msg => pure (.error msg)
    | .ok .deploymentStop =>
      pure (.ok (some HaltMethod.deploymentStop.render,
        "Deployment halted via deploymentStop. Check Railway dashboard / Ops table for status. Redeploy or use " ++
          "Reboot to bring it back."))
    | .ok .deploymentRemove =>
      pure (.ok (some HaltMethod.deploymentRemove.render,
        "Deployment halted via deploymentRemove (deploymentStop did not confirm). Check Railway dashboard / Ops " ++
          "table for status. Redeploy or use Reboot to bring it back."))
  hit containerId := do
    match ← ask (.kill containerId) with
    | .error msg => pure (.error msg)
    | .ok _ =>
      pure (.ok
        ("SIGKILL sent. This endpoint does not start the container — compose-watchdog (or the engine " ++
        "restart policy) will bring it back."))

/-- Seconds to wait for a graceful stop. -/
def RESTART_STOP_GRACE_S : Nat := 10

/-- `chaos/restart/route.ts`. -/
def restartRoute : ChaosRoute where
  disabled :=
    "Chaos actions are disabled. Set CHAOS_KILL_ENABLED=1 (Compose sets this by default), use \u0060next dev\u0060 " ++
      "locally, or remove CHAOS_KILL_ENABLED=0."
  notAllowed service :=
    "Service \"" ++ service ++
      "\" is not allowed. Blocked or not in the allow list. Override with " ++
      "CHAOS_ALLOWED_SERVICES if needed."
  noDeployment := "No active deployment to restart — deploy the service in Railway first."
  halt depId := do
    match ← railwayDeploymentRestart depId with
    | .error msg => pure (.error msg)
    | .ok _ =>
      pure (.ok (none,
        "deploymentRestart requested via Railway API (graceful restart of the running deployment)."))
  hit containerId := do
    match ← ask (.restart containerId RESTART_STOP_GRACE_S) with
    | .error msg => pure (.error msg)
    | .ok _ =>
      pure (.ok ("docker restart requested (stop grace " ++ toString RESTART_STOP_GRACE_S ++ "s)."))

/-- `POST` of `chaos/kill`. -/
def postKill (env : Environment) (body : RequestBody) : Request ChaosResponse :=
  killRoute.post env body

/-- `POST` of `chaos/restart`. -/
def postRestart (env : Environment) (body : RequestBody) : Request ChaosResponse :=
  restartRoute.post env body

end PeHackathon.Chaos
