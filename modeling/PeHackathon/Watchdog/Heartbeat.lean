import PeHackathon.Watchdog.Environment
import PeHackathon.Watchdog.Visibility

/-!
# Heartbeats

`service-heartbeat.ts`: which address is probed for a service, and what a probe answers.
-/

namespace PeHackathon.Watchdog

open Js

/-- Services with no meaningful public HTTP probe. -/
def internalHttpServices : List String :=
  ["db", "dashboard-db", "postgres", "redis", "kafka", "zookeeper", "kafka-log-consumer",
    "prometheus", "alertmanager", "db-backup"]

/-- A path to GET for liveness, or `none` when the service is not probed. -/
def heartbeatPathForService (serviceName : String) : Option String :=
  let s := toLowerCase (trim serviceName)
  if s = "" then none
  else if s ∈ internalHttpServices then none
  else if includes s "postgres" ∧ ¬ includes s "shortener" then none
  else if s = "dashboard-backend" then some "/api/health"
  else if s = "dashboard" then some "/api/health"
  else if s = "user-frontend" then some "/"
  else if s = "load-balancer" ∨ startsWith s "url-shortener" then some "/live"
  else if s = "railway-watchdog" then some "/health"
  else none

def serviceInternalHostname (serviceName : String) : String :=
  spacesToDashes (toLowerCase (trim serviceName))

/-- `/^https?:\/\//i.test(s)`. -/
def hasHttpScheme (s : String) : Bool :=
  startsWith (toLowerCase s) "http://" || startsWith (toLowerCase s) "https://"

/-- An absolute address with a scheme. -/
def normalizePublicUrlForFetch (raw : String) : String :=
  let s := trim raw
  if s = "" then s
  else if hasHttpScheme s then s
  else if startsWith s "//" then "https:" ++ s
  else "https://" ++ s

/-- `s.replace(/\/+$/, "")`. -/
def cutSlashes (s : String) : String :=
  String.ofList (s.toList.reverse.dropWhile (· == '/')).reverse

def buildHeartbeatProbeUrl (env : Environment) (publicUrl : Option String) (serviceName : String) :
    Option String :=
  match heartbeatPathForService serviceName with
  | none => none
  | some path =>
    if shouldUsePrivateRailwayHeartbeat env then
      some ("http://" ++ serviceInternalHostname serviceName ++ ".railway.internal:" ++
        toString (heartbeatInternalPort env) ++ path)
    else
      let raw := trim (publicUrl.getD "")
      if raw = "" then none
      else some (cutSlashes (normalizePublicUrlForFetch raw) ++ path)

/-- What `pingHeartbeatUrl` resolves to. -/
structure PingResult where
  ok : Bool
  statusCode : Option Nat
  latencyMs : Nat
  error : Option String
  deriving DecidableEq, Repr

/-- The address this row is probed at, if heartbeats are on. -/
def RailwayVisibilityRow.probedAt (env : Environment) (row : RailwayVisibilityRow) :
    Option String :=
  if railwayHeartbeatEnabled env then buildHeartbeatProbeUrl env row.railwayPublicUrl row.service
  else none

end PeHackathon.Watchdog
