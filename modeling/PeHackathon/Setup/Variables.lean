import PeHackathon.Setup.IngestToken
import PeHackathon.Setup.Project

/-!
# The variable sync of `setup-railway.js`

`syncInternalDatabaseVariables` finds the plugin services and upserts the variables of the app
services, many of which refer to variables of other services.
-/

namespace PeHackathon.Setup

open Js Lib

/-! ## The environment -/

namespace SetupState

/-- `(process.env[name] || "").trim()`. -/
def trimmed (s : SetupState) (name : String) : String := String.ofList (trimChars (s.getEnv name))

/-- `process.env[name] === "1" || process.env[name] === "true"`. -/
def flag (s : SetupState) (name : String) : Bool :=
  s.env.get name = some "1".toList || s.env.get name = some "true".toList

/-- `(process.env[name] ?? "1").trim()` is empty or a word for on. -/
def onByDefault (s : SetupState) (name : String) : Bool :=
  let raw := trim (String.ofList ((s.env.get name).getD "1".toList))
  raw = "" || raw = "1" || toLowerCase raw = "true" || toLowerCase raw = "yes" ||
    toLowerCase raw = "on"

end SetupState

/-! ## Plugin services -/

def varRef (serviceName variableName : String) : Template := [.ref serviceName variableName]

def lit (s : String) : Template := [.text s]

/-- `/part/i.test(name)`, for a part in lower case. -/
def namesPart (name part : String) : Bool := includes (name.map Char.toLower) part

/-- What the variable names if there is such a service, then the candidates, then the first name
that matches. -/
def findServiceName (s : SetupState) (variableName : String) (candidates : List String)
    (matching : String → Bool) (byName : ServiceMap) : Option String :=
  let explicit := s.trimmed variableName
  if explicit ≠ "" ∧ byName.has explicit = true then some explicit
  else (candidates.find? (byName.has ·)).or (byName.names.find? matching)

def findPostgresServiceName (s : SetupState) (byName : ServiceMap) : Option String :=
  findServiceName s "RAILWAY_POSTGRES_SERVICE_NAME" ["Postgres", "postgres", "PostgreSQL",
    "postgresql"] (namesPart · "postgres") byName

def findRedisServiceName (s : SetupState) (byName : ServiceMap) : Option String :=
  findServiceName s "RAILWAY_REDIS_SERVICE_NAME" ["Redis", "redis"] (namesPart · "redis") byName

def findKafkaServiceName (s : SetupState) (byName : ServiceMap) : Option String :=
  findServiceName s "RAILWAY_KAFKA_SERVICE_NAME" ["Kafka", "kafka", "Redpanda", "redpanda"]
    (fun name => namesPart name "kafka" || namesPart name "redpanda") byName

def findDashboardPostgresServiceName (s : SetupState) (byName : ServiceMap)
    (primaryPostgres : String) :
    Option String :=
  let explicit := s.trimmed "RAILWAY_DASHBOARD_POSTGRES_SERVICE_NAME"
  if explicit ≠ "" ∧ byName.has explicit = true then some explicit
  else
    match byName.names.find? fun n => n ≠ primaryPostgres && namesPart n "dashboard" &&
      namesPart n "postgres" with
    | some n => some n
    | none =>
      match byName.names.filter fun n => namesPart n "postgres" && n ≠ primaryPostgres with
      | [n] => some n
      | _ => none

def kafkaBootstrapRef (s : SetupState) (kafkaServiceName : String) : Template :=
  let raw := String.ofList (s.getEnv "RAILWAY_KAFKA_BOOTSTRAP_VAR")
  let varName := trim (if raw = "" then "KAFKA_URL" else raw)
  varRef kafkaServiceName (if varName = "" then "KAFKA_URL" else varName)

/-! ## The variables -/

/-- What the variables are made of: the services, the environment, and the plugins that were
found. -/
structure Wiring where
  settings : Settings
  state : SetupState
  byName : ServiceMap
  pg : String
  redis : Option String
  kafka : Option String

namespace Wiring

variable (v : Wiring)

def dbUrlKey : String :=
  if v.state.flag "SYNC_VARIABLES_USE_PUBLIC_DATABASE_URL" then "DATABASE_PUBLIC_URL"
    else "DATABASE_URL"

def pgDashboard : String := (findDashboardPostgresServiceName v.state v.byName v.pg).getD v.pg

def skipDeployOnVarSync : Bool :=
  v.state.env.get "SKIP_DEPLOY_ON_VARIABLE_SYNC" ≠ some "0".toList &&
    v.state.env.get "SKIP_DEPLOY_ON_VARIABLE_SYNC" ≠ some "false".toList

def logIngestToken : String := v.state.trimmed "LOG_INGEST_TOKEN"

/-- `https://` and the public domain of a service. -/
def publicUrl (serviceName : String) : Template :=
  lit "https://" ++ varRef serviceName "RAILWAY_PUBLIC_DOMAIN"

/-- `http://`, the private domain and the port of a service. -/
def privateUrl (serviceName : String) : Template :=
  lit "http://" ++ varRef serviceName "RAILWAY_PRIVATE_DOMAIN" ++ lit ":" ++
    varRef serviceName "PORT"

def logIngestUrl : Option Template :=
  if v.byName.has "dashboard-backend" = true ∧ v.kafka = none ∧ v.logIngestToken ≠ "" then
    if v.state.flag "LOG_INGEST_USE_PRIVATE_URL" then
      some (privateUrl "dashboard-backend" ++ lit "/api/ingest")
    else some (publicUrl "dashboard-backend" ++ lit "/api/ingest")
  else none

def loadTestBypass : String :=
  let token := v.state.trimmed "LOAD_TEST_BYPASS_TOKEN"
  if token = "" then "pe-hackathon-k6-edge-bypass" else token

def kafkaVars : Variables :=
  match v.kafka with
  | some kafka => [("KAFKA_BOOTSTRAP_SERVERS", kafkaBootstrapRef v.state kafka)]
  | none => []

def urlShortenerBase : Variables :=
  [("PORT", lit "8080"), ("DATABASE_URL", varRef v.pg v.dbUrlKey), ("FLASK_DEBUG", lit "false"),
    ("KAFKA_LOG_TOPIC", lit "app-logs"),
    ("RATE_LIMIT_STORAGE",
      match v.redis with
      | some redis => varRef redis "REDIS_URL"
      | none => lit "memory://")] ++
  v.kafkaVars ++
  (match v.logIngestUrl with
    | some url => [("LOG_INGEST_URL", url), ("LOG_INGEST_TOKEN", lit v.logIngestToken)]
    | none => []) ++
  [("LOAD_TEST_BYPASS_TOKEN", lit v.loadTestBypass)]

def urlShortenerVars (instanceId : String) : Variables :=
  v.urlShortenerBase ++ [("INSTANCE_ID", lit instanceId)]

def loadBalancerVars : Variables :=
  [("URL_SHORTENER_A_HOST", varRef "url-shortener-a" "RAILWAY_PRIVATE_DOMAIN"),
    ("URL_SHORTENER_B_HOST", varRef "url-shortener-b" "RAILWAY_PRIVATE_DOMAIN"),
    ("URL_SHORTENER_A_PORT", varRef "url-shortener-a" "PORT"),
    ("URL_SHORTENER_B_PORT", varRef "url-shortener-b" "PORT"),
    ("LOAD_TEST_BYPASS_TOKEN", lit v.loadTestBypass)]

/-- The target of load tests, under a variable's name. -/
def loadTestTarget (variableName : String) : Variables :=
  if v.byName.has "load-balancer" = true then [(variableName, publicUrl "load-balancer")]
  else if v.byName.has "url-shortener-a" = true then [(variableName, publicUrl "url-shortener-a")]
  else []

def dashboardBackendVars : Variables :=
  [("PORT", lit "8080"), ("DASHBOARD_DATABASE_URL", varRef v.pgDashboard v.dbUrlKey),
    ("DASHBOARD_DB_NAME", lit "dashboard_db"), ("KAFKA_LOG_TOPIC", lit "app-logs"),
    ("CACHE_MAX_ENTRIES", lit "1000"), ("DB_FLUSH_INTERVAL", lit "30"),
    ("LOAD_TEST_BYPASS_TOKEN", lit v.loadTestBypass)] ++
  v.loadTestTarget "LOAD_TEST_TARGET_URL" ++ v.kafkaVars ++
  (if v.logIngestToken = "" then [] else [("LOG_INGEST_TOKEN", lit v.logIngestToken)])

/-- `watchdogAutoRecover ? "1" : "0"`. -/
def autoRecover : Template :=
  lit (if v.state.onByDefault "RAILWAY_WATCHDOG_AUTO_RECOVER" then "1" else "0")

def watchdogPoll : Variables :=
  let poll := v.state.trimmed "RAILWAY_WATCHDOG_POLL_SEC"
  if poll = "" then [] else [("RAILWAY_WATCHDOG_POLL_SEC", lit poll)]

/-- The token for the GraphQL API: the project token, or else the account token. -/
def tokenVars : Variables :=
  let dashboardPt := v.state.trimmed "DASHBOARD_RAILWAY_PROJECT_TOKEN"
  let dashboardAt := v.state.trimmed "DASHBOARD_RAILWAY_API_TOKEN"
  if dashboardPt ≠ "" then [("RAILWAY_PROJECT_TOKEN", lit dashboardPt)]
  else if dashboardAt ≠ "" then [("RAILWAY_API_TOKEN", lit dashboardAt)]
  else []

def railwayWatchdogVars : Variables :=
  [("PORT", lit "8080"), ("RAILWAY_PROJECT_ID", lit v.settings.projectId),
    ("RAILWAY_ENVIRONMENT_ID", lit v.settings.environmentId),
    ("RAILWAY_WATCHDOG_AUTO_RECOVER", v.autoRecover),
    ("RAILWAY_HEARTBEAT_INTERNAL_PORT", lit "8080")] ++
  v.watchdogPoll ++ v.tokenVars

def dashboardVars : Variables :=
  [("DASHBOARD_BACKEND_URL", privateUrl "dashboard-backend")] ++
  (if v.byName.has "railway-watchdog" = true then
    [("WATCHDOG_SERVICE_URL", privateUrl "railway-watchdog")] else []) ++
  v.loadTestTarget "NEXT_PUBLIC_LOAD_TEST_TARGET_URL" ++
  [("VISIBILITY_COMPOSE_PROJECT", lit "pe-hackathon-2026"),
    ("RAILWAY_PROJECT_ID", lit v.settings.projectId),
    ("RAILWAY_ENVIRONMENT_ID", lit v.settings.environmentId),
    ("VISIBILITY_ALERTMANAGER_DISABLED", lit "1"),
    ("CHAOS_KILL_ENABLED", lit (if v.state.onByDefault "CHAOS_KILL_ENABLED" then "1" else "0")),
    ("RAILWAY_WATCHDOG_AUTO_RECOVER", v.autoRecover)] ++
  v.watchdogPoll ++ v.tokenVars ++
  (let chaosAllowed := v.state.trimmed "CHAOS_ALLOWED_SERVICES"
    if chaosAllowed = "" then [] else [("CHAOS_ALLOWED_SERVICES", lit chaosAllowed)])

/-- `replace(/\/+$/, "")`. -/
def dropSlashes (s : String) : String := String.ofList (s.toList.rdropWhile (· = '/'))

def userFrontendVars : Variables :=
  let explicitUf := dropSlashes (v.state.trimmed "USER_FRONTEND_BACKEND_URL")
  [("BACKEND_URL",
    if explicitUf ≠ "" then lit explicitUf
    else if v.byName.has "load-balancer" = true then publicUrl "load-balancer"
    else publicUrl "url-shortener-a")]

/-! ## The sync -/

/-- A service that is not there is skipped, and a dry run only says what it would do. -/
def upsert (serviceName : String) (values : Variables) : Script Unit :=
  match v.byName.get serviceName with
  | none => pure ()
  | some svc =>
    if v.settings.dry then pure ()
    else
      gql (.variableCollectionUpsert v.settings.projectId v.settings.environmentId svc.id
        v.skipDeployOnVarSync values)

/-- `if (present) await upsert(...)`. -/
def upsertIf (present : Bool) (serviceName : String) (values : Variables) : Script Unit :=
  if present then v.upsert serviceName values else pure ()

def upsertAll : Script Unit := do
  v.upsert "url-shortener-a" (v.urlShortenerVars "1")
  v.upsert "url-shortener-b" (v.urlShortenerVars "2")
  v.upsertIf (v.byName.has "load-balancer" && v.byName.has "url-shortener-a" &&
    v.byName.has "url-shortener-b")
    "load-balancer" v.loadBalancerVars
  v.upsert "dashboard-backend" v.dashboardBackendVars
  v.upsertIf (v.byName.has "railway-watchdog") "railway-watchdog" v.railwayWatchdogVars
  v.upsertIf (v.byName.has "dashboard") "dashboard" v.dashboardVars
  v.upsertIf (v.byName.has "user-frontend") "user-frontend" v.userFrontendVars

end Wiring

/-- How the script ends: with what it throws, if anything, and in which state. -/
structure Ended where
  result : Except String Unit
  state : SetupState

/-- The last part of the script. An exception ends it, but undoes nothing. -/
abbrev ToEnd := Prog (fun q => Except String (Reply q)) Ended

def Ended.threw (s : SetupState) (msg : String) : Ended := ⟨.error msg, s⟩

def Ended.returned (s : SetupState) : Ended := ⟨.ok (), s⟩

/-- The token of the log ingest may be new, also when an upsert fails afterwards. `random` is what
`crypto.randomBytes(32)` answers. -/
def syncInternalDatabaseVariables (st : Settings) (byName : ServiceMap) (random : Fin 32 → UInt8)
    (s : SetupState) : ToEnd :=
  match findPostgresServiceName s byName with
  | none => pure (.returned s)
  | some pg =>
    let kafka := findKafkaServiceName s byName
    let s' :=
      if st.dry then s else ensureLogIngestTokenForHttpIngest byName.names kafka.isSome random s
    (Wiring.upsertAll ⟨st, s', byName, pg, findRedisServiceName s byName, kafka⟩).andThen
      (.threw s') fun _ => pure (.returned s')

end PeHackathon.Setup
