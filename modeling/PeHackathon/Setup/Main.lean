import PeHackathon.Setup.Variables

/-!
# `main` of `setup-railway.js`

The environment file and the project's configuration are read first; then the services are
provisioned, redeployed, and given their variables.
-/

namespace PeHackathon.Setup

open Js Lib

/-- `if (process.env[key] === undefined) process.env[key] = val`. A name ends at the first NUL too,
and the empty name cannot be set. -/
def setDefault (s : SetupState) (entry : List Char × List Char) : SetupState :=
  let name := entry.1.takeWhile (· ≠ '\x00')
  if name = [] then s
  else if (s.env.get (String.ofList name)).isSome then s
  else s.setEnv (String.ofList name) (unquote entry.2)

/-- Load `.env.railway.setup` if present (does not override existing process.env). -/
def loadOptionalEnvFile (s : SetupState) : SetupState :=
  match s.setupFile with
  | none => s
  | some bytes => ((splitLines (utf8Decode bytes)).filterMap lineAssignment).foldl setDefault s

inductive AuthHeaders
  | bearer (account : List Char)
  | projectAccessToken (project : List Char)
  deriving DecidableEq, Repr

def getAuthHeaders (s : SetupState) : Except String AuthHeaders :=
  let account :=
    if s.getEnv "RAILWAY_API_TOKEN" = [] then s.getEnv "RAILWAY_TOKEN"
      else s.getEnv "RAILWAY_API_TOKEN"
  let project := s.getEnv "RAILWAY_PROJECT_TOKEN"
  if account ≠ [] then .ok (.bearer account)
  else if project ≠ [] then .ok (.projectAccessToken project)
  else
    .error ("Set RAILWAY_API_TOKEN (or RAILWAY_TOKEN) to an account token from " ++
      "https://railway.com/account/tokens")

/-- `.railway/config.json`: its path, and its two ids, or what reading and parsing it throws. -/
structure ConfigFile where
  path : String
  ids : Except String (Option String × Option String)

def loadRailwayConfig (file : ConfigFile) : Except String (String × String) :=
  match file.ids with
  | .error msg => .error msg
  | .ok (projectId, environmentId) =>
    if projectId.getD "" = "" ∨ environmentId.getD "" = "" then
      .error (file.path ++ " must include projectId and environmentId")
    else .ok (projectId.getD "", environmentId.getD "")

def DEFAULT_REPO : String := "nathan-nw/PE-Hackathon-2026"

def DEFAULT_BRANCH : String := "staging"

/-- `process.env[name] || otherwise`. -/
def SetupState.envOr (s : SetupState) (name otherwise : String) : String :=
  if s.getEnv name = [] then otherwise else String.ofList (s.getEnv name)

def Settings.read (s : SetupState) (projectId environmentId : String) : Settings where
  projectId := projectId
  environmentId := environmentId
  repo := normalizeRepo (s.envOr "RAILWAY_REPO" DEFAULT_REPO)
  branch := trim (s.envOr "RAILWAY_BRANCH" DEFAULT_BRANCH)
  dry := s.flag "DRY_RUN"
  forceClearPre := s.flag "FORCE_CLEAR_PREDEPLOY"
  skipRedeploy := s.flag "SKIP_REDEPLOY"
  syncVariables := s.flag "SYNC_VARIABLES"

/-- The services are fetched, provisioned and deployed again. -/
def Settings.deploy (st : Settings) : Script Unit := do
  let _ ← st.provisionAll (← fetchServicesMap st.projectId)
  st.redeploy

/-- What `main` does to the project. -/
def Settings.apply (st : Settings) (random : Fin 32 → UInt8) (s : SetupState) : ToEnd :=
  st.deploy.andThen (.threw s) fun _ =>
    if st.syncVariables then
      (fetchServicesMap st.projectId).andThen (.threw s) fun byName =>
        syncInternalDatabaseVariables st byName random s
    else pure (.returned s)

/-- The settings, or why there are none. -/
def startup (config : ConfigFile) (s : SetupState) : Except String Settings := do
  let _ ← getAuthHeaders s
  let ids ← loadRailwayConfig config
  pure (.read s ids.1 ids.2)

/-- `main`: an exception ends the script with exit code 1. -/
def main (config : ConfigFile) (random : Fin 32 → UInt8) (s : SetupState) : ToEnd :=
  match startup config (loadOptionalEnvFile s) with
  | .error msg => pure (.threw (loadOptionalEnvFile s) msg)
  | .ok st => st.apply random (loadOptionalEnvFile s)

end PeHackathon.Setup
