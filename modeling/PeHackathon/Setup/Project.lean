import Mathlib.Data.List.Lex
import Mathlib.Data.List.Sort
import PeHackathon.Js.Text
import PeHackathon.Lib.Throws

/-!
# The services of `setup-railway.js`

What the script asks Railway (`Call`), the services as it sees them (`ServiceMap`), what it wants of
each of them (`SERVICE_SPECS`), and one turn of its loop (`provision`): create a service that is
missing, link it to the repository, put its deployment triggers on the branch, and set the paths of
its instance.
-/

namespace PeHackathon.Setup

open Js Lib

/-! ## What Railway knows -/

/-- A deployment trigger. A `null` repository is `""`. -/
structure Trigger where
  id : String
  branch : String
  repository : String
  environmentId : Option String
  deriving DecidableEq, Repr

/-- A service, as `fetchServicesMap` keeps it. -/
structure ServiceEntry where
  id : String
  name : String
  triggers : List Trigger
  deriving DecidableEq, Repr

/-- A service in an environment. A `preDeployCommand` that is no array is `none`. -/
structure ServiceInstance where
  rootDirectory : Option String
  preDeployCommand : Option (List String)
  railwayConfigFile : Option String
  watchPatterns : Option (List String)
  deriving DecidableEq, Repr

/-- `ServiceInstanceUpdateInput`: what is not given stays. -/
structure InstanceInput where
  rootDirectory : Option String
  preDeployCommand : Option (List String)
  railwayConfigFile : Option String
  watchPatterns : Option (List String)
  deriving DecidableEq, Repr

/-- A value of a variable: text, and references to variables of other services, which Railway
resolves. -/
inductive Piece
  | text (s : String)
  | ref (serviceName variableName : String)
  deriving DecidableEq, Repr

abbrev Template := List Piece

/-- The string that is sent. -/
def Template.render (t : Template) : String :=
  String.join (t.map fun
    | .text s => s
    | .ref serviceName variableName =>
      "$\x7b\x7b " ++ serviceName ++ "." ++ variableName ++ " \x7d\x7d")

/-- The names and values of a service's variables, in the order of the object. -/
abbrev Variables := List (String × Template)

/-- The queries and mutations of the script. -/
inductive Call
  | project (id : String)
  | serviceInstance (environmentId serviceId : String)
  | serviceCreate (projectId environmentId name branch repo : String)
  | serviceConnect (id repo branch : String)
  | deploymentTriggerCreate (projectId environmentId serviceId branch repository
    rootDirectory : String)
  | deploymentTriggerUpdate (id branch repository rootDirectory : String)
  | serviceInstanceUpdate (environmentId serviceId : String) (input : InstanceInput)
  | serviceInstanceDeploy (environmentId serviceId : String)
  | variableCollectionUpsert (projectId environmentId serviceId : String) (skipDeploys : Bool)
    (values : Variables)
  deriving DecidableEq, Repr

/-- What is read of an answer. A project without services is `[]`, and an edge may have no node. -/
abbrev Reply : Call → Type
  | .project _ => List (Option ServiceEntry)
  | .serviceInstance _ _ => Option ServiceInstance
  | _ => Unit

abbrev Script := Throwing String Reply

/-- A request that fails, and an answer with errors, throw. -/
abbrev gql (q : Call) : Script (Reply q) := Throwing.perform q

/-- A `Map` from names to services, in the order of insertion. -/
abbrev ServiceMap := List ServiceEntry

namespace ServiceMap

def set (byName : ServiceMap) (svc : ServiceEntry) : ServiceMap :=
  if byName.any (·.name = svc.name) then byName.map fun s => if s.name = svc.name then svc else s
    else byName ++ [svc]

def get (byName : ServiceMap) (name : String) : Option ServiceEntry := byName.find? (·.name = name)

def has (byName : ServiceMap) (name : String) : Bool := byName.any (·.name = name)

def names (byName : ServiceMap) : List String := byName.map (·.name)

/-- The map of the nodes that have a name. -/
def ofNodes (nodes : List (Option ServiceEntry)) : ServiceMap :=
  (nodes.reduceOption.filter (·.name ≠ "")).foldl set []

end ServiceMap

def fetchServicesMap (projectId : String) : Script ServiceMap := do
  pure (.ofNodes (← gql (.project projectId)))

/-! ## What is wanted -/

structure ServiceSpec where
  name : String
  rootDirectory : String
  railwayConfigFile : String
  watchPatterns : List String
  deriving DecidableEq, Repr

def SERVICE_SPECS : List ServiceSpec :=
  [⟨"url-shortener-a", "url-shortener", "/url-shortener/railway.toml", ["/url-shortener/**"]⟩,
    ⟨"url-shortener-b", "url-shortener", "/url-shortener/railway.toml", ["/url-shortener/**"]⟩,
    ⟨"load-balancer", "load-balancer", "/load-balancer/railway.toml", ["/load-balancer/**"]⟩,
    ⟨"user-frontend", "user-frontend", "/user-frontend/railway.toml", ["/user-frontend/**"]⟩,
    ⟨"dashboard", "dashboard", "/dashboard/railway.toml", ["/dashboard/**"]⟩,
    ⟨"dashboard-backend", "dashboard/backend", "/dashboard/backend/railway.toml",
      ["/dashboard/backend/**"]⟩,
    ⟨"railway-watchdog", ".", "/watchdog-service/railway.toml", ["/**", "/*", "/.*"]⟩]

def normRailwayConfigPath (p : Option String) : String :=
  let s := trim (p.getD "")
  if s = "" then "" else if startsWith s "/" then s else "/" ++ s

/-- The order of `sort()`, by UTF-16 units. -/
def sortStrings (l : List String) : List String := l.insertionSort fun a b => utf16 a ≤ utf16 b

def watchPatternsEqual (current : Option (List String)) (wanted : List String) : Bool :=
  sortStrings ((current.getD []).map trim) = sortStrings (wanted.map trim)

/-- `(?:\.git)?$`, after a name that the regular expression keeps as short as it can. -/
def dropGit (name : List Char) : List Char :=
  if 4 < name.length ∧ (name.drop (name.length - 4)).map Char.toLower = ".git".toList then
    name.take (name.length - 4)
  else name

/-- `([^/]+\/[^/]+?)(?:\.git)?$` at the beginning of `rest`. -/
def repoPath (rest : List Char) : Option (List Char) :=
  let owner := rest.takeWhile (· ≠ '/')
  let name := rest.drop (owner.length + 1)
  if owner = [] ∨ name = [] ∨ '/' ∈ name then none else some (owner ++ '/' :: dropGit name)

/-- `github\.com[:/]([^/]+\/[^/]+?)(?:\.git)?$` with the flag `i`, at the beginning of `text`. -/
def githubPath (text : List Char) : Option (List Char) :=
  if (text.take 10).map Char.toLower = "github.com".toList then
    match text.drop 10 with
    | ':' :: rest => repoPath rest
    | '/' :: rest => repoPath rest
    | _ => none
  else none

def normalizeRepo (s : String) : String :=
  let t := trim s
  match t.toList.tails.findSome? githubPath with
  | some path => String.ofList path
  | none => t

/-! ## One service -/

/-- What `main` takes from the environment and from `.railway/config.json`. -/
structure Settings where
  projectId : String
  environmentId : String
  repo : String
  branch : String
  dry : Bool
  forceClearPre : Bool
  skipRedeploy : Bool
  syncVariables : Bool
  deriving DecidableEq, Repr

namespace Settings

variable (st : Settings)

/-- The trigger deploys the repository here: it names this environment or none. -/
def isForRepo (t : Trigger) : Bool :=
  normalizeRepo t.repository = st.repo &&
    ((t.environmentId.getD "") = "" || t.environmentId = some st.environmentId)

/-- The services, and the one of the spec; it stays missing in a dry run. -/
def ensureService (byName : ServiceMap) (spec : ServiceSpec) :
    Script (ServiceMap × Option ServiceEntry) :=
  match byName.get spec.name with
  | some svc => pure (byName, some svc)
  | none =>
    if st.dry then pure (byName, none)
    else do
      gql (.serviceCreate st.projectId st.environmentId spec.name st.branch st.repo)
      let byName ← fetchServicesMap st.projectId
      match byName.get spec.name with
      | some svc => pure (byName, some svc)
      | none => throw ("Service " ++ spec.name ++ " not found after create")

def updateTrigger (spec : ServiceSpec) (tr : Trigger) : Script Unit :=
  gql (.deploymentTriggerUpdate tr.id st.branch st.repo spec.rootDirectory)

/-- A service without any trigger is connected; one without a trigger for the repository is left
alone. -/
def linkRepo (spec : ServiceSpec) (svc : ServiceEntry) : Script Unit :=
  let triggers := svc.triggers.filter st.isForRepo
  if triggers = [] then
    if svc.triggers = [] ∧ st.dry = false then do
      tryCatch (gql (.serviceConnect svc.id st.repo st.branch)) fun _ =>
        gql (.deploymentTriggerCreate st.projectId st.environmentId svc.id st.branch st.repo
          spec.rootDirectory)
      let _ ← fetchServicesMap st.projectId
      pure ()
    else pure ()
  else
    triggers.forM fun tr =>
      if tr.branch = st.branch ∧ normalizeRepo tr.repository = st.repo then pure ()
      else if st.dry then pure ()
      else st.updateTrigger spec tr

/-- The second pass over the triggers, when the service has been fetched again. -/
def setBranch (spec : ServiceSpec) (svc : ServiceEntry) : Script Unit :=
  (svc.triggers.filter st.isForRepo).forM fun tr =>
    if tr.branch ≠ st.branch then st.updateTrigger spec tr else pure ()

/-- `mustClearPre`. -/
def mustClearPre (si : Option ServiceInstance) : Bool :=
  st.forceClearPre || 0 < ((si.bind (·.preDeployCommand)).getD []).length

def rootOk (spec : ServiceSpec) (si : Option ServiceInstance) : Bool :=
  (si.bind (·.rootDirectory)).getD "" = spec.rootDirectory

def configOk (spec : ServiceSpec) (si : Option ServiceInstance) : Bool :=
  normRailwayConfigPath (si.bind (·.railwayConfigFile)) = normRailwayConfigPath
    (some spec.railwayConfigFile)

def watchOk (spec : ServiceSpec) (si : Option ServiceInstance) : Bool :=
  watchPatternsEqual (si.bind (·.watchPatterns)) spec.watchPatterns

def needsInstanceUpdate (spec : ServiceSpec) (si : Option ServiceInstance) : Bool :=
  !rootOk spec si || st.mustClearPre si || !configOk spec si || !watchOk spec si

def instanceInput (spec : ServiceSpec) (si : Option ServiceInstance) : InstanceInput where
  rootDirectory := if rootOk spec si then none else some spec.rootDirectory
  preDeployCommand := if st.mustClearPre si then some [] else none
  railwayConfigFile := if configOk spec si then none else some spec.railwayConfigFile
  watchPatterns := if watchOk spec si then none else some spec.watchPatterns

def configureInstance (spec : ServiceSpec) (svc : ServiceEntry) : Script Unit := do
  let si ← gql (.serviceInstance st.environmentId svc.id)
  if st.needsInstanceUpdate spec si ∧ st.dry = false then
    gql (.serviceInstanceUpdate st.environmentId svc.id (st.instanceInput spec si))
  else pure ()

/-- One turn of the loop over `SERVICE_SPECS`. -/
def provision (byName : ServiceMap) (spec : ServiceSpec) : Script ServiceMap := do
  match ← st.ensureService byName spec with
  | (byName, none) => pure byName
  | (byName, some svc) =>
    st.linkRepo spec svc
    if st.dry then
      st.configureInstance spec svc
      pure byName
    else
      let byName ← fetchServicesMap st.projectId
      match byName.get spec.name with
      | none => throw "Cannot read properties of undefined (reading 'id')"
      | some svc =>
        st.setBranch spec svc
        st.configureInstance spec svc
        pure byName

/-- The loop over `SERVICE_SPECS`. -/
def provisionAll (byName : ServiceMap) : Script ServiceMap :=
  SERVICE_SPECS.foldlM st.provision byName

/-- `serviceInstanceDeploy` of every service; a failure is only reported. -/
def redeploy : Script Unit :=
  if st.dry = false ∧ st.skipRedeploy = false then do
    let byName ← fetchServicesMap st.projectId
    SERVICE_SPECS.forM fun spec =>
      match byName.get spec.name with
      | none => pure ()
      | some svc => tryCatch (gql (.serviceInstanceDeploy st.environmentId svc.id)) fun _ => pure ()
  else pure ()

end Settings

end PeHackathon.Setup
