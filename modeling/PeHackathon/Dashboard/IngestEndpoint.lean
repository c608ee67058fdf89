import PeHackathon.Dashboard.Ingest
import PeHackathon.Python.JsonBytesRoundTrip

/-!
# `POST /api/ingest`

`ingest_logs` of `main.py` as a whole: the token of the request, its body, and then the entries
(`ingestLogs`). A request whose token is not admitted changes nothing.
-/

namespace PeHackathon.Dashboard

/-- What `ingest_logs` reads of the environment. -/
structure IngestSettings where
  /-- `LOG_INGEST_TOKEN`. -/
  logIngestToken : Option String
  /-- `ALLOW_INSECURE_LOG_INGEST`. -/
  allowInsecureLogIngest : Option String

structure IngestRequest where
  headers : List (String × String)
  body : List UInt8

inductive IngestReply
  /-- An `HTTPException`, before there are entries. -/
  | refused (status : Nat) (detail : String)
  | answered (answer : IngestAnswer)

def IngestReply.status : IngestReply → Nat
  | .refused status _ => status
  | .answered (.ingested _) => 200
  | .answered (.badRequest _) => 400
  | .answered (.serverError _) => 500

/-- `request.headers.get(name)`, for a name in lower case. -/
def IngestRequest.header (req : IngestRequest) (name : String) : Option String :=
  (req.headers.find? fun h => pyLower h.1 == name).map (·.2)

/-- `got`. -/
def IngestRequest.token (req : IngestRequest) : String :=
  let got := (req.header "x-log-ingest-token").getD ""
  if got ≠ "" then got
  else
    let auth := (req.header "authorization").getD ""
    if "bearer ".toList.isPrefixOf (pyLower auth).toList then
      pyStrip (String.ofList (auth.toList.drop 7)) else ""

/-- `_log_ingest_token`. -/
def IngestSettings.token (cfg : IngestSettings) : String := pyStrip (cfg.logIngestToken.getD "")

/-- `ALLOW_INSECURE_LOG_INGEST`, as `main.py` reads it. -/
def IngestSettings.allowsInsecure (cfg : IngestSettings) : Bool :=
  ["1", "true", "yes"].contains (pyLower (pyStrip (cfg.allowInsecureLogIngest.getD "")))

/-- The check of the token: what it raises. -/
def IngestSettings.refusal (cfg : IngestSettings) (req : IngestRequest) : Option IngestReply :=
  if cfg.token ≠ "" then
    if req.token ≠ cfg.token then some (.refused 401 "Invalid log ingest token") else none
  else if cfg.allowsInsecure then none
  else
    some (.refused 503
      ("Set LOG_INGEST_TOKEN on this service (and the same value as LOG_INGEST_TOKEN on " ++
      "url-shortener replicas), or ALLOW_INSECURE_LOG_INGEST=1 for local dev only"))

/-- `ingest_logs`. -/
def StatsCache.receive (cfg : IngestSettings) (other : List UInt8 → Option Json) (now : Int)
    (req : IngestRequest) (cache : StatsCache) : StatsCache × IngestReply :=
  match cfg.refusal req with
  | some reply => (cache, reply)
  | none =>
    match jsonLoadsBytes other req.body with
    | none => (cache, .refused 400 "JSON body required")
    | some body =>
      let (cache, answer) := cache.ingestLogs now body
      (cache, .answered answer)

namespace StatsCache

variable {cfg : IngestSettings} {req : IngestRequest} {fields : JsonObject}

theorem receive_of_refusal {reply : IngestReply} (h : cfg.refusal req = some reply)
    (other : List UInt8 → Option Json) (now : Int) (cache : StatsCache) :
    cache.receive cfg other now req = (cache, reply) := by
  unfold receive
  rw [h]

/-- An admitted request whose body is one entry. -/
theorem receive_entry {other : List UInt8 → Option Json} (h : cfg.refusal req = none)
    (hbody : jsonLoadsBytes other req.body = some (.obj fields))
    (hentries : JsonObject.get? fields "entries" = none) (now : Int) (cache : StatsCache) :
    (cache.receive cfg other now req).1 = (cache.add now (.obj fields)).1 := by
  have hone : bodyEntries (.obj fields) = .ok [.obj fields] := by
    unfold bodyEntries
    dsimp only
    rw [hentries]
  have hall : (cache.addEntries now [.obj fields] 0).1 = (cache.add now (.obj fields)).1 := by
    unfold addEntries
    cases cache.add now (.obj fields) with
    | mk after raised =>
      cases raised with
      | none => rfl
      | some e => rfl
  unfold receive
  rw [h, hbody]
  dsimp only
  rw [ingestLogs, hone, hall]

/-! ## What `add` does to the lists -/

theorem add_lists (now : Int) (entry : Json) (cache : StatsCache) :
    (cache.add now entry).1.maxEntries = cache.maxEntries ∧
      (cache.add now entry).1.logs = dequeAppend cache.maxEntries cache.logs entry ∧
      (cache.add now entry).1.pendingFlush = cache.pendingFlush ++ [entry] ∧
      (cache.add now entry).1.totalIngested = cache.totalIngested + 1 := by
  unfold add updateStats
  cases entry with
  | obj fields => exact ⟨rfl, rfl, rfl, rfl⟩
  | _ => exact ⟨rfl, rfl, rfl, rfl⟩

end StatsCache

end PeHackathon.Dashboard
