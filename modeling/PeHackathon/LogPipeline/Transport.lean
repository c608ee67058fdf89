import PeHackathon.Dashboard.IngestEndpoint
import PeHackathon.Python.JsonFields
import PeHackathon.UrlShortener.HttpLogIngest

/-!
# From the loggers to the dashboard

The processes of the URL shortener, each with its `HttpLogIngestHandler`, and the dashboard backend
that they post to. A POST arrives or is lost, and so is its answer (`Transport`); the shippers and
the dashboard take their steps in any order (`PipelineStep`). The body of a POST is read back as the
payload that was shipped (`json_payload`).
-/

namespace PeHackathon.LogPipeline

open Dashboard UrlShortener PyText Lib

/-! ## The body of a POST -/

/-- The keys of a payload, in their order. -/
def payloadKeys : List String :=
  ["timestamp", "level", "logger", "message", "instance_id", "request_id", "trace_id", "method",
    "path", "status_code", "duration_ms", "exc_info"]

/-- The entry that is read back for a payload. -/
def payloadFields (payload : LogPayload) : JsonObject := payload.map fun kv => (kv.1, kv.2.json)

/-- A payload with the keys of one. -/
def Keyed (payload : LogPayload) : Prop := (payload.map Prod.fst).Sublist payloadKeys

theorem payloadKeys_nodup : payloadKeys.Nodup := by decide

theorem recordPayload_keys {now : Int} {record : EmittedRecord} {instanceId : PyText}
    {payload : LogPayload} (h : recordPayload now record instanceId = some payload) :
    (payload.map Prod.fst).Sublist (payloadKeys.dropLast) := by
  obtain ⟨message, -, h⟩ := Option.bind_eq_some_iff.1 h
  cases h
  rw [List.map_append]
  refine (List.Sublist.refl ["timestamp", "level", "logger", "message", "instance_id"]).append ?_
  have hkeys : ∀ keys : List String,
      ((keys.filterMap fun key => (record.extra.lookup key).map fun v => (key, v)).map
        Prod.fst).Sublist keys := by
    intro keys
    induction keys with
    | nil => exact .slnil
    | cons key keys ih =>
      rw [List.filterMap_cons]
      cases record.extra.lookup key with
      | none => exact ih.cons key
      | some v => exact ih.cons_cons key
  exact hkeys _

theorem emitPayload_keyed {now : Int} {record : EmittedRecord} {instanceId : PyText}
    {payload : LogPayload} (h : emitPayload now record instanceId = some payload) :
    Keyed payload := by
  obtain ⟨payload', hpayload, h⟩ := Option.bind_eq_some_iff.1 h
  have hkeys := recordPayload_keys hpayload
  split at h
  · cases h
    exact hkeys.trans (List.dropLast_sublist _)
  · obtain ⟨text, -, h⟩ := Option.bind_eq_some_iff.1 h
    cases h
    unfold Keyed
    rw [List.map_append]
    exact hkeys.append (List.Sublist.refl ["exc_info"])

/-- Fields with different keys are all kept. -/
theorem pyDict_of_nodup {fields : JsonObject} (h : (fields.map Prod.fst).Nodup) :
    pyDict fields = fields := by
  have hset : ∀ d : JsonObject, (∀ key ∈ fields.map Prod.fst, key ∉ d.map Prod.fst) →
      fields.foldl (fun d kv => JsonObject.set d kv.1 kv.2) d = d ++ fields := by
    induction fields with
    | nil => exact fun d _ => (List.append_nil d).symm
    | cons kv fields ih =>
      intro d hd
      rw [List.map_cons, List.nodup_cons] at h
      rw [List.map_cons, List.forall_mem_cons] at hd
      have hnew : JsonObject.set d kv.1 kv.2 = d ++ [kv] := by
        unfold JsonObject.set
        rw [if_neg]
        intro hhas
        obtain ⟨x, hx⟩ := Option.isSome_iff_exists.1 hhas
        exact hd.1 (List.mem_map.2 ⟨_, mem_of_get hx, rfl⟩)
      rw [List.foldl_cons, hnew, ih h.2 (d ++ [kv]), List.append_assoc, List.singleton_append]
      intro key hkey
      rw [List.map_append, List.mem_append, not_or]
      refine ⟨hd.2 key hkey, fun hsame => h.1 ?_⟩
      rw [← List.mem_singleton.1 hsame]
      exact hkey
  exact hset [] fun _ _ => List.not_mem_nil

theorem jsonPairs_payload (payload : LogPayload) :
    PyValue.jsonPairs (payload.map fun kv => (.str (ofString kv.1), kv.2)) =
      payloadFields payload := by
  induction payload with
  | nil => rfl
  | cons kv payload ih =>
    have hkey : (PyValue.str (ofString kv.1)).keyString = kv.1 := by
      rw [PyValue.keyString, PyValue.keyPlain, Option.getD_some, ofString, chars_ofChars,
        String.ofList_toList]
    rw [List.map_cons, PyValue.jsonPairs, ih, hkey]
    rfl

theorem keys_payloadFields (payload : LogPayload) :
    (payloadFields payload).map Prod.fst = payload.map Prod.fst := by
  rw [payloadFields, List.map_map]
  rfl

/-- **A payload is read back.** -/
theorem json_payload {payload : LogPayload} {depth : Nat} {data : List UInt8}
    (other : List UInt8 → Option Json) (hkeys : Keyed payload)
    (h : jsonBytes depth (payloadValue payload) = some data) :
    jsonLoadsBytes other data = some (.obj (payloadFields payload)) := by
  rw [jsonLoadsBytes_jsonBytes other h, jsonPairs_payload, pyDict_of_nodup]
  rw [keys_payloadFields]
  exact payloadKeys_nodup.sublist hkeys

theorem entries_payloadFields {payload : LogPayload} (hkeys : Keyed payload) :
    JsonObject.get? (payloadFields payload) "entries" = none := by
  cases hget : JsonObject.get? (payloadFields payload) "entries" with
  | none => rfl
  | some x =>
    have hmem : "entries" ∈ (payloadFields payload).map Prod.fst :=
      List.mem_map.2 ⟨_, mem_of_get hget, rfl⟩
    rw [keys_payloadFields] at hmem
    exact absurd (hkeys.subset hmem) (by decide)

/-! ## The system -/

/-- What becomes of a POST. -/
inductive Transport
  /-- It arrives, and so does its answer. -/
  | answered (reason : String)
  /-- It arrives; what `urlopen` does is not the answer of the dashboard. -/
  | unanswered (outcome : UrlopenOutcome)
  /-- It does not arrive. -/
  | lost (outcome : UrlopenOutcome)

/-- An entry that the cache was given, and the process and payload it came from if it came from one
of these. -/
structure Arrival (ι : Type) where
  source : Option (ι × LogPayload)
  entry : Json

/-- The processes and the dashboard. -/
structure Pipeline (ι : Type) where
  shippers : ι → HttpLogIngest
  dashboard : StatsCache
  /-- The history of the cache, which no step reads. -/
  arrived : List (Arrival ι)

inductive PipelineStep (ι : Type)
  /-- A record is logged in a process. -/
  | emit (i : ι) (now : Int) (record : EmittedRecord)
  /-- The thread of a shipper goes on; if it posts, this is what becomes of the POST. -/
  | turn (i : ι) (now : Int) (transport : Transport)
  | close (i : ι)
  /-- The cache is given an entry from elsewhere: by the Kafka consumer, or in another request. -/
  | other (now : Int) (entry : Json)
  /-- A flush takes the waiting entries out, or puts some of them back. -/
  | flush (pending : List Json)
  | clear

/-- What does not change. -/
structure Surroundings where
  /-- How deep the encoder of the shippers may nest. -/
  depth : Nat
  ingest : IngestSettings
  /-- What the dashboard reads from bytes that are not UTF-8. -/
  other : List UInt8 → Option Json

/-- The POST as the dashboard sees it. -/
def received (post : IngestPost) : IngestRequest := ⟨post.headers, post.data⟩

/-- What `urlopen` makes of an answer: a status that is no success is raised as `HTTPError`. -/
def urlopenOutcome (reason : String) (reply : IngestReply) : UrlopenOutcome :=
  if reply.status = 200 then .response 200
  else .osError ("HTTP Error " ++ toString reply.status ++ ": " ++ reason)

/-- The payload in `_post`, and the POST that `_post` makes for it. -/
def attempt (depth : Nat) (h : HttpLogIngest) : Option (LogPayload × IngestPost) :=
  match h.thread with
  | .posting payload =>
    (jsonBytes depth (payloadValue payload)).bind fun data =>
      if hasUrlType h.url then some (payload, h.request data) else none
  | _ => none

namespace Pipeline

variable {ι : Type} [DecidableEq ι] (env : Surroundings)

def start (shippers : ι → HttpLogIngest) (maxEntries : Nat) : Pipeline ι :=
  ⟨shippers, .new maxEntries, []⟩

def setShipper (w : Pipeline ι) (i : ι) (h : HttpLogIngest) : Pipeline ι :=
  { w with shippers := fun j => if j = i then h else w.shippers j }

/-- A new state of the cache, where what came to it is what it has put at the end of the waiting
entries. -/
def setDashboard (w : Pipeline ι) (source : Option (ι × LogPayload)) (cache : StatsCache) :
    Pipeline ι :=
  { w with
    dashboard := cache
    arrived :=
      w.arrived ++ (cache.pendingFlush.drop w.dashboard.pendingFlush.length).map fun entry =>
        ⟨source, entry⟩ }

omit [DecidableEq ι] in
/-- The dashboard answers a POST. -/
def deliver (w : Pipeline ι) (i : ι) (now : Int) (payload : LogPayload) (post : IngestPost) :
    Pipeline ι × IngestReply :=
  let replied := w.dashboard.receive env.ingest env.other now (received post)
  (w.setDashboard (some (i, payload)) replied.1, replied.2)

/-- A POST on its way, if one is made, and what `urlopen` does in the end. -/
def exchange (w : Pipeline ι) (i : ι) (now : Int) (transport : Transport) :
    Pipeline ι × UrlopenOutcome :=
  match attempt env.depth (w.shippers i), transport with
  | some (payload, post), .answered reason =>
    let delivered := w.deliver env i now payload post
    (delivered.1, urlopenOutcome reason delivered.2)
  | some (payload, post), .unanswered outcome => ((w.deliver env i now payload post).1, outcome)
  | some _, .lost outcome => (w, outcome)
  -- nothing is posted, and nothing asks what `urlopen` does
  | none, _ => (w, .osError "")

def step (w : Pipeline ι) : PipelineStep ι → Pipeline ι
  | .emit i now record => w.setShipper i ((w.shippers i).emit now record)
  | .turn i now transport =>
    let exchanged := w.exchange env i now transport
    exchanged.1.setShipper i ((w.shippers i).turn env.depth exchanged.2)
  | .close i => w.setShipper i (w.shippers i).close
  | .other now entry => w.setDashboard none (w.dashboard.add now entry).1
  | .flush pending => { w with dashboard := { w.dashboard with pendingFlush := pending } }
  | .clear => { w with dashboard := w.dashboard.clear }

/-- Steps in any order. -/
def run (w : Pipeline ι) (steps : List (PipelineStep ι)) : Pipeline ι := steps.foldl (step env) w

/-- The payloads of a process that have arrived, in the order of their arrival. -/
def payloadsFrom (w : Pipeline ι) (i : ι) : List LogPayload :=
  w.arrived.filterMap fun a => a.source.bind fun s => if s.1 = i then some s.2 else none

end Pipeline

/-- The payloads of the records that were logged in a process. -/
def emitted {ι : Type} [DecidableEq ι] (instanceId : PyText) (i : ι)
    (steps : List (PipelineStep ι)) :
    List LogPayload :=
  steps.filterMap fun
    | .emit j now record => if j = i then emitPayload now record instanceId else none
    | _ => none

/-- No POST of the process is lost. -/
def Reliable {ι : Type} (i : ι) (steps : List (PipelineStep ι)) : Prop :=
  ∀ now outcome, .turn i now (.lost outcome) ∉ steps

/-- The dashboard admits what the shipper posts. -/
def Admits (cfg : IngestSettings) (h : HttpLogIngest) : Prop :=
  cfg.refusal (received (h.request [])) = none

/-- A handler that was given the token of the dashboard is admitted. -/
theorem admits_new {cfg : IngestSettings} {token : String} (hcfg : cfg.logIngestToken = some token)
    (hne : pyStrip token ≠ "") (url : String) (instanceId : PyText) :
    Admits cfg (.new url (some token) instanceId) := by
  have hexpected : cfg.token = pyStrip token := by rw [IngestSettings.token, hcfg, Option.getD_some]
  have htoken : (HttpLogIngest.new url (some token) instanceId).token = some (pyStrip token) :=
    if_neg hne
  have hheader : (received ((HttpLogIngest.new url (some token) instanceId).request [])).header
      "x-log-ingest-token" =
      some (pyStrip token) := by
    have htype : (pyLower "Content-Type" == "x-log-ingest-token") = false := by decide
    have hname : (pyLower "X-Log-Ingest-Token" == "x-log-ingest-token") = true := by decide
    unfold received HttpLogIngest.request
    rw [htoken]
    unfold IngestRequest.header
    dsimp only
    rw [List.cons_append, List.find?_cons_of_neg (by simp [htype]), List.nil_append,
      List.find?_cons_of_pos (by simp [hname])]
    rfl
  have hgot : (received ((HttpLogIngest.new url (some token) instanceId).request [])).token =
      pyStrip token := by
    unfold IngestRequest.token
    rw [hheader, Option.getD_some]
    exact if_pos hne
  unfold Admits IngestSettings.refusal
  rw [hexpected, hgot, if_pos hne, if_neg (not_not.2 rfl)]

/-- A POST is made for the payload. -/
def Posted (depth : Nat) (h : HttpLogIngest) (payload : LogPayload) : Bool :=
  (jsonBytes depth (payloadValue payload)).isSome && hasUrlType h.url

end PeHackathon.LogPipeline
