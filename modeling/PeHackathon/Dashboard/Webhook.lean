import PeHackathon.Dashboard.Consumer
import PeHackathon.Lib.BulkLoad
import PeHackathon.Python.Attribute
import PeHackathon.Python.Repr

/-!
# The two senders of the Discord alerter

`discord_alerter.py`: `maybe_alert`, and `send_alertmanager_alerts` that posts in batches. A POST
and the readings of the clock around it take the times of an `Attempt`, in any unit, and end as it
says. Values that came as JSON can be written as JSON, so `json.dumps` raises nothing. What is only
logged is left out.
-/

namespace PeHackathon.Dashboard

open Lib

/-- How `urlopen` ends. -/
inductive PostOutcome
  | accepted
  /-- `HTTPError`: what `exc.read().decode()` makes of its body, `none` if it raises. -/
  | httpError (body : Option String)
  /-- Any other exception. -/
  | failed
  deriving DecidableEq

/-- How long the parts of sending take, and how the POST ends. -/
structure Attempt where
  untilRead : Nat
  /-- What `time.sleep` lasts beyond what it was asked for. -/
  overslept : Nat
  untilPost : Nat
  posting : Nat
  /-- From the end of the POST until the clock is read again. -/
  afterPost : Nat
  outcome : PostOutcome

structure WebhookPost where
  start : Int
  embeds : List Json
  accepted : Bool

/-- The alerter, the monotonic clock, and the POSTs so far. -/
structure Alerter where
  webhookUrl : String
  minInterval : Int
  lastSent : Int
  now : Int
  posts : List WebhookPost

namespace Alerter

/-- Time passes. -/
def wait (d : Int) (w : Alerter) : Alerter := { w with now := w.now + d }

/-- `urlopen`. -/
def post (embeds : List Json) (a : Attempt) (w : Alerter) : Alerter :=
  { w with
    posts := w.posts ++ [⟨w.now, embeds, a.outcome = .accepted⟩]
    now := w.now + a.posting }

end Alerter

/-! ## Log entries -/

/-- A field of an embed. -/
def embedField (name : String) (value : Json) : Json := .obj [("name", .str name), ("value", value)]

/-- A field of an embed that shares its line. -/
def inlineField (name : String) (value : Json) : Json :=
  .obj [("name", .str name), ("value", value), ("inline", .bool true)]

/-- The embed that `send_alert` formats. -/
def logEmbed (entry : JsonObject) : Except String Json := do
  let field (key : String) (default : String) := (entry.get? key).getD (.str default)
  let status ← match DiscordAlerter.statusOf entry with
    | some status => .ok status
    | none => .error "status_code"
  let color :=
    if 500 ≤ status then 15158332
    else if 400 ≤ status then 16776960
    else 3066993
  let message ← pySlice (field "message" "") 200
  return .obj [
    ("title", .str ("🔔 Alert: " ++ (field "method" "?").pyStr ++ " " ++ (field "path" "?").pyStr)),
    ("color", .int color),
    ("fields", .arr [
      inlineField "Instance" (.str (field "instance_id" "?").pyStr),
      inlineField "Status" (.str (toString status)),
      inlineField "Duration" (.str ((field "duration_ms" "?").pyStr ++ "ms")),
      embedField "Message" (pyOr message (.str "—"))]),
    ("timestamp", field "timestamp" "")]

namespace Alerter

/-- `send_alert`; an exception ends it, and `maybe_alert` logs it. -/
def sendAlert (a : Attempt) (entry : JsonObject) (w : Alerter) : Alerter :=
  let w := w.wait a.untilRead
  let now := w.now
  if now - w.lastSent < w.minInterval then w
  else
    match logEmbed entry with
    | .error _ => w
    | .ok embed =>
      let w := (w.wait a.untilPost).post [embed] a
      match a.outcome with
      | .accepted => { w with lastSent := now }
      | _ => w

/-- `maybe_alert`. -/
def maybeAlert (py : PyCase) (a : Attempt) (entry : JsonObject) (w : Alerter) : Alerter :=
  if w.webhookUrl = "" then w
  else
    match DiscordAlerter.shouldAlert py entry with
    | some true => w.sendAlert a entry
    | _ => w

end Alerter

/-! ## Alertmanager -/

/-- The field for an annotation, if it has one. -/
def annotationField (annotations : Json) (key name : String) (length : Nat) :
    Except String (List Json) := do
  let value ← pyGet annotations key .null
  if pyTruthy value then
    let value ← pySlice value length
    return [embedField name value]
  else return []

/-- `ts`. -/
def alertTime (alert status : Json) : Except String Json := do
  let startsAt ← pyGet alert "startsAt" (.str "")
  if pyIsText status "resolved" then
    let endsAt ← pyGet alert "endsAt" (.str "")
    return pyOr endsAt startsAt
  else return startsAt

/-- The title and the color of an alert. -/
def alertTitle (status severity alertname : Json) : String × Int :=
  if pyIsText status "resolved" then ("\u2705 RESOLVED: " ++ alertname.pyStr, 3066993)
  else if pyIsText severity "critical" then ("🚨 FIRING: " ++ alertname.pyStr, 15158332)
  else ("\u26a0\ufe0f FIRING: " ++ alertname.pyStr, 16750848)

/-- The embed of an alert. -/
def alertEmbed (alert : Json) : Except String Json := do
  let status ← pyGet alert "status" (.str "unknown")
  let labels ← pyGet alert "labels" (.obj [])
  let annotations ← pyGet alert "annotations" (.obj [])
  let severity ← pyGet labels "severity" (.str "unknown")
  let alertname ← pyGet labels "alertname" (.str "Unknown Alert")
  let host ← pyGet labels "instance" (.str "")
  let (title, color) := alertTitle status severity alertname
  let summary ← annotationField annotations "summary" "Summary" 200
  let description ← annotationField annotations "description" "Description" 400
  let ts ← alertTime alert status
  let fields := [inlineField "Severity" severity, inlineField "Status" status] ++
    (if pyTruthy host then [inlineField "Instance" host] else []) ++ summary ++ description
  return .obj [("title", .str title), ("color", .int color), ("fields", .arr fields),
    ("timestamp", ts)]

/-- The loop that formats the alerts. -/
def alertEmbeds (alerts : Json) : Except String (List Json) := do
  let alerts ← pyIter alerts
  alerts.mapM alertEmbed

namespace Alerter

/-- The start of a turn of the loop, up to the POST. -/
def waitTurn (a : Attempt) (w : Alerter) : Alerter :=
  let w := w.wait a.untilRead
  let now := w.now
  let w :=
    if now - w.lastSent < w.minInterval then
      w.wait (w.minInterval - (now - w.lastSent) + a.overslept)
    else w
  w.wait a.untilPost

/-- A turn of the loop: how many alerts it adds to `sent`. What an `except` clause raises leaves the
function. -/
def sendBatch (a : Attempt) (batch : List Json) (w : Alerter) : Alerter × Except String Nat :=
  let w := (w.waitTurn a).post batch a
  match a.outcome with
  | .accepted =>
    let w := w.wait a.afterPost
    ({ w with lastSent := w.now }, .ok batch.length)
  | .httpError none => (w, .error "'utf-8' codec can't decode the body")
  | .httpError (some _) | .failed => (w, .ok 0)

/-- The loop over the batches, from batch `k` on. -/
def sendBatches (attempts : Nat → Attempt) :
    List (List Json) → Nat → Alerter → Alerter × Except String Nat
  | [], _, w => (w, .ok 0)
  | batch :: batches, k, w =>
    match w.sendBatch (attempts k) batch with
    | (w, .error e) => (w, .error e)
    | (w, .ok sent) =>
      match sendBatches attempts batches (k + 1) w with
      | (w, .error e) => (w, .error e)
      | (w, .ok later) => (w, .ok (sent + later))

/-- Discord takes at most so many embeds. -/
def batchSize : Nat := 10

/-- `send_alertmanager_alerts`. -/
def sendAlertmanagerAlerts (attempts : Nat → Attempt) (payload : Json) (w : Alerter) :
    Alerter × Except String Nat :=
  if w.webhookUrl = "" then (w, .ok 0)
  else
    match pyGet payload "alerts" (.arr []) with
    | .error e => (w, .error e)
    | .ok alerts =>
      if !pyTruthy alerts then (w, .ok 0)
      else
        match alertEmbeds alerts with
        | .error e => (w, .error e)
        | .ok embeds => w.sendBatches attempts (TableDef.chunked batchSize embeds) 0

end Alerter

end PeHackathon.Dashboard
