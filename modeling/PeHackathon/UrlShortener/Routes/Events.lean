import PeHackathon.Python.JsonText
import PeHackathon.UrlShortener.History

/-!
# `POST /events`

`create_event` of `app/routes/events.py` with `normalize_details` of `app/request_helpers.py`, and
the requests that write events: those of the URL routes and this one. A `ValueError` is its message.
-/

namespace PeHackathon.UrlShortener

open Lib

/-! ## `normalize_details` -/

/-- The message of `normalize_details`. -/
def detailsMessage : String := "details must be a JSON object or array"

/-- What `str(int)` says of an integer it refuses. -/
def intTooLong : String :=
  "Exceeds the limit (4300 digits) for integer string conversion; use sys.set_int_max_str_digits() to " ++
    "increase the limit"

/-- `isinstance(x, (dict, list))`. -/
def isContainer : Json → Bool
  | .obj _ => true
  | .arr _ => true
  | _ => false

/-- `json.dumps(x)`. -/
def dumpsDetails (x : Json) : Except String String :=
  match x.dumps with
  | some text => .ok text
  | none => .error intTooLong

def normalizeDetails : Json → Except String String
  | .null => .ok "\x7b\x7d"
  | .str details =>
    match jsonLoads details with
    | none => .error detailsMessage
    | some parsed => if isContainer parsed then dumpsDetails parsed else .error detailsMessage
  | details => if isContainer details then dumpsDetails details else .error detailsMessage

/-! ## The handler -/

namespace EventRoutes

/-- `model_to_dict(event, backrefs=False, recurse=False)`. -/
def eventJson (e : Event) : Json :=
  .obj [("id", .int e.id), ("url_id", .int e.urlId), ("user_id", .int e.userId),
    ("event_type", .str e.eventType), ("timestamp", .str e.timestamp.httpDate),
    ("details", .str e.details)]

/-- The three required fields of a body. -/
structure NewEvent where
  urlId : Int
  userId : Int
  eventType : String

/-- The checks of `create_event` before it reads the database. -/
def checkEvent (data : JsonObject) : Except Response NewEvent :=
  if !pyTruthy (data.getNone "url_id") || !pyTruthy (data.getNone "user_id") ||
      !pyTruthy (data.getNone "event_type") then
    .error (errorResponse 400 "url_id, user_id, and event_type are required")
  else
    match data.getNone "url_id", data.getNone "user_id", data.getNone "event_type" with
    | .int urlId, .int userId, .str eventType =>
      if (pyStrip eventType).isEmpty then
        .error (errorResponse 400 "event_type must be a non-empty string")
      else .ok { urlId, userId, eventType }
    | .int _, .int _, _ => .error (errorResponse 400 "event_type must be a non-empty string")
    | .int _, _, _ => .error (errorResponse 400 "user_id must be an integer")
    | _, _, _ => .error (errorResponse 400 "url_id must be an integer")

/-- The row `create_event` inserts. -/
def newEvent (e : NewEvent) (details : String) (now : DateTime) : Event :=
  { id := 0, urlId := e.urlId, userId := e.userId, eventType := pyStrip e.eventType,
    timestamp := now, details }

def createEvent (body : Body) (now : DateTime) : Handler Response :=
  match parseJsonBody body with
  | .error err => pure err
  | .ok data =>
    match checkEvent data with
    | .error err => pure err
    | .ok e => do
      match ← urlGetById e.urlId with
      | none => pure (errorResponse 404 "URL not found")
      | some _ =>
        match ← userGetById e.userId with
        | none => pure (errorResponse 404 "User not found")
        | some _ =>
          match normalizeDetails ((data.get? "details").getD (.obj [])) with
          | .error message => pure (errorResponse 400 message)
          | .ok details => do
            match ← UrlShortener.createEvent (newEvent e details now) with
            | .error _ => pure serverError
            | .ok id => pure (jsonResponse 201 (eventJson { newEvent e details now with id }))

end EventRoutes

/-! ## The requests that write events -/

inductive ApiRequest
  | url (r : Request)
  | createEvent (body : Body) (now : DateTime)

def handleApi (app : App) : ApiRequest → Handler Response
  | .url r => handle app r
  | .createEvent body now => EventRoutes.createEvent body now

/-- One request, alone. -/
def serveApi (scanner : Scanner) (app : App) (r : ApiRequest) (w : World Unit) :
    Option (Response × World Unit) :=
  (server scanner).eval () () (handleApi app r) w

end PeHackathon.UrlShortener
