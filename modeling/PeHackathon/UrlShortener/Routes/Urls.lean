import PeHackathon.Python.Url
import PeHackathon.UrlShortener.Cache

/-!
# `app/routes/urls.py`

The handlers of the URL routes, step by step as the source runs them. What a request brings from
outside is an argument: its body and query, the clock (`now`) and the draws of
`generate_short_code`. `while True` loops get as many rounds as `App` says, and hang after them.
-/

namespace PeHackathon.UrlShortener

open Lib

/-! ## Requests and responses -/

/-- The body of a request as `request.is_json` and `get_json` see it. -/
inductive Body
  | notJson
  | malformed
  | json (data : Json)

structure Response where
  status : Nat
  body : Json
  location : Option String
  cacheControl : Option String

def jsonResponse (status : Nat) (body : Json) : Response := ⟨status, body, none, none⟩

/-- `jsonify({"error": message}), status`. -/
def errorResponse (status : Nat) (message : String) : Response :=
  jsonResponse status (.obj [("error", .str message)])

/-- The answer of `_unhandled_error` to an exception a handler lets through. -/
def serverError : Response :=
  jsonResponse 500 (.obj [("error", .str "Internal server error"),
    ("detail", .str "An unexpected error occurred. Please try again.")])

/-- `redirect(location, code=302)` with its `Cache-Control` header. -/
def redirectResponse (location : String) : Response :=
  ⟨302, .null, some location, some "public, max-age=300"⟩

/-- The answer to a deactivated URL. -/
def deactivated : Response := errorResponse 410 "This URL has been deactivated"

/-- What the handlers are configured with: whether Redis was reachable at startup, how often the two
unbounded loops go round, the host checks of `urlparse` and the printable characters of `repr`. -/
structure App where
  redis : Bool
  scanFuel : Nat
  codeFuel : Nat
  hosts : HostChecks
  printable : Char → Bool

/-- The same handlers with `_redis_client` set or not. -/
def App.withRedis (app : App) (redis : Bool) : App := { app with redis }

section WithRedis

variable (app : App) (redis : Bool)

@[simp] theorem App.withRedis_redis : (app.withRedis redis).redis = redis := rfl

@[simp] theorem App.withRedis_scanFuel : (app.withRedis redis).scanFuel = app.scanFuel := rfl

@[simp] theorem App.withRedis_codeFuel : (app.withRedis redis).codeFuel = app.codeFuel := rfl

@[simp] theorem App.withRedis_hosts : (app.withRedis redis).hosts = app.hosts := rfl

@[simp] theorem App.withRedis_printable : (app.withRedis redis).printable = app.printable := rfl

end WithRedis

/-- `parse_json_body`. -/
def parseJsonBody : Body → Except Response JsonObject
  | .notJson => .error (errorResponse 415 "Content-Type must be application/json")
  | .malformed => .error (errorResponse 400 "Malformed JSON body")
  | .json (.obj data) => .ok data
  | .json _ => .error (errorResponse 400 "Request body must be a JSON object")

theorem parseJsonBody_error {body : Body} {err : Response} (h : parseJsonBody body = .error err) :
    ∃ status message, err = errorResponse status message ∧ (status = 400 ∨ status = 415) := by
  unfold parseJsonBody at h
  split at h
  · cases h
    exact ⟨_, _, rfl, .inr rfl⟩
  · cases h
    exact ⟨_, _, rfl, .inl rfl⟩
  · cases h
  · cases h
    exact ⟨_, _, rfl, .inl rfl⟩

theorem parseJsonBody_ok {body : Body} {data : JsonObject} :
    parseJsonBody body = .ok data ↔ body = .json (.obj data) := by
  constructor
  · intro h
    unfold parseJsonBody at h
    split at h
    · cases h
    · cases h
    · cases h
      rfl
    · cases h
  · rintro rfl
    rfl

/-- `_validate_url`: it raises, returns a message, or accepts a string. -/
inductive UrlCheck
  | raised
  | invalid (message : String)
  | valid (url : String)

def validateUrl (hosts : HostChecks) : Json → UrlCheck
  | .str url =>
    if (pyStrip url).isEmpty then .invalid "original_url must be a non-empty string"
    else
      match urlparse hosts url with
      | none => .raised
      | some (scheme, netloc) =>
        if !(scheme == "http" || scheme == "https") then
          .invalid "original_url must start with http:// or https://"
        else if netloc.isEmpty then .invalid "original_url must include a valid domain"
        else .valid url
  | _ => .invalid "original_url must be a non-empty string"

/-- `model_to_dict(url, backrefs=False, recurse=False)`, with the text of a date and the `user_id`
the model instance holds. -/
def urlJson (date : DateTime → String) (userId : Json) (u : Url) : Json :=
  .obj [("id", .int u.id), ("user_id", userId), ("short_code", .str u.shortCode),
    ("original_url", .str u.originalUrl),
    ("title", match u.title with | none => .null | some t => .str t),
    ("is_active", .bool u.isActive), ("created_at", .str (date u.createdAt)),
    ("updated_at", .str (date u.updatedAt))]

/-! ## Short codes -/

/-- `"".join(random.choices(chars, k=6))`. -/
abbrev GeneratedCode :=
  { s : String // s.length = 6 ∧ s.toList.all (fun c => isAsciiAlpha c || isAsciiDigit c) = true }

/-- `generate_short_code`: draw until a code is free. -/
def generateShortCode (rng : Nat → GeneratedCode) : Nat → Nat → Handler (Except DbError String)
  | 0, _ => hang
  | fuel + 1, n => do
    match ← shortCodeExists (rng n) with
    | .error e => pure (.error e)
    | .ok true => generateShortCode rng fuel (n + 1)
    | .ok false => pure (.ok (rng n))

/-- `short_code or generate_short_code()`. -/
def chooseShortCode (app : App) (rng : Nat → GeneratedCode) (requested : Option String) :
    Handler (Except DbError String) :=
  match requested with
  | some code => if code.isEmpty then generateShortCode rng app.codeFuel 0 else pure (.ok code)
  | none => generateShortCode rng app.codeFuel 0

/-! ## POST /shorten, POST /urls -/

/-- The `title` of a new URL. -/
def newTitle (data : JsonObject) : Option String :=
  match data.get? "title" with
  | none => some ""
  | some (.str t) => some t
  | some _ => none

/-- The `short_code` field: absent or `null`, a string, or of another type (`none`). -/
def requestedShortCode (data : JsonObject) : Option (Option String) :=
  match data.getNone "short_code" with
  | .null => some none
  | .str s => some (some s)
  | _ => none

def createdDetails (shortCode originalUrl : String) : String :=
  "\x7b\"short_code\":\"" ++ shortCode ++ "\",\"original_url\":\"" ++ originalUrl ++ "\"\x7d"

/-- The row `create_short_url` inserts, before it has an id. -/
def newUrl (userId : Int) (shortCode originalUrl title : String) (now : DateTime) : Url :=
  { id := 0, userId, shortCode, originalUrl, title := some title, isActive := true,
    createdAt := now, updatedAt := now }

/-- The part of `create_short_url` after the short code is chosen. -/
def insertUrl (app : App) (userId : Int) (userIdJson : Json) (shortCode originalUrl title : String)
    (now : DateTime) : Handler Response := do
  match ← shortCodeExists shortCode with
  | .error _ => pure serverError
  | .ok true => pure (errorResponse 409 "Short code already exists")
  | .ok false =>
    let url := newUrl userId shortCode originalUrl title now
    let event : Event :=
      { id := 0, urlId := 0, userId, eventType := "created", timestamp := now,
        details := createdDetails shortCode originalUrl }
    match ← createUrlTx url event with
    | .error _ => pure serverError
    | .ok id => do
      -- Prime the redirect cache and invalidate stale list caches
      cacheRedirect app.redis shortCode originalUrl true
      invalidateUrlLists app.redis app.scanFuel
      pure (jsonResponse 201 (urlJson DateTime.httpDate userIdJson { url with id }))

def createShortUrl (app : App) (body : Body) (now : DateTime) (rng : Nat → GeneratedCode) :
    Handler Response :=
  match parseJsonBody body with
  | .error err => pure err
  | .ok data =>
    if !data.has "original_url" || !data.has "user_id" then
      pure (errorResponse 400 "original_url and user_id are required")
    else
      match validateUrl app.hosts (data.getNone "original_url") with
      | .raised => pure serverError
      | .invalid message => pure (errorResponse 400 message)
      | .valid originalUrl =>
        match (data.getNone "user_id").asInt with
        | none => pure (errorResponse 400 "user_id must be an integer")
        | some userId =>
          match newTitle data with
          | none => pure (errorResponse 400 "title must be a string")
          | some title => do
            match ← userGetById userId with
            | none => pure (errorResponse 404 "User not found")
            | some _ =>
              match requestedShortCode data with
              | none => pure (errorResponse 400 "short_code must be a string")
              | some requested => do
                match ← chooseShortCode app rng requested with
                | .error _ => pure serverError
                | .ok shortCode =>
                  insertUrl app userId (data.getNone "user_id") shortCode originalUrl title now

/-! ## GET /urls -/

/-- The response of `list_urls` as a dictionary; `date` is how its dates are written. -/
def listResult (date : DateTime → String) (urls : List Url) (page perPage : Int) (total : Nat) :
    Json :=
  .obj [("data", .arr (urls.map fun u => urlJson date (.int u.userId) u)), ("page", .int page),
    ("per_page", .int perPage), ("total", .int total)]

def listResponse (body : Json) : Response := ⟨200, body, none, some "public, max-age=30"⟩

/-- The filters of a list request. -/
def listFilter (userId : Option Int) (isActive : Option String) : UrlFilter :=
  { userId, isActive := isActive.map fun s => pyLower s == "true" }

def listUrls (app : App) (page perPage : Int) (userId : Option Int) (isActive : Option String) :
    Handler Response := do
  let perPage := min perPage 100
  -- Check Redis cache first
  match ← getCachedUrlList app.redis page perPage with
  | some cached => pure (listResponse cached)
  | none =>
    let filter := listFilter userId isActive
    let total ← countUrls filter
    match ← paginate filter page perPage with
    | .error _ => pure serverError
    | .ok urls => do
      -- `json.dumps(data, default=str)` is what the cache keeps
      cacheUrlList app.redis page perPage (listResult DateTime.str urls page perPage total)
      pure (listResponse (listResult DateTime.httpDate urls page perPage total))

/-! ## PUT /urls/<url_id> -/

/-- The fields a valid update sets, and the keys of its body. -/
structure UrlUpdate where
  originalUrl : Option String
  title : Option String
  isActive : Option Bool
  keys : List String

/-- The checks of `update_url` on its body. -/
def checkUpdate (hosts : HostChecks) (body : Body) : Except Response UrlUpdate := do
  let data ← parseJsonBody body
  if data.length = 0 then throw (errorResponse 400 "No data provided")
  let originalUrl ←
    match data.get? "original_url" with
    | none => pure none
    | some v =>
      match validateUrl hosts v with
      | .raised => throw serverError
      | .invalid message => throw (errorResponse 400 message)
      | .valid url => pure (some url)
  let title ←
    match data.get? "title" with
    | none => pure none
    | some (.str t) => pure (some t)
    | some _ => throw (errorResponse 400 "title must be a string")
  let isActive ←
    match data.get? "is_active" with
    | none => pure none
    | some (.bool b) => pure (some b)
    | some _ => throw (errorResponse 400 "is_active must be a boolean")
  pure { originalUrl, title, isActive, keys := data.keys }

def UrlUpdate.apply (d : UrlUpdate) (now : DateTime) (u : Url) : Url :=
  { u with
    originalUrl := d.originalUrl.getD u.originalUrl
    title := match d.title with | none => u.title | some t => some t
    isActive := d.isActive.getD u.isActive
    updatedAt := now }

def updatedDetails (printable : Char → Bool) (keys : List String) : String :=
  "\x7b\"fields_updated\":" ++ pyReprStrList printable keys ++ "\x7d"

/-- What `update_url` and `delete_url` do with a row they changed: save it together with an event,
then invalidate the caches. -/
def saveUrl (app : App) (url : Url) (event : Event) (response : Response) : Handler Response := do
  match ← saveUrlTx url event with
  | .error _ => pure serverError
  | .ok _ => do
    invalidateRedirect app.redis url.shortCode
    invalidateUrlLists app.redis app.scanFuel
    pure response

def updateUrl (app : App) (urlId : Int) (body : Body) (now : DateTime) : Handler Response := do
  match ← urlGetById urlId with
  | none => pure (errorResponse 404 "URL not found")
  | some url =>
    match checkUpdate app.hosts body with
    | .error err => pure err
    | .ok d => do
      let url := d.apply now url
      let event : Event :=
        { id := 0, urlId := url.id, userId := url.userId, eventType := "updated", timestamp := now,
          details := updatedDetails app.printable d.keys }
      -- Invalidate caches: redirect mapping may have changed
      saveUrl app url event (jsonResponse 200 (urlJson DateTime.httpDate (.int url.userId) url))

/-! ## DELETE /urls/<url_id> -/

def deletedDetails (shortCode : String) : String :=
  "\x7b\"short_code\":\"" ++ shortCode ++ "\",\"reason\":\"user_deleted\"\x7d"

def deleteUrl (app : App) (urlId : Int) (now : DateTime) : Handler Response := do
  match ← urlGetById urlId with
  | none =>
    pure (jsonResponse 200 (.obj [("error", .str "URL not found"),
      ("message", .str "URL not found or already deleted")]))
  | some url => do
    let event : Event :=
      { id := 0, urlId := url.id, userId := url.userId, eventType := "deleted", timestamp := now,
        details := deletedDetails url.shortCode }
    -- Invalidate caches: URL is now deactivated
    saveUrl app { url with isActive := false, updatedAt := now } event
      (jsonResponse 200 (.obj [("message", .str "URL deleted (soft delete)")]))

/-! ## GET /<short_code> -/

/-- The row of `_log_click_event`. -/
def clickEvent (url : Url) (now : DateTime) : Event :=
  { id := 0, urlId := url.id, userId := url.userId, eventType := "click", timestamp := now,
    details := "\x7b\"source\": \"redirect\"\x7d" }

def logClickEvent (url : Url) (now : DateTime) : Handler (Except DbError Int) :=
  createEvent (clickEvent url now)

/-- The answer after the click log, which may raise. -/
def clickResponse (url : String) : Except DbError Int → Response
  | .error _ => serverError
  | .ok _ => redirectResponse url

def redirectToUrl (app : App) (shortCode : String) (now : DateTime) : Handler Response := do
  -- Try Redis cache first: avoids a DB round-trip on every redirect
  match ← getCachedRedirect app.redis shortCode with
  | some cached =>
    if !cached.active then pure deactivated
    else do
      match ← urlGetByCode shortCode with
      | .error _ => pure serverError
      | .ok none => pure (redirectResponse cached.url)
      | .ok (some url) => do
        let logged ← logClickEvent url now
        pure (clickResponse cached.url logged)
  | none => do
    -- Cache miss: fall back to DB
    match ← urlGetByCode shortCode with
    | .error _ => pure serverError
    | .ok none => pure (errorResponse 404 "Not found")
    | .ok (some url) => do
      -- Populate cache for next time
      cacheRedirect app.redis shortCode url.originalUrl url.isActive
      if !url.isActive then pure deactivated
      else do
        -- Log click event for active URLs only
        let logged ← logClickEvent url now
        pure (clickResponse url.originalUrl logged)

/-! ## All requests -/

inductive Request
  | createShortUrl (body : Body) (now : DateTime) (rng : Nat → GeneratedCode)
  | listUrls (page perPage : Int) (userId : Option Int) (isActive : Option String)
  | updateUrl (urlId : Int) (body : Body) (now : DateTime)
  | deleteUrl (urlId : Int) (now : DateTime)
  | redirectToUrl (shortCode : String) (now : DateTime)
  /-- Not a request: Redis drops a key that has reached its TTL. -/
  | expire (key : RedisKey)

def handle (app : App) : Request → Handler Response
  | .createShortUrl body now rng => createShortUrl app body now rng
  | .listUrls page perPage userId isActive => listUrls app page perPage userId isActive
  | .updateUrl urlId body now => updateUrl app urlId body now
  | .deleteUrl urlId now => deleteUrl app urlId now
  | .redirectToUrl shortCode now => redirectToUrl app shortCode now
  | .expire key => do
    expire key
    pure (jsonResponse 0 .null)

end PeHackathon.UrlShortener
