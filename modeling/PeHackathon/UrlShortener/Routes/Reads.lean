import PeHackathon.UrlShortener.Pages
import PeHackathon.UrlShortener.Routes.Events
import PeHackathon.UrlShortener.Routes.Users

/-!
# The routes that read rows, and the delete of a user

What `app/routes` answers from one state of the tables: single rows, the lists of users and of
events, and the lists under a user and under a URL, where `model_to_dict` follows the foreign keys.
No URL or event is deleted with its user, so PostgreSQL refuses the `DELETE` of a user that a row
refers to.
-/

namespace PeHackathon.UrlShortener

/-! ## Rows with what they refer to -/

/-- `model_to_dict(url, backrefs=False)`; `none` if the owner is missing, which raises. -/
def urlWithUser (db : Tables) (u : Url) : Option Json :=
  (db.userGetById u.userId).map fun owner => urlJson DateTime.httpDate (userJson owner) u

/-- `model_to_dict(event, backrefs=False)`. -/
def eventWithRows (db : Tables) (e : Event) : Option Json := do
  let u ← db.urlGetById e.urlId
  let url ← urlWithUser db u
  let user ← db.userGetById e.userId
  some (.obj [("id", .int e.id), ("url_id", url), ("user_id", userJson user),
    ("event_type", .str e.eventType), ("timestamp", .str e.timestamp.httpDate),
    ("details", .str e.details)])

/-! ## Lists of events -/

/-- The filters of `GET /events`. -/
structure EventFilter where
  urlId : Option Int
  userId : Option Int
  eventType : Option String
  deriving DecidableEq, Repr

def EventFilter.holds (f : EventFilter) (e : Event) : Bool :=
  (match f.urlId with | none => true | some id => e.urlId == id) &&
    (match f.userId with | none => true | some id => e.userId == id) &&
    (match f.eventType with | none => true | some type => e.eventType == type)

/-- `Event.select().where(...).order_by(Event.timestamp.desc())`. -/
def Tables.orderedEvents (db : Tables) (f : EventFilter) : List Event :=
  (db.events.filter f.holds).insertionSort fun a b => b.timestamp.key ≤ a.timestamp.key

/-- `User.select().order_by(User.id)`. -/
def Tables.orderedUsers (db : Tables) : List User := db.users.insertionSort fun a b => a.id ≤ b.id

/-! ## URLs -/

/-- `jsonify(rows)` with its `Cache-Control` header. -/
def rowsResponse (rows : List Json) : Response := ⟨200, .arr rows, none, some "public, max-age=30"⟩

/-- `get_url`. -/
def getUrl (db : Tables) (urlId : Int) : Response :=
  match db.urlGetById urlId with
  | none => errorResponse 404 "URL not found"
  | some u => ⟨200, urlJson DateTime.httpDate (.int u.userId) u, none, some "public, max-age=60"⟩

/-- `list_user_urls`. -/
def listUserUrls (db : Tables) (userId : Int) : Response :=
  match db.userGetById userId with
  | none => errorResponse 404 "User not found"
  | some _ =>
    match (db.orderedUrls ⟨some userId, none⟩).mapM (urlWithUser db) with
    | none => serverError
    | some rows => rowsResponse rows

/-- `list_url_events`. -/
def listUrlEvents (db : Tables) (urlId : Int) : Response :=
  match db.urlGetById urlId with
  | none => errorResponse 404 "URL not found"
  | some _ =>
    match (db.orderedEvents ⟨some urlId, none, none⟩).mapM (eventWithRows db) with
    | none => serverError
    | some rows => rowsResponse rows

/-! ## Events -/

/-- `list_events`. An event type that cannot be sent raises, as a page out of range does. -/
def listEvents (db : Tables) (page perPage : Int) (f : EventFilter) : Response :=
  if f.eventType.all sendable then
    match listEventsRows (db.orderedEvents f) page perPage with
    | .error _ => serverError
    | .ok events => jsonResponse 200 (.arr (events.map EventRoutes.eventJson))
  else serverError

/-! ## Users -/

/-- `list_users`. -/
def listUsers (db : Tables) (page perPage : Int) : Response :=
  match listUsersRows db.orderedUsers page perPage with
  | .error _ => serverError
  | .ok users => jsonResponse 200 (.arr (users.map userJson))

/-- `get_user`. -/
def getUser (db : Tables) (userId : Int) : Response :=
  match db.userGetById userId with
  | none => errorResponse 404 "User not found"
  | some user => jsonResponse 200 (userJson user)

/-- A URL or an event refers to the user. -/
def Tables.refersTo (db : Tables) (userId : Int) : Bool :=
  db.urls.any (fun u => u.userId == userId) || db.events.any fun e => e.userId == userId

/-- `user.delete_instance()`. -/
def Tables.deleteUser (db : Tables) (userId : Int) : Except DbError Unit × Tables :=
  if db.refersTo userId then (.error .integrity, db)
  else (.ok (), { db with users := db.users.filter fun u => u.id != userId })

/-- `delete_user`. -/
def deleteUser (db : Tables) (userId : Int) : Response × Tables :=
  match db.userGetById userId with
  | none => (errorResponse 404 "User not found", db)
  | some _ =>
    match db.deleteUser userId with
    | (.error _, db) => (serverError, db)
    | (.ok (), db) => (jsonResponse 200 (.obj [("message", .str "User deleted")]), db)

/-! ## The foreign keys -/

section Keys

variable {db : Tables}

theorem mapM_of_all {α β : Type} {f : α → Option β} {l : List α}
    (h : ∀ a ∈ l, (f a).isSome = true) :
    ∃ rows, l.mapM f = some rows := by
  induction l with
  | nil => exact ⟨[], rfl⟩
  | cons a l ih =>
    obtain ⟨b, hb⟩ := Option.isSome_iff_exists.1 (h a List.mem_cons_self)
    obtain ⟨rows, hrows⟩ := ih fun a' ha' => h a' (List.mem_cons_of_mem a ha')
    refine ⟨b :: rows, ?_⟩
    rw [List.mapM_cons, hb, hrows]
    rfl

theorem urlWithUser_isSome (h : db.Valid) {u : Url} (hu : u ∈ db.urls) :
    (urlWithUser db u).isSome = true := by
  rw [urlWithUser, Option.isSome_map]
  exact h.owned u hu

theorem eventWithRows_isSome (h : db.Valid) {e : Event}
    (hurl : (db.urlGetById e.urlId).isSome = true)
    (huser : (db.userGetById e.userId).isSome = true) : (eventWithRows db e).isSome = true := by
  obtain ⟨u, hu⟩ := Option.isSome_iff_exists.1 hurl
  obtain ⟨url, hurl'⟩ :=
    Option.isSome_iff_exists.1 (urlWithUser_isSome h (h.urlGetById_eq_some.1 hu).1)
  obtain ⟨user, huser'⟩ := Option.isSome_iff_exists.1 huser
  unfold eventWithRows
  rw [hu, huser']
  dsimp only [Option.bind_eq_bind, Option.bind_some]
  rw [hurl']
  rfl

end Keys

end PeHackathon.UrlShortener
