import PeHackathon.UrlShortener.BulkAccounts
import PeHackathon.UrlShortener.IssuedCodes
import PeHackathon.UrlShortener.Routes.Reads

/-!
# The URL, user and event routes

All handlers of the three blueprints on one state: the world of the URL routes, and the sequence of
the users. A request alone is answered, and leaves the three tables (`serveRoute`).
-/

namespace PeHackathon.UrlShortener

/-- The database and Redis between two requests. Beyond the constraints that `Db` carries, the
foreign keys of `events` hold. -/
structure Service where
  world : World Unit
  usersIdSeq : Int
  eventsOwned : ∀ e ∈ world.db.events,
    (world.db.urlGetById e.urlId).isSome = true ∧ (world.db.userGetById e.userId).isSome = true

namespace Service

variable (st : Service)

def tables : Tables := st.world.db.toTables

def users : Users := ⟨st.tables.users, st.usersIdSeq⟩

/-- What a route answers that touches the users only. -/
def onUsers (answer : Response × Users) : Response × Tables :=
  (answer.1, { st.tables with users := answer.2.rows })

end Service

/-- What the handlers rely on: how `SCAN` walks, Flask, the texts PostgreSQL reads as dates, and the
files in `CSV_DATA_DIR`. -/
structure Surroundings where
  scanner : Scanner
  flask : Flask
  dates : String → Option DateTime
  files : String → Option (Option String)

/-- A request to one of the routes: its path and query values, its body, and the clock. -/
inductive ServiceRequest
  /-- `create_short_url`, `list_urls`, `update_url`, `delete_url`, `redirect_to_url` and
  `create_event`. -/
  | api (r : ApiRequest)
  | getUrl (urlId : Int)
  | listUserUrls (userId : Int)
  | listUrlEvents (urlId : Int)
  | listEvents (page perPage : Int) (filter : EventFilter)
  | listUsers (page perPage : Int)
  | getUser (userId : Int)
  | createUser (body : Body) (now : DateTime)
  | updateUser (userId : Int) (body : Body)
  | deleteUser (userId : Int)
  | bulkLoadUsers (req : BulkRequest) (now : Nat → DateTime)

/-- One request, alone: what is sent, and the tables afterwards. The database is up. -/
def serveRoute (env : Surroundings) (app : App) (st : Service) :
    ServiceRequest → Option (Response × Tables)
  | .api r =>
    (serveApi env.scanner app r st.world).map fun aw => (env.flask.send aw.1, aw.2.db.toTables)
  | .getUrl urlId => some (getUrl st.tables urlId, st.tables)
  | .listUserUrls userId => some (listUserUrls st.tables userId, st.tables)
  | .listUrlEvents urlId => some (listUrlEvents st.tables urlId, st.tables)
  | .listEvents page perPage filter => some (listEvents st.tables page perPage filter, st.tables)
  | .listUsers page perPage => some (listUsers st.tables page perPage, st.tables)
  | .getUser userId => some (getUser st.tables userId, st.tables)
  | .createUser body now => some (st.onUsers (createUser st.users now .up body))
  | .updateUser userId body => some (st.onUsers (updateUser st.users .up userId body))
  | .deleteUser userId => some (deleteUser st.tables userId)
  | .bulkLoadUsers req now => some (st.onUsers (bulkLoadUsers env.dates now env.files st.users req))

end PeHackathon.UrlShortener
