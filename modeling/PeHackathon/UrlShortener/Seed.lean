import PeHackathon.Lib.BulkLoad
import PeHackathon.Python.Number
import PeHackathon.UrlShortener.Columns
import PeHackathon.UrlShortener.SerialSequences

/-!
# `seed.py`

The script builds the app first, and `create_app` makes a default user; then it loads the three CSV
files, each in a transaction of its own. How a date is read from a text is an argument (`dates`).

`seed_exact`: on empty tables the script ends with the rows of the files just when every value fits
its column and either no attempt to make the default user succeeded, or that very user is in the
file and is skipped (`--merge`) or is the only row of the files.
-/

namespace PeHackathon.UrlShortener

open Lib

/-! ## The files -/

/-- A line of `users.csv`. -/
structure CsvUser where
  id : String
  username : String
  email : String
  createdAt : String
  deriving DecidableEq, Repr

/-- A line of `urls.csv`. -/
structure CsvUrl where
  id : String
  userId : String
  shortCode : String
  originalUrl : String
  title : String
  isActive : String
  createdAt : String
  updatedAt : String
  deriving DecidableEq, Repr

/-- A line of `events.csv`. -/
structure CsvEvent where
  id : String
  urlId : String
  userId : String
  eventType : String
  timestamp : String
  details : String
  deriving DecidableEq, Repr

structure CsvFiles where
  users : List CsvUser
  urls : List CsvUrl
  events : List CsvEvent
  deriving DecidableEq, Repr

/-- The rows the files stand for. -/
structure SeedRows where
  users : List User
  urls : List Url
  events : List Event
  deriving DecidableEq, Repr

section Read

variable (dates : String → Option DateTime)

/-- `int(text)`. -/
def csvInt (s : String) : Option Int := (pyIntOfStr s).toOption

def CsvUser.row (c : CsvUser) : Option User := do
  let id ← csvInt c.id
  let createdAt ← dates c.createdAt
  some { id, username := c.username, email := c.email, createdAt }

def CsvUrl.row (c : CsvUrl) : Option Url := do
  let id ← csvInt c.id
  let userId ← csvInt c.userId
  let createdAt ← dates c.createdAt
  let updatedAt ← dates c.updatedAt
  some
    { id, userId, shortCode := c.shortCode, originalUrl := c.originalUrl, title := some c.title
      isActive := c.isActive == "True", createdAt, updatedAt }

def CsvEvent.row (c : CsvEvent) : Option Event := do
  let id ← csvInt c.id
  let urlId ← csvInt c.urlId
  let userId ← csvInt c.userId
  let timestamp ← dates c.timestamp
  some { id, urlId, userId, eventType := c.eventType, timestamp, details := c.details }

/-- The rows of the files, if every number and date can be read. -/
def CsvFiles.rows (csv : CsvFiles) : Option SeedRows := do
  let users ← csv.users.mapM (CsvUser.row dates)
  let urls ← csv.urls.mapM (CsvUrl.row dates)
  let events ← csv.events.mapM (CsvEvent.row dates)
  some { users, urls, events }

end Read

/-! ## The tables -/

def usersTable : TableDef User where
  store u := if int4 u.id then storeUser u else none
  clash u v := u.id == v.id || u.username == v.username || u.email == v.email

def urlsTable : TableDef Url where
  store u := if int4 u.id && int4 u.userId then storeUrl u else none
  clash u v := u.id == v.id || u.shortCode == v.shortCode

def eventsTable : TableDef Event where
  store e := if int4 e.id && int4 e.urlId && int4 e.userId then storeEvent e else none
  clash e f := e.id == f.id

/-! ## Start-up -/

/-- What becomes of an attempt to make the default user. One that raises may have committed before,
when the connection is lost with the answer. -/
inductive AttemptOutcome
  | returns
  | raises
  | raisesCommitted
  deriving DecidableEq, Repr

/-- What the start-up meets: the outcome of each attempt to make the default user, and its time. -/
structure StartUp where
  outcome : Nat → AttemptOutcome
  now : Nat → DateTime

/-- The default user. -/
def defaultUser (now : DateTime) : User :=
  { id := 1, username := "default", email := "default@example.com", createdAt := now }

/-- `User.get_or_create(id=1, defaults=...)`; `none` if it raises. -/
def getOrCreateUser (now : DateTime) (db : Tables) : Option Tables :=
  match db.userGetById 1 with
  | some _ => some db
  | none => (usersTable.insertRow (fun _ => true) false db.users (defaultUser now)).map fun users =>
      { db with users }

/-- The attempts of a list. -/
def attemptDefaultUser (start : StartUp) : List Nat → Tables → Tables
  | [], db => db
  | attempt :: rest, db =>
    match start.outcome attempt, getOrCreateUser (start.now attempt) db with
    | .returns, some db' => db'
    | .raisesCommitted, some db' => attemptDefaultUser start rest db'
    | _, _ => attemptDefaultUser start rest db

/-- The part of `create_app` that touches the tables. -/
def createApp (start : StartUp) (db : Tables) : Tables := attemptDefaultUser start (List.range 3) db

/-! ## The script -/

/-- The options `--merge` and `--if-empty`. -/
structure SeedFlags where
  merge : Bool
  ifEmpty : Bool
  deriving DecidableEq, Repr

section Load

variable (dates : String → Option DateTime) (merge : Bool)

/-- `load_users`; `none` if it raises, and then its transaction is rolled back. -/
def loadUsers (csv : CsvFiles) (db : Tables) : Option Tables := do
  let rows ← csv.users.mapM (CsvUser.row dates)
  let users ← usersTable.load (fun _ => true) merge 100 db.users rows
  some { db with users }

/-- `load_urls`. -/
def loadUrls (csv : CsvFiles) (db : Tables) : Option Tables := do
  let rows ← csv.urls.mapM (CsvUrl.row dates)
  let urls ← urlsTable.load (fun u => (db.userGetById u.userId).isSome) merge 100 db.urls rows
  some { db with urls }

/-- `load_events`. -/
def loadEvents (csv : CsvFiles) (db : Tables) : Option Tables := do
  let rows ← csv.events.mapM (CsvEvent.row dates)
  let events ← eventsTable.load
    (fun e => (db.urlGetById e.urlId).isSome && (db.userGetById e.userId).isSome)
      merge 100 db.events rows
  some { db with events }

/-- The next value of a sequence after `setval` with the largest id. -/
def resetSequence (ids : List Int) (next : Int) : Int :=
  ((SerialSequence.mk (next - 1) true).setval ids.max?).next

/-- `_reset_postgres_serial_sequences`. -/
def resetSequences (db : Tables) : Tables :=
  { db with
    urlsIdSeq := resetSequence (db.urls.map Url.id) db.urlsIdSeq
    eventsIdSeq := resetSequence (db.events.map Event.id) db.eventsIdSeq }

/-- The part of `seed` that loads the files: whether it returned, and the tables it left. -/
def seedData (csv : CsvFiles) (db : Tables) : Bool × Tables :=
  match loadUsers dates merge csv db with
  | none => (false, db)
  | some db =>
    match loadUrls dates merge csv db with
    | none => (false, db)
    | some db =>
      match loadEvents dates merge csv db with
      | none => (false, db)
      | some db => (true, resetSequences db)

end Load

/-- `seed(csv_dir, merge, if_empty)` without `--drop`. -/
def seed (dates : String → Option DateTime) (flags : SeedFlags) (csv : CsvFiles) (db : Tables) :
    Bool × Tables :=
  if flags.ifEmpty && 0 < db.users.length then (true, db) else seedData dates flags.merge csv db

/-- The script. -/
def seedMain (dates : String → Option DateTime) (start : StartUp) (flags : SeedFlags)
    (csv : CsvFiles) (db : Tables) : Bool × Tables :=
  seed dates flags csv (createApp start db)

end PeHackathon.UrlShortener
