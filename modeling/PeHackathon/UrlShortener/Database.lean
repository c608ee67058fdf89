import Mathlib.Algebra.Group.Int.Defs
import Mathlib.Algebra.Group.Nat.Defs
import Mathlib.Data.List.Lex
import Mathlib.Data.List.Sort
import PeHackathon.Postgres.Text
import PeHackathon.Python.Json

/-!
# The tables of the URL shortener

The rows of `app/models` and the statements the routes run on them, as PostgreSQL executes them.
A `CharField(max_length=n)` is a `VARCHAR(n)`. `nextval` is not rolled back.
-/

namespace PeHackathon.UrlShortener

/-! ## Dates -/

/-- A `datetime` as the columns keep it (UTC, no zone). -/
structure DateTime where
  year : Nat
  month : Nat
  day : Nat
  hour : Nat
  minute : Nat
  second : Nat
  microsecond : Nat
  deriving DecidableEq, Repr

namespace DateTime

def key (t : DateTime) : List Nat :=
  [t.year, t.month, t.day, t.hour, t.minute, t.second, t.microsecond]

/-- `n` in `w` decimal digits. -/
def pad : Nat → Nat → List Char
  | 0, _ => []
  | w + 1, n => pad w (n / 10) ++ [Nat.digitChar (n % 10)]

/-- `str(t)`. -/
def str (t : DateTime) : String :=
  String.ofList (pad 4 t.year ++ ['-'] ++ pad 2 t.month ++ ['-'] ++ pad 2 t.day ++ [' '] ++
    pad 2 t.hour ++ [':'] ++ pad 2 t.minute ++ [':'] ++ pad 2 t.second ++
    (if t.microsecond = 0 then [] else ['.'] ++ pad 6 t.microsecond))

/-- The day of the week, Sunday first. -/
def weekday (t : DateTime) : Nat :=
  let y := if t.month < 3 then t.year - 1 else t.year
  let shift := [0, 3, 2, 5, 0, 3, 5, 1, 4, 6, 2, 4].getD (t.month - 1) 0
  (y + y / 4 + y / 400 + shift + t.day - y / 100) % 7

def dayName : Nat → List Char
  | 0 => ['S', 'u', 'n']
  | 1 => ['M', 'o', 'n']
  | 2 => ['T', 'u', 'e']
  | 3 => ['W', 'e', 'd']
  | 4 => ['T', 'h', 'u']
  | 5 => ['F', 'r', 'i']
  | _ => ['S', 'a', 't']

def monthName (m : Nat) : List Char :=
  (["Jan", "Feb", "Mar", "Apr", "May", "Jun", "Jul", "Aug", "Sep", "Oct", "Nov", "Dec"].getD
    (m - 1) "").toList

/-- `werkzeug.http.http_date(t)`, what Flask's `jsonify` writes for a `datetime`. -/
def httpDate (t : DateTime) : String :=
  String.ofList (dayName t.weekday ++ [',', ' '] ++ pad 2 t.day ++ [' '] ++ monthName t.month ++
    [' '] ++ pad 4 t.year ++ [' '] ++ pad 2 t.hour ++ [':'] ++ pad 2 t.minute ++ [':'] ++
    pad 2 t.second ++ [' ', 'G', 'M', 'T'])

theorem digitChar_isDigit : ∀ n < 10, (Nat.digitChar n).isDigit = true := by decide

theorem dayName_head (n : Nat) : ∃ c l, dayName n = c :: l ∧ c.isDigit = false := by
  unfold dayName
  split <;> exact ⟨_, _, rfl, by decide⟩

/-- The two texts of dates never agree: one starts with a digit, the other with a letter. -/
theorem str_ne_httpDate (s t : DateTime) : s.str ≠ t.httpDate := by
  intro h
  have hl := congrArg (fun x : String => x.toList.head?) h
  obtain ⟨c, l, hd, hc⟩ := dayName_head t.weekday
  simp only [str, httpDate, String.toList_ofList, hd, pad, List.nil_append, List.append_assoc,
    List.cons_append, List.head?_cons, Option.some.injEq] at hl
  have hdig := digitChar_isDigit _ (Nat.mod_lt (s.year / 10 / 10 / 10) (by decide : 0 < 10))
  rw [hl, hc] at hdig
  cases hdig

end DateTime

/-! ## Rows -/

structure User where
  id : Int
  username : String
  email : String
  createdAt : DateTime
  deriving DecidableEq, Repr

structure Url where
  id : Int
  userId : Int
  shortCode : String
  originalUrl : String
  title : Option String
  isActive : Bool
  createdAt : DateTime
  updatedAt : DateTime
  deriving DecidableEq, Repr

structure Event where
  id : Int
  urlId : Int
  userId : Int
  eventType : String
  timestamp : DateTime
  details : String
  deriving DecidableEq, Repr

/-- The tables and the sequences behind the two `id` columns. -/
structure Tables where
  users : List User
  urls : List Url
  events : List Event
  urlsIdSeq : Int
  eventsIdSeq : Int
  deriving DecidableEq, Repr

/-- A statement that raised: a value the column or the adapter refuses, a broken constraint. -/
inductive DbError
  | data
  | integrity
  deriving DecidableEq, Repr

/-- The filters of `GET /urls`. -/
structure UrlFilter where
  userId : Option Int
  isActive : Option Bool
  deriving DecidableEq, Repr

def UrlFilter.holds (f : UrlFilter) (u : Url) : Bool :=
  (match f.userId with | none => true | some id => u.userId == id) &&
    (match f.isActive with | none => true | some b => u.isActive == b)

/-! ## Values -/

/-- What the nullable `title` column stores. -/
def storeTitle : Option String → Option (Option String)
  | none => some none
  | some t => (varchar 500 t).map some

/-- The row a `urls` row is stored as. -/
def storeUrl (u : Url) : Option Url := do
  let shortCode ← varchar 20 u.shortCode
  let originalUrl ← varchar 2048 u.originalUrl
  let title ← storeTitle u.title
  some { u with shortCode, originalUrl, title }

/-! ## Statements -/

namespace Tables

/-- `User.get_by_id(id)`. -/
def userGetById (db : Tables) (id : Int) : Option User := db.users.find? fun u => u.id == id

/-- `Url.get_by_id(id)`. -/
def urlGetById (db : Tables) (id : Int) : Option Url := db.urls.find? fun u => u.id == id

/-- The row with a short code. -/
def urlByCode (db : Tables) (code : String) : Option Url :=
  db.urls.find? fun u => u.shortCode == code

/-- `Url.get(Url.short_code == code)`. -/
def urlGetByCode (db : Tables) (code : String) : Except DbError (Option Url) :=
  if sendable code then .ok (db.urlByCode code) else .error .data

/-- `Url.select().where(Url.short_code == code).exists()`. -/
def shortCodeExists (db : Tables) (code : String) : Except DbError Bool :=
  (db.urlGetByCode code).map Option.isSome

/-- `Event.create(...)` with `id` from the sequence. The click log and the two writers read the user
of the URL first; a missing user is an error there as it is for the foreign key. -/
def createEvent (db : Tables) (e : Event) : Except DbError Int × Tables :=
  match varchar 50 e.eventType, textColumn e.details with
  | some eventType, some details =>
    let id := db.eventsIdSeq
    let db' := { db with eventsIdSeq := id + 1 }
    if db.events.any (fun e => e.id == id) || (db.urlGetById e.urlId).isNone ||
        (db.userGetById e.userId).isNone then
      (.error .integrity, db')
    else (.ok id, { db' with events := db.events ++ [{ e with id, eventType, details }] })
  | _, _ => (.error .data, db)

/-- Leave a transaction by rollback: the sequences stay where they are. -/
def rollback (before after : Tables) : Tables :=
  { before with urlsIdSeq := after.urlsIdSeq, eventsIdSeq := after.eventsIdSeq }

/-- The statements after a change of `urls` in a transaction: the event, then commit or rollback. -/
def commitWith (before changed : Tables) (e : Event) : Except DbError Unit × Tables :=
  match changed.createEvent e with
  | (.error err, db) => (.error err, rollback before db)
  | (.ok _, db) => (.ok (), db)

/-- The tables after the `INSERT` of a row, with `id` from the sequence. -/
def insertUrl (db : Tables) (row : Url) : Tables :=
  { db with urls := db.urls ++ [{ row with id := db.urlsIdSeq }], urlsIdSeq := db.urlsIdSeq + 1 }

/-- The tables after the `UPDATE` of the row with the id of `row`. -/
def replaceUrl (db : Tables) (row : Url) : Tables :=
  { db with urls := db.urls.map fun v => if v.id == row.id then row else v }

/-- The transaction of `create_short_url`: `Url.create` with `id` from the sequence, then
`Event.create` for that id. It answers the new id. -/
def createUrlTx (db : Tables) (u : Url) (e : Event) : Except DbError Int × Tables :=
  match storeUrl u with
  | none => (.error .data, db)
  | some row =>
    let id := db.urlsIdSeq
    let db' := { db with urlsIdSeq := id + 1 }
    if (db.urlGetById id).isSome || (db.urlByCode row.shortCode).isSome ||
        (db.userGetById row.userId).isNone then
      (.error .integrity, db')
    else
      match commitWith db' (db.insertUrl row) { e with urlId := id } with
      | (.error err, db'') => (.error err, db'')
      | (.ok _, db'') => (.ok id, db'')

/-- The transaction of `update_url` and `delete_url`: `url.save()` writes every column of the loaded
row, and `Event.create` is in the same transaction. -/
def saveUrlTx (db : Tables) (u : Url) (e : Event) : Except DbError Unit × Tables :=
  match storeUrl u with
  | none => (.error .data, db)
  | some row =>
    if db.urls.any (fun v => v.id != u.id && v.shortCode == row.shortCode) ||
        (db.userGetById row.userId).isNone then
      (.error .integrity, db)
    else
      commitWith db (db.replaceUrl row) e

/-! ## The list query -/

/-- `query.count()`. -/
def countUrls (db : Tables) (f : UrlFilter) : Nat := (db.urls.filter f.holds).length

/-- `Url.select().where(...).order_by(Url.created_at.desc())`. -/
def orderedUrls (db : Tables) (f : UrlFilter) : List Url :=
  (db.urls.filter f.holds).insertionSort fun a b => b.createdAt.key ≤ a.createdAt.key

/-- The `OFFSET` of `query.paginate(page, per_page)`. -/
def pageOffset (page perPage : Int) : Int := (if 0 < page then page - 1 else page) * perPage

/-- Whether `LIMIT` and `OFFSET` are neither negative nor too large. -/
def pageInRange (page perPage : Int) : Bool :=
  0 ≤ perPage && perPage < 2 ^ 63 && 0 ≤ pageOffset page perPage && pageOffset page perPage < 2 ^ 63

/-- `query.paginate(page, per_page)`; a `LIMIT` or `OFFSET` out of range raises. -/
def paginate (db : Tables) (f : UrlFilter) (page perPage : Int) : Except DbError (List Url) :=
  if pageInRange page perPage then
    .ok (((db.orderedUrls f).drop (pageOffset page perPage).toNat).take perPage.toNat)
  else .error .data

end Tables

end PeHackathon.UrlShortener
