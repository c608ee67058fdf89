import PeHackathon.Lib.Except
import PeHackathon.Python.Csv
import PeHackathon.UrlShortener.Routes.Users
import PeHackathon.UrlShortener.Seed

/-!
# `app/routes/users.py`: loading users from a CSV file

`bulk_load_users` reads the whole file and imports its rows in one transaction, so one row that
raises undoes all of them, with a 500. A row without a username or an email is passed over in
silence, and neither counter counts it. How PostgreSQL reads a date from a text is an argument
(`dates`), and so is the clock (`now`, by the rows read so far). Whatever the file holds, the table
stays valid (`bulkLoadUsers_valid`).
-/

namespace PeHackathon.UrlShortener

/-! ## The request -/

/-- What `bulk_load_users` reads of a request. -/
structure BulkRequest where
  /-- `request.get_json(silent=True)`. -/
  json : Option Json
  /-- `request.files["file"]` with a file name, decoded; `none` inside if that raises. -/
  upload : Option (Option String)

/-- The request of an upload. -/
def BulkRequest.ofUpload (text : String) : BulkRequest := ⟨none, some (some text)⟩

/-- `os.path.basename(path)`. -/
def baseName (path : String) : String :=
  String.ofList (path.toList.reverse.takeWhile fun c => c != '/').reverse

/-- `data and "file" in data`; `none` if it raises. -/
def BulkRequest.namesFile (req : BulkRequest) : Option Bool :=
  match req.json with
  | none => some false
  | some data => if pyTruthy data then pyContains data "file" else some false

/-- An exception of the reader goes to the handler of the app. -/
def orServerError (rows : Option (List CsvRow)) : Except Response (List CsvRow) :=
  match rows with
  | none => .error serverError
  | some rows => .ok rows

/-- The rows of the file. `files` are those in `CSV_DATA_DIR`, decoded like the upload. -/
def bulkRows (files : String → Option (Option String)) (req : BulkRequest) :
    Except Response (List CsvRow) :=
  match req.namesFile with
  | none => .error serverError
  | some true =>
    match req.json.bind fun data => pyItem data "file" with
    | some (.str path) =>
      match files (baseName path) with
      | none => .error (errorResponse 404 ("File not found: " ++ baseName path))
      | some content => orServerError (content.bind fun text => csvDictRows (fileLines text.toList))
    | _ => .error serverError
  | some false =>
    match req.upload with
    | none => .error (errorResponse 400 "No file provided")
    | some content => orServerError (content.bind fun text => csvDictRows (textLines text.toList))

/-! ## The loop -/

/-- The loop between two rows: the table, the counters, and the rows read so far. -/
structure BulkImport where
  users : Users
  created : Nat
  skipped : Nat
  line : Nat

/-- `row.get(key, "").strip()`; `none` if it raises. -/
def cell (row : CsvRow) (key : String) : Option String := (CsvRow.get row key).map pyStrip

/-- The id a row gives, if it gives one; `none` if `int(row_id)` raises. -/
def explicitId (rowId : String) : Option (Option Int) :=
  if rowId = "" then some none else (csvInt rowId).map some

section Import

variable (dates : String → Option DateTime) (now : Nat → DateTime)

/-- The row with an id that is there. An exception is the value it leaves the sequence at. -/
def replaceUser (st : BulkImport) (existing : User) (username email createdAt : String) :
    Except Int BulkImport :=
  match if createdAt = "" then some existing.createdAt else dates createdAt with
  | none => .error st.users.idSeq
  | some date =>
    match st.users.save { existing with username, email, createdAt := date } with
    | (.error _, users) => .error users.idSeq
    | (.ok (), users) => .ok { st with users, created := st.created + 1, line := st.line + 1 }

/-- `User.select().where((User.username == username) | (User.email == email)).exists()`. -/
def usernameOrEmailTaken (t : Users) (username email : String) : Bool :=
  t.rows.any fun v => v.username == username || v.email == email

/-- A row with a new id, or with none. -/
def addUser (st : BulkImport) (id : Option Int) (username email createdAt : String) :
    Except Int BulkImport :=
  if !(sendable username && sendable email) then .error st.users.idSeq
  else if usernameOrEmailTaken st.users username email then
    .ok { st with skipped := st.skipped + 1, line := st.line + 1 }
  else
    match if createdAt = "" then some (now st.line) else dates createdAt with
    | none => .error st.users.idSeq
    | some date =>
      match st.users.insert id username email date with
      | (.error _, users) => .error users.idSeq
      | (.ok _, users) => .ok { st with users, created := st.created + 1, line := st.line + 1 }

/-- A row with an id that is there replaces that user. -/
def importUser (st : BulkImport) (id : Option Int) (username email createdAt : String) :
    Except Int BulkImport :=
  match id.bind st.users.getById with
  | some existing => replaceUser dates st existing username email createdAt
  | none => addUser dates now st id username email createdAt

/-- One turn of the loop. -/
def importRow (st : BulkImport) (row : CsvRow) : Except Int BulkImport :=
  match cell row "username", cell row "email" with
  | some username, some email =>
    if username = "" ∨ email = "" then .ok { st with line := st.line + 1 }
    else
      match cell row "created_at", (cell row "id").bind explicitId with
      | some createdAt, some id => importUser dates now st id username email createdAt
      | _, _ => .error st.users.idSeq
  | _, _ => .error st.users.idSeq

/-- `SELECT setval('users_id_seq', (SELECT COALESCE(MAX(id), 1) FROM users))`, whose exceptions are
suppressed: a value out of bounds raises. -/
def fixSequence (t : Users) : Users :=
  let id := ((t.rows.map User.id).max?).getD 1
  if id < 1 then t else { t with idSeq := id + 1 }

/-- The answer to a file whose rows are all read. -/
def bulkResponse (created skipped rowCount : Nat) : Response :=
  jsonResponse 201 (.obj [("message", .str ("Imported " ++ toString created ++ " users")),
    ("count", .int created), ("imported", .int created), ("row_count", .int rowCount),
    ("skipped", .int skipped)])

/-- The transaction, and the answer. What raises is rolled back, but not the sequence. -/
def importRows (t : Users) (rows : List CsvRow) : Response × Users :=
  match rows.foldlM (importRow dates now) ⟨t, 0, 0, 0⟩ with
  | .error idSeq => (serverError, { t with idSeq })
  | .ok st => (bulkResponse st.created st.skipped rows.length, fixSequence st.users)

/-- `bulk_load_users`. -/
def bulkLoadUsers (files : String → Option (Option String)) (t : Users) (req : BulkRequest) :
    Response × Users :=
  match bulkRows files req with
  | .error err => (err, t)
  | .ok rows => importRows dates now t rows

end Import

/-! ## The table stays valid -/

section Valid

variable {dates : String → Option DateTime} {now : Nat → DateTime} {st st' : BulkImport}
  {row : CsvRow} {username email createdAt : String} {id : Option Int} {t : Users}

theorem cell_uncut {key s : String} (n : Nat) (h : cell row key = some s) : ¬ CutAt n s := by
  obtain ⟨t, -, rfl⟩ := Option.map_eq_some_iff.1 h
  exact not_cutAt_strip n t

theorem replaceUser_valid {existing : User} (h : st.users.Valid)
    (hcut : Users.Uncut { existing with username, email })
    (hok : replaceUser dates st existing username email createdAt = .ok st') : st'.users.Valid := by
  unfold replaceUser at hok
  split at hok
  · cases hok
  · rename_i date hdate
    have hcut' : Users.Uncut { existing with username, email, createdAt := date } := hcut
    have hsaved := Users.save_valid h hcut'
    split at hok
    · cases hok
    · rename_i users hsave
      cases hok
      rw [hsave] at hsaved
      exact hsaved

theorem addUser_valid (h : st.users.Valid) (hname : ¬ CutAt 100 username)
    (hemail : ¬ CutAt 255 email)
    (hok : addUser dates now st id username email createdAt = .ok st') : st'.users.Valid := by
  unfold addUser at hok
  split at hok
  · cases hok
  · split at hok
    · cases hok
      exact h
    · split at hok
      · cases hok
      · rename_i date hdate
        have hcut : Users.Uncut (st.users.newRow id username email date) := ⟨hname, hemail⟩
        have hinserted := Users.insert_valid h hcut
        split at hok
        · cases hok
        · rename_i u users hinsert
          cases hok
          rw [hinsert] at hinserted
          exact hinserted

/-- A turn of the loop keeps the table valid: its texts are stripped, so none of them is cut. -/
theorem importRow_valid (h : st.users.Valid) (hok : importRow dates now st row = .ok st') :
    st'.users.Valid := by
  unfold importRow at hok
  split at hok
  · rename_i username email hname hemail
    split at hok
    · cases hok
      exact h
    · split at hok
      · unfold importUser at hok
        split at hok
        · exact replaceUser_valid h ⟨cell_uncut 100 hname, cell_uncut 255 hemail⟩ hok
        · exact addUser_valid h (cell_uncut 100 hname) (cell_uncut 255 hemail) hok
      · cases hok
  · cases hok

theorem fixSequence_valid (h : t.Valid) : (fixSequence t).Valid := by
  unfold fixSequence
  dsimp only
  split
  · exact h
  · exact h.with_idSeq _

/-- **A bulk load keeps the table valid**, also one that is rolled back. -/
theorem bulkLoadUsers_valid (dates : String → Option DateTime) (now : Nat → DateTime)
    (files : String → Option (Option String)) (h : t.Valid) (req : BulkRequest) :
    (bulkLoadUsers dates now files t req).2.Valid := by
  unfold bulkLoadUsers
  split
  · exact h
  · rename_i rows hrows
    unfold importRows
    split
    · rename_i idSeq hraise
      exact h.with_idSeq idSeq
    · rename_i st hloop
      refine fixSequence_valid (Lib.foldlM_invariant (I := fun st => st.users.Valid) ?_ h hloop)
      exact fun st row st' _ hst hok => importRow_valid hst hok

end Valid

end PeHackathon.UrlShortener
