import PeHackathon.UrlShortener.CreateInput

/-!
# Bad input

Bad input is never to become an error of the server, and a refusal is never to change the tables.
`withstands_iff` says for which requests, in which state, that is so: each handler checks a part of
what it hands on, and what it does not check raises in `urlparse`, in PostgreSQL, in the loop of a
bulk load, or in the headers of a response.
-/

namespace PeHackathon.UrlShortener

open Lib

/-- The request is answered below 500, and if it is refused, the tables are as they were. -/
def Withstands (env : Surroundings) (app : App) (st : Service) (req : ServiceRequest) : Prop :=
  ∃ a after, serveRoute env app st req = some (a, after) ∧ WellAnswered st.tables a after

/-! ## What the handlers accept -/

def ApiRequest.Accepted (app : App) (flask : Flask) (w : World Unit) : ApiRequest → Prop
  | .url (.createShortUrl body _ rng) => CreateAccepted app w.db.toTables rng body
  | .url (.listUrls page perPage _ _) => ListAccepted app w page perPage
  | .url (.updateUrl urlId body _) => UpdateAccepted app w.db.toTables urlId body
  | .url (.deleteUrl urlId _) => DeleteAccepted w.db.toTables urlId
  | .url (.redirectToUrl code _) => RedirectAccepted app flask w code
  | .url (.expire _) => True
  | .createEvent body _ => EventAccepted w.db.toTables body

/-- The file of a bulk load can be read: if the body names one, it does so with a text, and the text
of the file can be decoded and parsed. -/
def FileReads (files : String → Option (Option String)) (req : BulkRequest) : Prop :=
  match req.namesFile with
  | none => False
  | some true => ∃ path, (req.json.bind fun data => pyItem data "file") = some (.str path) ∧
      ∀ content, files (baseName path) = some content →
        (content.bind fun text => csvDictRows (fileLines text.toList)).isSome = true
  | some false => ∀ content, req.upload = some content →
      (content.bind fun text => csvDictRows (textLines text.toList)).isSome = true

/-- Each row is passed over, or fits what the rows before it have left. -/
def RowsAccepted (dates : String → Option DateTime) (now : Nat → DateTime) (st : BulkImport)
    (rows : List CsvRow) : Prop :=
  Throughout (fun st row => RowBlank row ∨ RowFits dates st row) (afterRow dates now) st rows

/-- The file can be read, and so can all its rows. -/
def BulkAccepted (env : Surroundings) (now : Nat → DateTime) (t : Users) (req : BulkRequest) :
    Prop :=
  FileReads env.files req ∧
    ∀ rows, bulkRows env.files req = .ok rows → RowsAccepted env.dates now ⟨t, 0, 0, 0⟩ rows

/-- What a handler has to be given for a good answer. -/
def ServiceRequest.Accepted (env : Surroundings) (app : App) (st : Service) : ServiceRequest → Prop
  | .api r => r.Accepted app env.flask st.world
  | .listEvents page perPage filter =>
    filter.eventType.all sendable = true ∧ Tables.pageInRange page (min perPage 100) = true
  | .listUsers page perPage => Tables.pageInRange page (min perPage 100) = true
  | .deleteUser userId =>
    (st.tables.userGetById userId).isSome = true → st.tables.refersTo userId = false
  | .bulkLoadUsers req now => BulkAccepted env now st.users req
  | .getUrl _ | .listUserUrls _ | .listUrlEvents _ | .getUser _ | .createUser _ _
  | .updateUser _ _ => True

section Routes

variable {env : Surroundings} {app : App} {st : Service} {req : ServiceRequest} {a : Response}
  {after : Tables}

/-! ## Requests to the world -/

/-- **A request to these routes is answered well** exactly if it is accepted. -/
theorem handleApi_answersWell {scanner : Scanner} {flask : Flask} {w : World Unit}
    (hfuel : scanner.bound < app.scanFuel) (r : ApiRequest) :
    (server scanner).Finishes () () (handleApi app r) (AnswersWell flask w.db.toTables) w ↔
      r.Accepted app flask w := by
  cases r with
  | createEvent body now => exact createEvent_answersWell body now
  | url r =>
    cases r with
    | createShortUrl body now rng => exact createShortUrl_answersWell hfuel body now rng
    | listUrls page perPage userId isActive =>
      exact listUrls_answersWell page perPage userId isActive
    | updateUrl urlId body now => exact updateUrl_answersWell hfuel urlId body now
    | deleteUrl urlId now => exact deleteUrl_answersWell hfuel urlId now
    | redirectToUrl code now => exact redirectToUrl_answersWell code now
    | expire key =>
      exact iff_of_true ⟨_, _, rfl, answersWell_done rfl (by decide : 0 < 400)⟩ trivial

/-! ## Reads -/

theorem withstands_answer (h : serveRoute env app st req = some (a, after)) :
    Withstands env app st req ↔ WellAnswered st.tables a after := by
  unfold Withstands
  rw [h]
  constructor
  · rintro ⟨a', after', heq, hgood⟩
    cases heq
    exact hgood
  · exact fun hgood => ⟨a, after, rfl, hgood⟩

theorem getUrl_status (db : Tables) (urlId : Int) : (getUrl db urlId).status < 500 := by
  unfold getUrl
  split
  · exact (by decide : 404 < 500)
  · exact (by decide : 200 < 500)

theorem getUser_status (db : Tables) (userId : Int) : (getUser db userId).status < 500 := by
  unfold getUser
  split
  · exact (by decide : 404 < 500)
  · exact (by decide : 200 < 500)

/-- The owner of each URL is there. -/
theorem listUserUrls_status {db : Tables} (h : db.Valid) (userId : Int) :
    (listUserUrls db userId).status < 500 := by
  unfold listUserUrls
  split
  · exact (by decide : 404 < 500)
  · have howned : ∀ u ∈ db.orderedUrls ⟨some userId, none⟩, (urlWithUser db u).isSome = true :=
        fun u hu =>
      urlWithUser_isSome h (List.mem_of_mem_filter ((List.mem_insertionSort _).1 hu))
    obtain ⟨rows, hrows⟩ := mapM_of_all howned
    rw [hrows]
    exact (by decide : 200 < 500)

/-- So are the URL and the user of each event. -/
theorem listUrlEvents_status (st : Service) (urlId : Int) :
    (listUrlEvents st.tables urlId).status < 500 := by
  unfold listUrlEvents
  split
  · exact (by decide : 404 < 500)
  · have howned : ∀ e ∈ st.tables.orderedEvents ⟨some urlId, none, none⟩,
        (eventWithRows st.tables e).isSome = true := by
      intro e he
      obtain ⟨hurl, huser⟩ :=
        st.eventsOwned e (List.mem_of_mem_filter ((List.mem_insertionSort _).1 he))
      exact eventWithRows_isSome st.world.db.valid hurl huser
    obtain ⟨rows, hrows⟩ := mapM_of_all howned
    rw [hrows]
    exact (by decide : 200 < 500)

theorem pageRows_cases {α : Type} (order : List α) (page perPage : Int) :
    (Tables.pageInRange page perPage = true ∧ ∃ rows, pageRows order page perPage = .ok rows) ∨
      (¬ Tables.pageInRange page perPage = true ∧ pageRows order page perPage = .error .data) := by
  unfold pageRows
  by_cases hrange : Tables.pageInRange page perPage = true
  · rw [if_pos hrange]
    exact .inl ⟨hrange, _, rfl⟩
  · rw [if_neg hrange]
    exact .inr ⟨hrange, rfl⟩

theorem listUsers_wellAnswered (db : Tables) (page perPage : Int) :
    WellAnswered db (listUsers db page perPage) db ↔
      Tables.pageInRange page (min perPage 100) = true := by
  unfold listUsers listUsersRows
  rcases pageRows_cases db.orderedUsers page (min perPage 100) with ⟨hrange, rows,
    hrows⟩ | ⟨hrange, hrows⟩
  · rw [hrows]
    exact iff_of_true (wellAnswered_same (by decide : 200 < 500)) hrange
  · rw [hrows]
    exact iff_of_false not_wellAnswered hrange

theorem listEvents_wellAnswered (db : Tables) (page perPage : Int) (filter : EventFilter) :
    WellAnswered db (listEvents db page perPage filter) db ↔
      filter.eventType.all sendable = true ∧ Tables.pageInRange page (min perPage 100) = true := by
  unfold listEvents listEventsRows
  by_cases htype : filter.eventType.all sendable = true
  · rw [if_pos htype]
    rcases pageRows_cases (db.orderedEvents filter) page (min perPage 100) with ⟨hrange, rows,
      hrows⟩ | ⟨hrange, hrows⟩
    · rw [hrows]
      exact iff_of_true (wellAnswered_same (by decide : 200 < 500)) ⟨htype, hrange⟩
    · rw [hrows]
      exact iff_of_false not_wellAnswered fun h => hrange h.2
  · rw [if_neg htype]
    exact iff_of_false not_wellAnswered fun h => htype h.1

/-! ## Users -/

theorem onUsers_wellAnswered {answer : Response × Users} (h : answer.1.status < 500)
    (hrows : 400 ≤ answer.1.status → answer.2.rows = st.tables.users) :
    WellAnswered st.tables (st.onUsers answer).1 (st.onUsers answer).2 :=
  ⟨h, fun hstatus => ⟨hrows hstatus, rfl, rfl⟩⟩

theorem Users.insert_error {t t' : Users} {id : Option Int} {username email : String}
    {createdAt : DateTime} {err : UserWriteError}
    (h : t.insert id username email createdAt = (.error err, t')) : t'.rows = t.rows := by
  unfold insert at h
  split at h
  · cases h
    rfl
  · dsimp only at h
    split at h
    · cases h
      rfl
    · split at h
      · cases h
        rfl
      · cases h

theorem Users.save_error {t t' : Users} {user : User} {err : UserWriteError}
    (h : t.save user = (.error err, t')) :
    t' = t := by
  unfold save at h
  split at h
  · cases h
    rfl
  · split at h
    · cases h
      rfl
    · cases h

/-- `create_user` answers every exception of its write with 409. -/
theorem createUser_wellAnswered (st : Service) (body : Body) (now : DateTime) :
    WellAnswered st.tables (st.onUsers (createUser st.users now .up body)).1
      (st.onUsers (createUser st.users now .up body)).2 := by
  have hcreated : ¬ 400 ≤ 201 := by decide
  unfold createUser Link.carry
  cases hsub : submittedUser body with
  | error err => exact onUsers_wellAnswered (submittedUser_status hsub).2 fun _ => rfl
  | ok submitted =>
    dsimp only
    cases hwrite : st.users.insert none submitted.1 submitted.2 now with
    | mk result t =>
      cases result with
      | error err =>
        exact onUsers_wellAnswered (by decide : 409 < 500) fun _ => Users.insert_error hwrite
      | ok user =>
        exact onUsers_wellAnswered (by decide : 201 < 500) fun hstatus => absurd hstatus hcreated

theorem updateUser_wellAnswered (st : Service) (userId : Int) (body : Body) :
    WellAnswered st.tables (st.onUsers (updateUser st.users .up userId body)).1
      (st.onUsers (updateUser st.users .up userId body)).2 := by
  have hupdated : ¬ 400 ≤ 200 := by decide
  unfold updateUser Link.carry
  rcases submittedUpdate_cases st.users userId body with ⟨err, hsub, -, hstatus⟩ | ⟨data, old, user,
    -, hsub, -⟩
  · rw [hsub]
    exact onUsers_wellAnswered hstatus fun _ => rfl
  · rw [hsub]
    dsimp only
    cases hwrite : st.users.save user with
    | mk result t =>
      cases result with
      | error err =>
        refine onUsers_wellAnswered (by decide : 409 < 500) fun _ => ?_
        rw [Users.save_error hwrite]
        rfl
      | ok done =>
        exact onUsers_wellAnswered (by decide : 200 < 500) fun hstatus => absurd hstatus hupdated

/-- A `DELETE` that PostgreSQL refuses is an error of the server. -/
theorem deleteUser_wellAnswered (db : Tables) (userId : Int) :
    WellAnswered db (deleteUser db userId).1 (deleteUser db userId).2 ↔
      ((db.userGetById userId).isSome = true → db.refersTo userId = false) := by
  unfold deleteUser Tables.deleteUser
  cases db.userGetById userId with
  | none =>
    refine iff_of_true (wellAnswered_same (by decide : 404 < 500)) fun h => ?_
    cases h
  | some user =>
    dsimp only
    cases hrefers : db.refersTo userId with
    | true =>
      refine iff_of_false not_wellAnswered fun h => ?_
      cases h rfl
    | false => exact iff_of_true (wellAnswered_done (by decide : 200 < 400)) fun _ => rfl

/-! ## The bulk load -/

theorem orServerError_cases (rows : Option (List CsvRow)) :
    (rows.isSome = true ∧ ∃ l, orServerError rows = .ok l) ∨
      (¬ rows.isSome = true ∧ orServerError rows = .error serverError) := by
  cases rows with
  | none => exact .inr ⟨Bool.false_ne_true, rfl⟩
  | some l => exact .inl ⟨rfl, l, rfl⟩

/-- A file is refused, or it raises, or its rows are read. -/
theorem bulkRows_cases (files : String → Option (Option String)) (req : BulkRequest) :
    (FileReads files req ∧
      ((∃ status message, bulkRows files req = .error (errorResponse status message) ∧
        status < 500) ∨
      ∃ rows, bulkRows files req = .ok rows)) ∨
    (¬ FileReads files req ∧ bulkRows files req = .error serverError) := by
  unfold FileReads bulkRows
  cases req.namesFile with
  | none => exact .inr ⟨id, rfl⟩
  | some names =>
    cases names with
    | true =>
      dsimp only
      cases hitem : req.json.bind fun data => pyItem data "file" with
      | none => exact .inr ⟨by rintro ⟨path, ⟨⟩, -⟩, rfl⟩
      | some item =>
        cases item with
        | str path =>
          dsimp only
          cases hfile : files (baseName path) with
          | none =>
            refine .inl ⟨⟨path, rfl, fun content hcontent => ?_⟩, .inl ⟨404, _, rfl, by decide⟩⟩
            rw [hfile] at hcontent
            cases hcontent
          | some content =>
            rcases orServerError_cases (content.bind fun text =>
                csvDictRows (fileLines text.toList)) with
              ⟨hreads, rows, hrows⟩ | ⟨hraises, herror⟩
            · refine .inl ⟨⟨path, rfl, fun content' hcontent => ?_⟩, .inr ⟨rows, hrows⟩⟩
              rw [hfile] at hcontent
              cases hcontent
              exact hreads
            · refine .inr ⟨?_, herror⟩
              rintro ⟨path', hpath, hreads⟩
              cases hpath
              exact hraises (hreads content hfile)
        | _ => exact .inr ⟨by rintro ⟨path, ⟨⟩, -⟩, rfl⟩
    | false =>
      dsimp only
      cases req.upload with
      | none =>
        refine .inl ⟨fun content hcontent => ?_, .inl ⟨400, _, rfl, by decide⟩⟩
        cases hcontent
      | some content =>
        rcases orServerError_cases (content.bind fun text =>
            csvDictRows (textLines text.toList)) with
          ⟨hreads, rows, hrows⟩ | ⟨hraises, herror⟩
        · refine .inl ⟨fun content' hcontent => ?_, .inr ⟨rows, hrows⟩⟩
          cases hcontent
          exact hreads
        · exact .inr ⟨fun h => hraises (h content rfl), herror⟩

section Rows

variable {dates : String → Option DateTime} {now : Nat → DateTime} {s s' : BulkImport}
  {row : CsvRow} {rows : List CsvRow}

theorem importRow_blank (h : RowBlank row) :
    importRow dates now s row = .ok { s with line := s.line + 1 } := by
  obtain ⟨username, email, hname, hemail, hblank⟩ := h
  unfold importRow
  rw [hname, hemail]
  exact if_pos hblank

/-- A row does not raise exactly if it is passed over or fits. -/
theorem importRow_ok_iff :
    (∃ s', importRow dates now s row = .ok s') ↔ RowBlank row ∨ RowFits dates s row := by
  rcases importRow_cases dates now s row with ⟨hfits, ⟨users, himport, -⟩ | hskip⟩ |
    ⟨hnot, ⟨hblank, hpass⟩ | ⟨idSeq, hraise⟩⟩
  · exact iff_of_true ⟨_, himport⟩ (.inr hfits)
  · exact iff_of_true ⟨_, hskip⟩ (.inr hfits)
  · exact iff_of_true ⟨_, hpass⟩ (.inl hblank)
  · refine iff_of_false ?_ fun h => h.elim (fun hblank => ?_) hnot
    · rintro ⟨s', hok⟩
      cases hraise.symm.trans hok
    · cases hraise.symm.trans (importRow_blank hblank)

/-- The loop gets through the rows exactly if none of them raises where it stands. -/
theorem importRows_ok_iff :
    (∃ s', rows.foldlM (importRow dates now) s = .ok s') ↔ RowsAccepted dates now s rows := by
  induction rows generalizing s with
  | nil => exact iff_of_true ⟨s, rfl⟩ trivial
  | cons row rows ih =>
    rw [List.foldlM_cons]
    cases hrow : importRow dates now s row with
    | error idSeq =>
      refine iff_of_false ?_ fun h => ?_
      · rintro ⟨s', hrun⟩
        cases hrun
      · obtain ⟨s', hok⟩ := importRow_ok_iff.2 h.1
        cases hrow.symm.trans hok
    | ok next =>
      have hafter : afterRow dates now s row = next := by rw [afterRow, hrow]
      have hrest : (∃ s', rows.foldlM (importRow dates now) next = .ok s') ↔
        RowsAccepted dates now next rows := ih
      rw [← hafter] at hrest
      constructor
      · rintro ⟨s', hrun⟩
        exact ⟨importRow_ok_iff.1 ⟨next, hrow⟩, hrest.1 ⟨s', hafter ▸ hrun⟩⟩
      · intro h
        obtain ⟨s', hrun⟩ := hrest.2 h.2
        exact ⟨s', hafter ▸ hrun⟩

end Rows

/-- A bulk load is answered well exactly if its file and its rows can be read. -/
theorem bulkLoadUsers_wellAnswered (env : Surroundings) (st : Service) (req : BulkRequest)
    (now : Nat → DateTime) :
    WellAnswered st.tables (st.onUsers (bulkLoadUsers env.dates now env.files st.users req)).1
        (st.onUsers (bulkLoadUsers env.dates now env.files st.users req)).2 ↔
          BulkAccepted env now st.users req := by
  unfold bulkLoadUsers
  rcases bulkRows_cases env.files req with ⟨hreads,
    ⟨status, message, hrefused, hstatus⟩ | ⟨rows, hrows⟩⟩ |
    ⟨hraises, herror⟩
  · rw [hrefused]
    refine iff_of_true (onUsers_wellAnswered hstatus fun _ => rfl) ⟨hreads, fun rows hrows => ?_⟩
    cases hrefused.symm.trans hrows
  · have haccepted : BulkAccepted env now st.users req ↔
        RowsAccepted env.dates now ⟨st.users, 0, 0, 0⟩ rows := by
      constructor
      · exact fun h => h.2 rows hrows
      · refine fun h => ⟨hreads, fun rows' hrows' => ?_⟩
        cases hrows.symm.trans hrows'
        exact h
    rw [haccepted, hrows, ← importRows_ok_iff]
    dsimp only
    unfold importRows
    cases rows.foldlM (importRow env.dates now) ⟨st.users, 0, 0, 0⟩ with
    | error idSeq =>
      refine iff_of_false not_wellAnswered ?_
      rintro ⟨s', hrun⟩
      cases hrun
    | ok s' => exact iff_of_true (wellAnswered_done (by decide : 201 < 400)) ⟨s', rfl⟩
  · rw [herror]
    exact iff_of_false not_wellAnswered fun h => hraises h.1

end Routes

def sampleSurroundings : Surroundings where
  scanner := .onePage
  flask := sampleFlask
  dates _ := none
  files _ := none

def sampleService : Service where
  world := .start sampleDb
  usersIdSeq := 2
  eventsOwned _ he := absurd he List.not_mem_nil

/-- A row with an address that was accepted: `urlparse` takes the newline out. -/
def lineDb : Db where
  users := [sampleUser]
  urls := [{ sampleUrl with originalUrl := "https://old\n.example" }]
  events := []
  urlsIdSeq := 2
  eventsIdSeq := 1
  valid := by decide

example :
    validateUrl sampleApp.hosts (.str "https://old\n.example") = .valid "https://old\n.example" :=
  rfl

def lineService : Service where
  world := .start lineDb
  usersIdSeq := 2
  eventsOwned _ he := absurd he List.not_mem_nil

/-- An event was loaded with its id, and the sequence is where it was. -/
def lagDb : Db where
  users := [sampleUser]
  urls := [sampleUrl]
  events :=
    [{ id := 1, urlId := 1, userId := 1, eventType := "click", timestamp := sampleTime 1,
       details := "\x7b\x7d" }]
  urlsIdSeq := 2
  eventsIdSeq := 1
  valid := by decide

def lagService : Service where
  world := .start lagDb
  usersIdSeq := 2
  eventsOwned := by decide

end PeHackathon.UrlShortener
