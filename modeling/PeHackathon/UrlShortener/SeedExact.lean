import PeHackathon.UrlShortener.Seed

/-!
# What seeding leaves

`seed_exact`: when `seed.py`, run on empty tables, ends with the rows of its files.
-/

namespace PeHackathon.UrlShortener

open Lib

/-! ## Statements -/

structure SeedRows.DistinctKeys (rows : SeedRows) : Prop where
  userIds : (rows.users.map User.id).Nodup
  usernames : (rows.users.map User.username).Nodup
  emails : (rows.users.map User.email).Nodup
  urlIds : (rows.urls.map Url.id).Nodup
  shortCodes : (rows.urls.map Url.shortCode).Nodup
  eventIds : (rows.events.map Event.id).Nodup

structure SeedRows.ValidReferences (rows : SeedRows) : Prop where
  urlUsers : ∀ u ∈ rows.urls, u.userId ∈ rows.users.map User.id
  eventUrls : ∀ e ∈ rows.events, e.urlId ∈ rows.urls.map Url.id
  eventUsers : ∀ e ∈ rows.events, e.userId ∈ rows.users.map User.id

/-- Every value fits its column, and is stored as it is. -/
structure SeedRows.Fit (rows : SeedRows) : Prop where
  users : ∀ u ∈ rows.users, usersTable.store u = some u
  urls : ∀ u ∈ rows.urls, urlsTable.store u = some u
  events : ∀ e ∈ rows.events, eventsTable.store e = some e

/-- The tables contain exactly the rows. -/
structure HoldsExactly (db : Tables) (rows : SeedRows) : Prop where
  users : db.users.Perm rows.users
  urls : db.urls.Perm rows.urls
  events : db.events.Perm rows.events

/-- The tables hold no rows. -/
structure Tables.Empty (db : Tables) : Prop where
  users : db.users = []
  urls : db.urls = []
  events : db.events = []

/-- The default user that the start-up makes on empty tables: none if all three attempts raise
uncommitted. -/
def StartUp.defaultUser? (start : StartUp) : Option User :=
  ((List.range 3).find? fun attempt => start.outcome attempt != .raises).map fun attempt =>
    defaultUser (start.now attempt)

/-- The default user does not stand in the way: there is none, or it is a row of the file that is
skipped, or the only row of the files. -/
def SeedRows.Allows (rows : SeedRows) (flags : SeedFlags) (start : StartUp) : Prop :=
  ∀ d ∈ start.defaultUser?, d ∈ rows.users ∧
    ((flags.merge = true ∧ flags.ifEmpty = false) ∨
      (rows.users = [d] ∧ rows.urls = [] ∧ rows.events = []))

/-! ## Keys -/

section Keys

variable {rows : SeedRows}

theorem usersTable_clash_symm (u v : User) : usersTable.clash u v = usersTable.clash v u := by
  simp only [usersTable, BEq.comm]

theorem usersTable_clash_self (u : User) : usersTable.clash u u = true := by simp [usersTable]

theorem SeedRows.DistinctKeys.users_apart (h : rows.DistinctKeys) :
    rows.users.Pairwise fun u v => usersTable.clash v u = false := by
  have hids := List.pairwise_map.1 h.userIds
  have hnames := List.pairwise_map.1 h.usernames
  have hemails := List.pairwise_map.1 h.emails
  refine ((hids.and hnames).and hemails).imp ?_
  intro u v huv
  simp [usersTable, Ne.symm huv.1.1, Ne.symm huv.1.2, Ne.symm huv.2]

theorem SeedRows.DistinctKeys.urls_apart (h : rows.DistinctKeys) :
    rows.urls.Pairwise fun u v => urlsTable.clash v u = false := by
  have hids := List.pairwise_map.1 h.urlIds
  have hcodes := List.pairwise_map.1 h.shortCodes
  refine (hids.and hcodes).imp ?_
  intro u v huv
  simp [urlsTable, Ne.symm huv.1, Ne.symm huv.2]

theorem SeedRows.DistinctKeys.events_apart (h : rows.DistinctKeys) :
    rows.events.Pairwise fun e f => eventsTable.clash f e = false := by
  have hids := List.pairwise_map.1 h.eventIds
  refine hids.imp ?_
  intro e f hef
  simp [eventsTable, Ne.symm hef]

theorem find?_id_isSome {α : Type} {id : α → Int} {l : List α} {i : Int} (h : i ∈ l.map id) :
    (l.find? fun a => id a == i).isSome = true := by
  obtain ⟨a, ha, hid⟩ := List.mem_map.1 h
  rw [List.find?_isSome]
  exact ⟨a, ha, by simp [hid]⟩

end Keys

/-! ## Stored rows -/

/-- Every row is one the columns take as it is. -/
structure Tables.Stored (db : Tables) : Prop where
  users : ∀ u ∈ db.users, usersTable.store u = some u
  urls : ∀ u ∈ db.urls, urlsTable.store u = some u
  events : ∀ e ∈ db.events, eventsTable.store e = some e

theorem usersTable_store_idem (u row : User) (h : usersTable.store u = some row) :
    usersTable.store row = some row := by
  simp only [usersTable] at h ⊢
  split at h
  · rename_i hid
    rw [storeUser_id h, if_pos hid, storeUser_idem h]
  · cases h

theorem urlsTable_store_idem (u row : Url) (h : urlsTable.store u = some row) :
    urlsTable.store row = some row := by
  simp only [urlsTable] at h ⊢
  split at h
  · rename_i hids
    have hst := storeUrl_storedAs h
    rw [hst.id, hst.userId, if_pos hids, hst.again]
  · cases h

theorem eventsTable_store_idem (e row : Event) (h : eventsTable.store e = some row) :
    eventsTable.store row = some row := by
  simp only [eventsTable] at h ⊢
  split at h
  · rename_i hids
    have hagain := storeEvent_idem h
    obtain ⟨_, _, -, -, rfl⟩ := storeEvent_eq_some.1 h
    rw [if_pos hids, hagain]
  · cases h

theorem defaultUser_fits (now : DateTime) :
    usersTable.store (defaultUser now) = some (defaultUser now) := by
  have hname : varchar 100 (defaultUser now).username = some "default" :=
    varchar_of_fits (s := "default") (by decide) (by decide)
  have hemail : varchar 255 (defaultUser now).email = some "default@example.com" :=
    varchar_of_fits (s := "default@example.com") (by decide) (by decide)
  have hstore : storeUser (defaultUser now) = some (defaultUser now) :=
    storeUser_eq_some.2 ⟨_, _, hname, hemail, rfl⟩
  simp only [usersTable]
  rw [hstore]
  rfl

/-! ## Start-up -/

section

variable {dates : String → Option DateTime} {start : StartUp} {flags : SeedFlags} {merge : Bool}
  {csv : CsvFiles} {rows : SeedRows} {db db' : Tables}

theorem getOrCreateUser_empty (h : db.Empty) (now : DateTime) :
    getOrCreateUser now db = some { db with users := [defaultUser now] } := by
  have hnone : db.userGetById 1 = none := by
    rw [Tables.userGetById, h.users]
    rfl
  have hinsert : usersTable.insertRow (fun _ => true) false db.users (defaultUser now) =
      some (db.users ++ [defaultUser now]) :=
    TableDef.insertRow_of_fits (defaultUser_fits now) (by simp [h.users]) rfl
  rw [getOrCreateUser, hnone]
  dsimp only
  rw [hinsert, h.users]
  rfl

theorem getOrCreateUser_made (db : Tables) (made now : DateTime) :
    getOrCreateUser now { db with users := [defaultUser made] } =
      some { db with users := [defaultUser made] } := rfl

/-- Once the default user is there, the attempts leave it. -/
theorem attemptDefaultUser_made (made : DateTime) (attempts : List Nat) :
    attemptDefaultUser start attempts { db with users := [defaultUser made] } =
      { db with users := [defaultUser made] } := by
  induction attempts with
  | nil => rfl
  | cons attempt rest ih =>
    rw [attemptDefaultUser, getOrCreateUser_made]
    cases start.outcome attempt with
    | returns => rfl
    | raises => exact ih
    | raisesCommitted => exact ih

/-- The first attempt that commits makes the default user. -/
theorem attemptDefaultUser_empty (h : db.Empty) (attempts : List Nat) :
    attemptDefaultUser start attempts db =
      { db with
        users := ((attempts.find? fun attempt => start.outcome attempt != .raises).map
          fun attempt =>
          defaultUser (start.now attempt)).toList } := by
  induction attempts with
  | nil =>
    rw [attemptDefaultUser, List.find?_nil, Option.map_none, Option.toList_none, ← h.users]
  | cons attempt rest ih =>
    rw [attemptDefaultUser, List.find?_cons, getOrCreateUser_empty h]
    cases start.outcome attempt with
    | returns => rfl
    | raises => exact ih
    | raisesCommitted => exact attemptDefaultUser_made _ rest

theorem createApp_empty (h : db.Empty) :
    createApp start db = { db with users := start.defaultUser?.toList } :=
  attemptDefaultUser_empty h _

/-! ## Loads -/

theorem CsvFiles.rows_eq_some (h : csv.rows dates = some rows) :
    csv.users.mapM (CsvUser.row dates) = some rows.users ∧
      csv.urls.mapM (CsvUrl.row dates) = some rows.urls ∧
      csv.events.mapM (CsvEvent.row dates) = some rows.events := by
  simp only [CsvFiles.rows, Option.bind_eq_bind, Option.bind_eq_some_iff] at h
  obtain ⟨users, husers, urls, hurls, events, hevents, hrows⟩ := h
  cases hrows
  exact ⟨husers, hurls, hevents⟩

theorem loadUsers_eq_some : loadUsers dates merge csv db = some db' ↔
    ∃ new users, csv.users.mapM (CsvUser.row dates) = some new ∧
      usersTable.load (fun _ => true) merge 100 db.users new = some users ∧
      db' = { db with users } := by
  simp only [loadUsers, Option.bind_eq_bind, Option.bind_eq_some_iff]
  constructor
  · rintro ⟨new, hnew, users, husers, h⟩
    exact ⟨new, users, hnew, husers, (Option.some.inj h).symm⟩
  · rintro ⟨new, users, hnew, husers, rfl⟩
    exact ⟨new, hnew, users, husers, rfl⟩

theorem loadUrls_eq_some : loadUrls dates merge csv db = some db' ↔
    ∃ new urls, csv.urls.mapM (CsvUrl.row dates) = some new ∧
      urlsTable.load (fun u => (db.userGetById u.userId).isSome) merge 100 db.urls new = some urls ∧
      db' = { db with urls } := by
  simp only [loadUrls, Option.bind_eq_bind, Option.bind_eq_some_iff]
  constructor
  · rintro ⟨new, hnew, urls, hurls, h⟩
    exact ⟨new, urls, hnew, hurls, (Option.some.inj h).symm⟩
  · rintro ⟨new, urls, hnew, hurls, rfl⟩
    exact ⟨new, hnew, urls, hurls, rfl⟩

theorem loadEvents_eq_some : loadEvents dates merge csv db = some db' ↔
    ∃ new events, csv.events.mapM (CsvEvent.row dates) = some new ∧
      eventsTable.load (fun e => (db.urlGetById e.urlId).isSome && (db.userGetById e.userId).isSome)
        merge 100 db.events new = some events ∧
      db' = { db with events } := by
  simp only [loadEvents, Option.bind_eq_bind, Option.bind_eq_some_iff]
  constructor
  · rintro ⟨new, hnew, events, hevents, h⟩
    exact ⟨new, events, hnew, hevents, (Option.some.inj h).symm⟩
  · rintro ⟨new, events, hnew, hevents, rfl⟩
    exact ⟨new, hnew, events, hevents, rfl⟩

/-- What each load preserves, the loads together preserve, whichever of them raises. -/
theorem seedData_invariant {I : Tables → Prop}
    (husers : ∀ db db', I db → loadUsers dates merge csv db = some db' → I db')
    (hurls : ∀ db db', I db → loadUrls dates merge csv db = some db' → I db')
    (hevents : ∀ db db', I db → loadEvents dates merge csv db = some db' → I db')
    (hreset : ∀ db, I db → I (resetSequences db)) (h : I db) :
    I (seedData dates merge csv db).2 := by
  unfold seedData
  split
  · exact h
  · rename_i db₁ h₁
    have hI₁ := husers _ _ h h₁
    split
    · exact hI₁
    · rename_i db₂ h₂
      have hI₂ := hurls _ _ hI₁ h₂
      split
      · exact hI₂
      · rename_i db₃ h₃
        exact hreset _ (hevents _ _ hI₂ h₃)

theorem seedData_stored (h : db.Stored) : (seedData dates merge csv db).2.Stored := by
  refine seedData_invariant ?_ ?_ ?_ (fun db h => ⟨h.users, h.urls, h.events⟩) h
  · intro db db' h hload
    obtain ⟨new, users, -, husers, rfl⟩ := loadUsers_eq_some.1 hload
    exact ⟨TableDef.load_stored (by decide) usersTable_store_idem h.users husers, h.urls, h.events⟩
  · intro db db' h hload
    obtain ⟨new, urls, -, hurls, rfl⟩ := loadUrls_eq_some.1 hload
    exact ⟨h.users, TableDef.load_stored (by decide) urlsTable_store_idem h.urls hurls, h.events⟩
  · intro db db' h hload
    obtain ⟨new, events, -, hevents, rfl⟩ := loadEvents_eq_some.1 hload
    exact ⟨h.users, h.urls, TableDef.load_stored (by decide)
      eventsTable_store_idem h.events hevents⟩

/-- A user that is there stays there. -/
theorem seedData_keeps_user {d : User} (h : d ∈ db.users) :
    d ∈ (seedData dates merge csv db).2.users := by
  refine seedData_invariant (I := fun db => d ∈ db.users) ?_ ?_ ?_ (fun _ h => h) h
  · intro db db' h hload
    obtain ⟨new, users, -, husers, rfl⟩ := loadUsers_eq_some.1 hload
    exact TableDef.load_subset (by decide) husers d h
  · intro db db' h hload
    obtain ⟨new, urls, -, -, rfl⟩ := loadUrls_eq_some.1 hload
    exact h
  · intro db db' h hload
    obtain ⟨new, events, -, -, rfl⟩ := loadEvents_eq_some.1 hload
    exact h

/-- Once the users are loaded, their number stays. -/
theorem seedData_users_length (h : loadUsers dates merge csv db = some db') :
    (seedData dates merge csv db).2.users.length = db'.users.length := by
  unfold seedData
  rw [h]
  dsimp only
  split
  · rfl
  · rename_i db₂ h₂
    obtain ⟨_, urls, -, -, rfl⟩ := loadUrls_eq_some.1 h₂
    split
    · rfl
    · rename_i db₃ h₃
      obtain ⟨_, events, -, -, rfl⟩ := loadEvents_eq_some.1 h₃
      rfl

/-- If the users are loaded, the URLs and the events are. -/
theorem seedData_of_users (hread : csv.rows dates = some rows) (hkeys : rows.DistinctKeys)
    (hrefs : rows.ValidReferences) (hfit : rows.Fit) (hurls : db.urls = [])
    (hevents : db.events = []) {users : List User}
    (husers : usersTable.load (fun _ => true) merge 100 db.users rows.users = some users)
    (hperm : users.Perm rows.users) : HoldsExactly (seedData dates merge csv db).2 rows := by
  obtain ⟨hreadUsers, hreadUrls, hreadEvents⟩ := CsvFiles.rows_eq_some hread
  have hfound : ∀ id ∈ rows.users.map User.id, (users.find? fun u => u.id == id).isSome = true :=
    fun id hid => find?_id_isSome ((hperm.map User.id).mem_iff.2 hid)
  have h₁ : loadUsers dates merge csv db = some { db with users } :=
    loadUsers_eq_some.2 ⟨_, _, hreadUsers, husers, rfl⟩
  have h₂ :
      loadUrls dates merge csv { db with users } = some { db with users, urls := rows.urls } := by
    refine loadUrls_eq_some.2 ⟨_, _, hreadUrls, ?_, rfl⟩
    dsimp only
    rw [hurls]
    exact TableDef.load_of_fits (by decide) hfit.urls hkeys.urls_apart (by simp) fun u hu =>
      hfound _ (hrefs.urlUsers u hu)
  have h₃ : loadEvents dates merge csv { db with users, urls := rows.urls } =
      some { db with users, urls := rows.urls, events := rows.events } := by
    refine loadEvents_eq_some.2 ⟨_, _, hreadEvents, ?_, rfl⟩
    dsimp only
    rw [hevents]
    refine TableDef.load_of_fits (by decide) hfit.events hkeys.events_apart (by simp) fun e he => ?_
    rw [Bool.and_eq_true]
    exact ⟨find?_id_isSome (hrefs.eventUrls e he), hfound _ (hrefs.eventUsers e he)⟩
  unfold seedData
  rw [h₁]
  dsimp only
  rw [h₂]
  dsimp only
  rw [h₃]
  exact ⟨hperm, List.Perm.refl _, List.Perm.refl _⟩

/-! ## The script -/

/-- Tables that hold the rows exactly have taken every value as it is. -/
theorem HoldsExactly.fit (h : HoldsExactly db rows) (hst : db.Stored) : rows.Fit :=
  ⟨fun u hu => hst.users u (h.users.mem_iff.2 hu), fun u hu => hst.urls u (h.urls.mem_iff.2 hu),
    fun e he => hst.events e (h.events.mem_iff.2 he)⟩

theorem createApp_stored (h : db.Empty) : (createApp start db).Stored := by
  rw [createApp_empty h]
  refine ⟨?_, by simp [h.urls], by simp [h.events]⟩
  intro u hu
  obtain ⟨attempt, -, rfl⟩ := Option.map_eq_some_iff.1 (Option.mem_toList.1 hu)
  exact defaultUser_fits _

theorem seedMain_stored (h : db.Empty) : (seedMain dates start flags csv db).2.Stored := by
  unfold seedMain seed
  split
  · exact createApp_stored h
  · exact seedData_stored (createApp_stored h)

/-- Tables with the default user alone. -/
theorem holdsExactly_default (h : db.Empty) (d : User) :
    HoldsExactly { db with users := [d] } rows ↔
      rows.users = [d] ∧ rows.urls = [] ∧ rows.events = [] := by
  constructor
  · intro hex
    have hurls := hex.urls
    have hevents := hex.events
    rw [h.urls] at hurls
    rw [h.events] at hevents
    exact ⟨(List.singleton_perm.1 hex.users).symm, List.nil_perm.1 hurls, List.nil_perm.1 hevents⟩
  · rintro ⟨husers, hurls, hevents⟩
    refine ⟨?_, ?_, ?_⟩
    · rw [husers]
    · rw [hurls, ← h.urls]
    · rw [hevents, ← h.events]

/-- With `--merge` the default user is skipped in the file, or stays beside it. -/
theorem seedData_merge {d : User} (hread : csv.rows dates = some rows) (hkeys : rows.DistinctKeys)
    (hrefs : rows.ValidReferences) (hfit : rows.Fit) (h : db.Empty) :
    HoldsExactly (seedData dates true csv { db with users := [d] }).2 rows ↔ d ∈ rows.users := by
  constructor
  · intro hex
    exact hex.users.mem_iff.1 (seedData_keeps_user (List.mem_singleton_self d))
  · intro hd
    obtain ⟨l, hload, hperm⟩ :=
      TableDef.load_ignore_of_mem (by decide : 0 < 100) hfit.users hkeys.users_apart
      usersTable_clash_symm (usersTable_clash_self d) hd fun _ _ => rfl
    exact seedData_of_users hread hkeys hrefs hfit h.urls h.events hload hperm

/-- Without `--merge` the load of the users raises, or they are there beside the default user. -/
theorem seedData_plain {d : User} (hdfit : usersTable.store d = some d)
    (hread : csv.rows dates = some rows) (h : db.Empty) :
    HoldsExactly (seedData dates false csv { db with users := [d] }).2 rows ↔
      rows.users = [d] ∧ rows.urls = [] ∧ rows.events = [] := by
  have hreadUsers := (CsvFiles.rows_eq_some hread).1
  cases hload : loadUsers dates false csv { db with users := [d] } with
  | none =>
    have hkeep :
        (seedData dates false csv { db with users := [d] }).2 = { db with users := [d] } := by
      rw [seedData, hload]
    rw [hkeep]
    exact holdsExactly_default h d
  | some db' =>
    obtain ⟨new, users, hnew, husers, rfl⟩ := loadUsers_eq_some.1 hload
    obtain rfl : rows.users = new := Option.some.inj (hreadUsers.symm.trans hnew)
    have hlength := TableDef.load_length (by decide) husers
    constructor
    · intro hex
      -- one row too many
      have hcount := hex.users.length_eq
      rw [seedData_users_length hload] at hcount
      dsimp only at hcount hlength
      simp only [List.length_singleton] at hlength
      omega
    · rintro ⟨honly, -, -⟩
      have hclash : usersTable.insertRow (fun _ => true) false [d] d = none := by
        simp [TableDef.insertRow, hdfit, usersTable_clash_self]
      rw [TableDef.load_eq _ _ _ (by decide : 0 < 100), honly] at husers
      simp only [List.foldlM_cons, hclash] at husers
      cases husers

/-- The whole script on empty tables, when every value fits. -/
theorem seedMain_exact (hread : csv.rows dates = some rows) (hkeys : rows.DistinctKeys)
    (hrefs : rows.ValidReferences) (hfit : rows.Fit) (h : db.Empty) :
    HoldsExactly (seedMain dates start flags csv db).2 rows ↔ rows.Allows flags start := by
  have happ : createApp start db = { db with users := start.defaultUser?.toList } :=
    createApp_empty h
  unfold seedMain seed SeedRows.Allows
  rw [happ]
  cases hd : start.defaultUser? with
  | none =>
    -- the tables are empty still, and every mode loads the files
    have hload :
        usersTable.load (fun _ => true) flags.merge 100 [] rows.users = some ([] ++ rows.users) :=
      TableDef.load_of_fits (by decide) hfit.users hkeys.users_apart (by simp) fun _ _ => rfl
    have hexact : HoldsExactly (seedData dates flags.merge csv { db with users := [] }).2 rows :=
      seedData_of_users hread hkeys hrefs hfit h.urls h.events hload (List.Perm.refl _)
    simpa using hexact
  | some d =>
    have hdfit : usersTable.store d = some d := by
      obtain ⟨attempt, -, rfl⟩ := Option.map_eq_some_iff.1 hd
      exact defaultUser_fits _
    have honly : rows.users = [d] → d ∈ rows.users := fun honly => honly ▸ List.mem_singleton_self d
    rw [Option.toList_some]
    cases hempty : flags.ifEmpty with
    | true =>
      -- the default user makes the script skip the files
      have hskip : HoldsExactly { db with users := [d] } rows ↔ _ := holdsExactly_default h d
      simpa using hskip.trans (by tauto)
    | false =>
      cases hmerge : flags.merge with
      | true => simpa using seedData_merge (d := d) hread hkeys hrefs hfit h
      | false => simpa using (seedData_plain hdfit hread h).trans (by tauto)

/-- **Seeding empty tables**: with files whose rows have distinct keys and refer to rows of the
files, the tables end up with exactly these rows just when every number and date can be read, every
value fits its column, and the default user that the start-up has made does not stand in the way. -/
theorem seed_exact (dates : String → Option DateTime) (start : StartUp) (flags : SeedFlags)
    (csv : CsvFiles) (db : Tables) (hempty : db.Empty)
    (hkeys : ∀ rows, csv.rows dates = some rows → rows.DistinctKeys)
    (hrefs : ∀ rows, csv.rows dates = some rows → rows.ValidReferences) :
    (∃ rows, csv.rows dates = some rows ∧ HoldsExactly (seedMain dates start flags csv db).2 rows) ↔
      ∃ rows, csv.rows dates = some rows ∧ rows.Fit ∧ rows.Allows flags start := by
  refine exists_congr fun rows => and_congr_right fun hread => ?_
  constructor
  · intro hex
    have hfit := hex.fit (seedMain_stored hempty)
    exact ⟨hfit, (seedMain_exact hread (hkeys rows hread) (hrefs rows hread) hfit hempty).1 hex⟩
  · rintro ⟨hfit, hallows⟩
    exact (seedMain_exact hread (hkeys rows hread) (hrefs rows hread) hfit hempty).2 hallows

end

/-! ## Small files -/

def seedTime : DateTime := ⟨2026, 1, 1, 0, 0, 0, 0⟩

def seedDates (s : String) : Option DateTime :=
  if s = "2026-01-01 00:00:00" then some seedTime else none

/-- A start-up at `seedTime`, with a first attempt that raises. -/
def slowStart : StartUp :=
  ⟨fun attempt => if attempt = 0 then .raises else .returns, fun _ => seedTime⟩

def noRows : Tables := ⟨[], [], [], 1, 1⟩

/-- Files with users of these names, and a URL of the first. -/
def seedFiles (names : List String) : CsvFiles where
  users := names.mapIdx fun i name => ⟨toString (i + 1), name, name ++ "@example.com",
    "2026-01-01 00:00:00"⟩
  urls := [⟨"7", "1", "WqxP6K", "https://seeded.app/gold", "Service guide", "True",
    "2026-01-01 00:00:00", "2026-01-01 00:00:00"⟩]
  events := []

def seedRowsOf (names : List String) : SeedRows where
  users := names.mapIdx fun i name => ⟨i + 1, name, name ++ "@example.com", seedTime⟩
  urls := [⟨7, 1, "WqxP6K", "https://seeded.app/gold", some "Service guide", true, seedTime,
    seedTime⟩]
  events := []

theorem seedFiles_rows : (seedFiles ["default", "proudyard00"]).rows seedDates =
    some (seedRowsOf ["default", "proudyard00"]) := by decide

theorem seed_exact_sample :
    ∃ rows, (seedFiles ["default", "proudyard00"]).rows seedDates = some rows ∧
    HoldsExactly (seedMain seedDates slowStart ⟨true, false⟩
      (seedFiles ["default", "proudyard00"]) noRows).2 rows := by
  refine (seed_exact seedDates slowStart ⟨true, false⟩ (seedFiles ["default", "proudyard00"]) noRows
    ⟨rfl, rfl, rfl⟩ ?_ ?_).2 ⟨_, seedFiles_rows, ⟨by decide, by decide, by decide⟩, ?_⟩
  · intro rows hrows
    cases seedFiles_rows.symm.trans hrows
    exact ⟨by decide, by decide, by decide, by decide, by decide, by decide⟩
  · intro rows hrows
    cases seedFiles_rows.symm.trans hrows
    exact ⟨by decide, by decide, by decide⟩
  · intro d hd
    cases hd
    exact ⟨by decide, .inl ⟨rfl, rfl⟩⟩

theorem seedFiles_rows_one : (seedFiles ["briskkernel84"]).rows seedDates =
    some (seedRowsOf ["briskkernel84"]) := by decide

/-- A user of another name under id 1: the default user takes its place, or the script raises, in
every mode. -/
theorem seed_keeps_default : noRows.Empty ∧ (seedFiles ["briskkernel84"]).rows seedDates =
      some (seedRowsOf ["briskkernel84"]) ∧
    (seedRowsOf ["briskkernel84"]).DistinctKeys ∧ (seedRowsOf ["briskkernel84"]).ValidReferences ∧
    ∀ flags, ¬ HoldsExactly
      (seedMain seedDates ⟨fun _ => .returns, fun _ => seedTime⟩ flags
        (seedFiles ["briskkernel84"]) noRows).2
      (seedRowsOf ["briskkernel84"]) := by
  have hkeys : (seedRowsOf ["briskkernel84"]).DistinctKeys :=
    ⟨by decide, by decide, by decide, by decide, by decide, by decide⟩
  have hrefs : (seedRowsOf ["briskkernel84"]).ValidReferences := ⟨by decide, by decide, by decide⟩
  refine ⟨⟨rfl, rfl, rfl⟩, seedFiles_rows_one, hkeys, hrefs, ?_⟩
  intro flags hex
  have hallows := (seedMain_exact seedFiles_rows_one hkeys hrefs ⟨by decide, by decide, by decide⟩
    ⟨rfl, rfl, rfl⟩).1 hex
  exact absurd (hallows (defaultUser seedTime) rfl).1 (by decide)

end PeHackathon.UrlShortener
