import PeHackathon.UrlShortener.KeptUrl
import PeHackathon.UrlShortener.UrlMap

/-!
# Issued short codes

A create answers 201 with a short code, and `GET /<short_code>` is to lead to the address from then
on. The code is any text of the client that the column takes, while the path goes through the whole
URL map: `code_resolves_iff` says which codes lead where they should for as long as the URL is
neither updated nor deleted.
-/

namespace PeHackathon.UrlShortener

open Lib

/-! ## A GET -/

/-- What the app asks of Flask: the router, and whether a text can be sent as a `Location`. -/
structure Flask where
  router : Router urlMap
  sendsLocation : String → Bool

/-- The response of a view as Flask sends it: a location that cannot be sent is an error of the
server. -/
def Flask.send (flask : Flask) (a : Response) : Response :=
  match a.location with
  | some location => if flask.sendsLocation location then a else serverError
  | none => a

/-- What is answered to a `GET`. No view but `redirect_to_url` redirects, and the router does so
with 308. -/
inductive Answered
  | redirectToUrl (a : Response)
  | otherwise (d : Dispatch View)

/-- `GET` of a path, as it stands in the request. -/
def getTarget (flask : Flask) (scanner : Scanner) (app : App) (target : List Char) (now : DateTime)
    (w : World Unit) :
    Option Answered :=
  match getPath flask.router target with
  | .view .redirectToUrl [code] =>
    (serveApi scanner app (.url (.redirectToUrl (String.ofList code) now)) w).map fun aw =>
      .redirectToUrl (flask.send aw.1)
  | d => some (.otherwise d)

/-! ## What comes later -/

/-- The table of users is another one; the foreign key of `urls` refuses to leave a URL without its
user. -/
def Db.withUsers (db : Db) (users : List User) : Db :=
  if h : ({ db.toTables with users } : Tables).Valid then ⟨{ db.toTables with users }, h⟩ else db

/-- A request, or whatever the user routes make of their table. -/
inductive LaterStep
  | request (r : ApiRequest)
  | users (rows : List User)

def LaterStep.writes : LaterStep → Option Int
  | .request r => r.writes
  | .users _ => none

section

variable (flask : Flask) (scanner : Scanner) (app : App)

def LaterStep.serve : LaterStep → World Unit → Option (World Unit)
  | .request r, w => (serveApi scanner app r w).map Prod.snd
  | .users rows, w => some { w with db := w.db.withUsers rows }

def laterHistory : List LaterStep → World Unit → Option (World Unit)
  | [], w => some w
  | s :: later, w => (s.serve scanner app w).bind (laterHistory later)

/-- The create is answered 201, with the row `u`. -/
def CreateAnswers (body : Body) (now : DateTime) (rng : Nat → GeneratedCode)
    (w : World Unit) (u : Url) (w₁ : World Unit) : Prop :=
  ∃ userId, serveApi scanner app (.url (.createShortUrl body now rng)) w =
    some (jsonResponse 201 (urlJson DateTime.httpDate userId u), w₁)

/-- As long as the URL is neither updated nor deleted, its short code leads to its address. -/
def CodeResolves (u : Url) (w : World Unit) : Prop :=
  ∀ later w', laterHistory scanner app later w = some w' → (∀ s ∈ later, s.writes ≠ some u.id) →
    ∀ now, getTarget flask scanner app (codePath u.shortCode) now w' =
      some (.redirectToUrl (redirectResponse u.originalUrl))

/-- The code is one segment and no page, and both texts are stored as they are; the address can be
sent. -/
structure Resolvable (u : Url) : Prop where
  segment : '/' ∉ u.shortCode.toList
  page : u.shortCode ∉ ownPages
  code : ¬ CutAt 20 u.shortCode
  url : ¬ CutAt 2048 u.originalUrl
  location : flask.sendsLocation u.originalUrl = true

end

/-! ## The create -/

section Create

variable {scanner : Scanner} {app : App} {w w₁ : World Unit} {u : Url}

/-- What a create leaves: the row as the columns store it, and the entry. -/
structure Issued (app : App) (u : Url) (w : World Unit) : Prop where
  row : ∃ code url, varchar 20 u.shortCode = some code ∧ varchar 2048 u.originalUrl = some url ∧
    HasRow u.id code url w.db.toTables
  entry : EntryIs app u.shortCode u.originalUrl w

/-- A row is shown with its id, its short code and its address. -/
theorem urlJson_inj {date : DateTime → String} {j j' : Json} {v : Url}
    (h : urlJson date j u = urlJson date j' v) :
    u.id = v.id ∧ u.shortCode = v.shortCode ∧ u.originalUrl = v.originalUrl := by
  simp only [urlJson, Json.obj.injEq, List.cons.injEq, Prod.mk.injEq, Json.int.injEq,
    Json.str.injEq, true_and] at h
  exact ⟨h.1, h.2.2.1, h.2.2.2.1⟩

/-- Priming the cache sets the entry. -/
theorem cacheRedirect_entry {id : Int} (code url code' url' : String) :
    (server scanner).Triple () (fun w => HasRow id code' url' w.db.toTables)
      (cacheRedirect app.redis code url true)
      fun _ w => HasRow id code' url' w.db.toTables ∧ EntryIs app code url w := by
  unfold EntryIs
  cases app.redis with
  | false => exact .ret fun w hw => ⟨hw, fun h => (nomatch h)⟩
  | true =>
    refine .bind (.perform fun _ w r w' hw hr => ?_) fun _ => .ret fun _ h => h
    cases hr
    refine ⟨hw, fun _ e he => ?_⟩
    rw [AList.lookup_insert] at he
    exact (Option.some.inj he).symm

/-- The row of a create that is committed. -/
theorem createUrlTx_row {v : Url} (e : Event) (hactive : v.isActive = true) :
    (server scanner).Triple () (fun _ => True) (createUrlTx v e) fun created w => ∀ newId,
      created = .ok newId →
      ∃ code url, (varchar 20 v.shortCode = some code ∧ varchar 2048 v.originalUrl = some url) ∧
        HasRow newId code url w.db.toTables := by
  refine .perform fun _ w r w' _ hr => ?_
  cases hr
  intro newId hok
  obtain ⟨_, herr, -⟩ | ⟨newId', row, hok', hrow, hurls⟩ := w.db.createUrlTx_urls v e
  · rw [Db.createUrlTx, herr] at hok
    cases hok
  · rw [Db.createUrlTx, hok'] at hok
    cases hok
    have hstored := storeUrl_storedAs hrow
    refine ⟨row.shortCode, row.originalUrl, ⟨hstored.shortCode, hstored.originalUrl⟩, ?_⟩
    refine ⟨{ row with id := newId }, ?_, rfl, rfl, rfl, hstored.isActive.trans hactive⟩
    rw [Db.createUrlTx, hurls]
    exact List.mem_append_right _ (List.mem_singleton_self _)

/-- The loop over the list pages keeps both. -/
theorem invalidate_keeps (id : Int) {code url code' url' : String} :
    (server scanner).Triple () (fun w => HasRow id code' url' w.db.toTables ∧
      EntryIs app code url w) (invalidateUrlLists app.redis app.scanFuel)
      fun _ w => HasRow id code' url' w.db.toTables ∧ EntryIs app code url w :=
  .of_all (fun _ _ _ _ _ hq hw h => ⟨respond_row hq hw.1 h, respond_entry hq hw.2 h⟩)
    (invalidateUrlLists_all (fun _ hq => hq.spares) (fun _ => trivial) ..)

theorem insertUrl_issued (owner : Int) (ownerJson : Json) (shortCode originalUrl title : String)
    (now : DateTime) :
    (server scanner).Triple () (fun _ => True)
      (insertUrl app owner ownerJson shortCode originalUrl title now)
      fun a w => ∀ j v, a = jsonResponse 201 (urlJson DateTime.httpDate j v) → Issued app v w := by
  have hret : ∀ (P : World Unit → Prop) (a : Response), a.status ≠ 201 →
      (server scanner).Triple () P (.ret a)
      fun a w => ∀ j v, a = jsonResponse 201 (urlJson DateTime.httpDate j v) → Issued app v w :=
        fun P a ha =>
    .ret fun _ _ j v hv => absurd (by rw [hv]; rfl) ha
  have h409 : (errorResponse 409 "Short code already exists").status ≠ 201 := by decide
  have h500 : serverError.status ≠ 201 := by decide
  unfold insertUrl
  refine .bind (reads_triple (p := shortCodeExists shortCode) ⟨trivial, fun _ => trivial⟩)
    fun taken => ?_
  rcases taken with err | taken | taken
  · exact hret _ _ h500
  · refine .bind (createUrlTx_row _ rfl) fun created => ?_
    cases created with
    | error err => exact hret _ _ h500
    | ok newId =>
      refine .mono (.given fun code => .given fun url => .assume ?_) (fun w hw => hw newId rfl)
        fun _ _ h => h
      rintro ⟨hcode, hurl⟩
      refine .bind (cacheRedirect_entry shortCode originalUrl code url) fun _ => ?_
      refine .bind (invalidate_keeps newId) fun _ => .ret fun w hw j v hv => ?_
      obtain ⟨rfl, rfl, rfl⟩ := urlJson_inj (Response.mk.inj hv).2.1
      exact ⟨⟨code, url, hcode, hurl, hw.1⟩, hw.2⟩
  · exact hret _ _ h409

theorem createUrlTx_triple_lags (v : Url) (e : Event) :
    (server scanner).Triple () (fun w => ¬ w.db.EventsAhead) (createUrlTx v e)
      fun created w => ∀ newId, created = .ok newId → ¬ w.db.EventsAhead := by
  refine .perform fun _ w r w' hw hr => ?_
  cases hr
  exact fun newId hok => Tables.createUrlTx_lags hw hok

/-- A create that is answered 201 does not bring a sequence ahead that was not. -/
theorem insertUrl_lags (owner : Int) (ownerJson : Json) (shortCode originalUrl title : String)
    (now : DateTime) :
    (server scanner).Triple () (fun w => ¬ w.db.EventsAhead)
      (insertUrl app owner ownerJson shortCode originalUrl title now)
      fun a w => a.status = 201 → ¬ w.db.EventsAhead := by
  have hret : ∀ (P : World Unit → Prop) (a : Response), a.status ≠ 201 →
      (server scanner).Triple () P (.ret a)
      fun a w => a.status = 201 → ¬ w.db.EventsAhead := fun P a ha => .ret fun _ _ h => absurd h ha
  have hkeeps : ∀ {p : Handler Unit}, p.All Call.LeavesDb →
      (server scanner).Triple () (fun w => ¬ w.db.EventsAhead) p fun _ w => ¬ w.db.EventsAhead :=
    .of_all fun _ _ _ _ _ hq hw hr => by rwa [respond_leavesDb hq hr]
  have h409 : (errorResponse 409 "Short code already exists").status ≠ 201 := by decide
  have h500 : serverError.status ≠ 201 := by decide
  unfold insertUrl
  refine .bind (reads_triple (p := shortCodeExists shortCode) ⟨trivial, fun _ => trivial⟩)
    fun taken => ?_
  rcases taken with err | taken | taken
  · exact hret _ _ h500
  · refine .bind (createUrlTx_triple_lags _ _) fun created => ?_
    cases created with
    | error err => exact hret _ _ h500
    | ok newId =>
      refine .mono ?_ (fun w hw => hw newId rfl) fun _ _ h => h
      refine .bind (hkeeps (cacheRedirect_all (fun _ _ => trivial) ..)) fun _ => ?_
      refine .bind (hkeeps (invalidateUrlLists_all (fun _ hq => hq.leavesDb) (fun _ => trivial) ..))
        fun _ => ?_
      exact .ret fun w hw _ => hw
  · exact hret _ _ h409

/-- The sequence is ahead before a create that is answered 201 just when it is after it. -/
theorem createAnswers_eventsAhead {body : Body} {now : DateTime} {rng : Nat → GeneratedCode}
    (h : CreateAnswers scanner app body now rng w u w₁) : w₁.db.EventsAhead ↔ w.db.EventsAhead := by
  obtain ⟨userId, h⟩ := h
  refine ⟨fun hahead => ?_, fun hahead => serveApi_eventsAhead hahead h⟩
  by_contra hlags
  have htriple :
      (server scanner).Triple () (fun w => ¬ w.db.EventsAhead) (createShortUrl app body now rng)
      fun a w => a.status = 201 → ¬ w.db.EventsAhead :=
    createShortUrl_triple (fun a ha _ _ h => absurd h ha)
        fun owner ownerJson shortCode originalUrl title =>
      insertUrl_lags owner ownerJson shortCode originalUrl title now
  exact htriple w _ w₁ hlags (Server.runs_of_eval _ _ h) rfl hahead

/-- **What a create leaves** when it is answered 201. -/
theorem createAnswers_issued {body : Body} {now : DateTime} {rng : Nat → GeneratedCode}
    (h : CreateAnswers scanner app body now rng w u w₁) : Issued app u w₁ := by
  obtain ⟨userId, h⟩ := h
  suffices htriple :
      (server scanner).Triple () (fun _ => True) (createShortUrl app body now rng) fun a w' =>
      ∀ j v, a = jsonResponse 201 (urlJson DateTime.httpDate j v) → Issued app v w' from
    htriple w _ w₁ trivial (Server.runs_of_eval _ _ h) userId u rfl
  refine createShortUrl_triple (fun a ha _ _ j v hv => absurd (by rw [hv]; rfl) ha)
    fun owner ownerJson shortCode originalUrl title => ?_
  exact insertUrl_issued owner ownerJson shortCode originalUrl title now

end Create

/-! ## Along a history -/

section History

variable {scanner : Scanner} {app : App} {w w' : World Unit} {id : Int} {code url : String}

theorem withUsers_urls (db : Db) (users : List User) : (db.withUsers users).urls = db.urls := by
  unfold Db.withUsers
  split <;> rfl

theorem LaterStep.serve_kept {s : LaterStep} (hs : s.writes ≠ some id)
    (hw : KeptUrl app id code url w) (h : s.serve scanner app w = some w') :
    KeptUrl app id code url w' := by
  cases s with
  | request r =>
    obtain ⟨⟨a, w₁⟩, hserve, rfl⟩ := Option.map_eq_some_iff.1 h
    exact serveApi_kept hs hw hserve
  | users rows =>
    cases h
    refine ⟨hw.row.mono fun v hv _ => ?_, hw.entry⟩
    rwa [withUsers_urls]

theorem LaterStep.serve_eventsAhead {s : LaterStep} (hw : w.db.EventsAhead)
    (h : s.serve scanner app w = some w') :
    w'.db.EventsAhead := by
  cases s with
  | request r =>
    obtain ⟨⟨a, w₁⟩, hserve, rfl⟩ := Option.map_eq_some_iff.1 h
    exact serveApi_eventsAhead hw hserve
  | users rows =>
    cases h
    dsimp only
    unfold Db.withUsers
    split <;> exact hw

theorem laterHistory_eventsAhead {later : List LaterStep} (hw : w.db.EventsAhead)
    (h : laterHistory scanner app later w = some w') : w'.db.EventsAhead := by
  induction later generalizing w with
  | nil =>
    cases h
    exact hw
  | cons s later ih =>
    obtain ⟨w₁, hserve, hrest⟩ := Option.bind_eq_some_iff.1 h
    exact ih (s.serve_eventsAhead hw hserve) hrest

theorem laterHistory_kept {later : List LaterStep} (hlater : ∀ s ∈ later, s.writes ≠ some id)
    (hw : KeptUrl app id code url w) (h : laterHistory scanner app later w = some w') :
    KeptUrl app id code url w' := by
  induction later generalizing w with
  | nil =>
    cases h
    exact hw
  | cons s later ih =>
    obtain ⟨w₁, hserve, hrest⟩ := Option.bind_eq_some_iff.1 h
    exact ih (fun s' hs' => hlater s' (List.mem_cons_of_mem s hs'))
      (s.serve_kept (hlater s List.mem_cons_self) hw hserve) hrest

end History

/-! ## The redirect -/

section Redirect

variable {scanner : Scanner} {app : App} {w : World Unit} {code : String}

variable (scanner app) in
/-- A redirect answers by the row, when the entry says what the row says. -/
theorem serve_redirect (hentry : app.redis = true → ∀ entry, w.redis.lookup (.redirect code) =
    some entry →
      sendable code ∧ ∃ v, w.db.urlByCode code = some v ∧
        entry = (⟨v.originalUrl, v.isActive⟩ : CachedRedirect))
    (now : DateTime) :
    ∃ w', serveApi scanner app (.url (.redirectToUrl code now)) w =
      some ((plainRedirect w.db code now).1, w') ∧
      w'.db = (plainRedirect w.db code now).2 := by
  have happ : app = app.withRedis app.redis := rfl
  cases hredis : app.redis with
  | false =>
    rw [hredis] at happ
    rw [happ]
    exact ⟨_, redirectToUrl_absent code now, rfl⟩
  | true =>
    obtain ⟨w', heval, hdb, -⟩ := redirectToUrl_entry scanner app (hentry hredis) now
    rw [hredis] at happ
    rw [happ]
    exact ⟨w', heval, hdb⟩

/-- A stored short code can be sent. -/
theorem urlByCode_sendable {db : Db} {v : Url} (hv : db.urlByCode code = some v) :
    sendable code = true := by
  obtain ⟨hmem, rfl⟩ := db.valid.urlByCode_eq_some.1 hv
  exact (varchar_eq_some (storeUrl_storedAs (db.valid.stored v hmem)).shortCode).1

/-- The click on a row that is there is logged exactly if its id is free. -/
theorem clickEvent_created_iff {db : Db} {v : Url} (hmem : v ∈ db.urls) (now : DateTime) :
    (∃ eventId, (db.createEvent (clickEvent v now)).1 = .ok eventId) ↔ db.EventIdFree := by
  have hthere := db.valid.urlGetById_eq_some.2 ⟨hmem, rfl⟩
  have htype : (varchar 50 "click").isSome = true := by decide
  have hdetails : (textColumn "\x7b\"source\": \"redirect\"\x7d").isSome = true := by decide
  exact Tables.createEvent_ok_iff (e := clickEvent v now) htype hdetails
    (by rw [clickEvent, hthere]; rfl) (db.valid.owned v hmem)

/-- The redirect of an active row is the answer to its click. -/
theorem plainRedirect_click {db : Db} {v : Url} (hv : db.urlByCode code = some v)
    (hactive : v.isActive = true) (now : DateTime) :
    plainRedirect db code now =
      (clickResponse v.originalUrl (db.createEvent (clickEvent v now)).1,
        (db.createEvent (clickEvent v now)).2) := by
  unfold plainRedirect
  rw [Tables.urlGetByCode, if_pos (urlByCode_sendable hv), hv]
  dsimp only
  rw [hactive]
  rfl

theorem plainRedirect_active {db : Db} {v : Url} (hv : db.urlByCode code = some v)
    (hactive : v.isActive = true) (hevent : db.EventIdFree) (now : DateTime) :
    (plainRedirect db code now).1 = redirectResponse v.originalUrl := by
  obtain ⟨hmem, -⟩ := db.valid.urlByCode_eq_some.1 hv
  obtain ⟨eventId, hlogged⟩ := (clickEvent_created_iff hmem now).2 hevent
  rw [plainRedirect_click hv hactive, hlogged]
  rfl

/-- Without an active row there is no redirect. -/
theorem plainRedirect_location {db : Db}
    (hno : ∀ v, db.urlByCode code = some v → v.isActive = false) (now : DateTime) :
    (plainRedirect db code now).1.location = none := by
  unfold plainRedirect Tables.urlGetByCode
  split
  · rfl
  · rfl
  · rename_i v hv
    split at hv
    · rw [hno v (Except.ok.inj hv)]
      rfl
    · cases hv

end Redirect

/-! ## Which codes resolve -/

section Resolve

variable {flask : Flask} {scanner : Scanner} {app : App} {w w₁ : World Unit} {u : Url}
  {code url : String} {target : List Char} {now : DateTime}

theorem getTarget_of_path (hpath : getPath flask.router target = .view .redirectToUrl
    [code.toList]) :
    getTarget flask scanner app target now w =
      (serveApi scanner app (.url (.redirectToUrl code now)) w).map fun aw =>
        .redirectToUrl (flask.send aw.1) := by
  unfold getTarget
  rw [hpath]
  dsimp only
  rw [String.ofList_toList]

/-- A redirect was asked for with one segment. -/
theorem path_of_getTarget {a : Response}
    (h : getTarget flask scanner app target now w = some (.redirectToUrl a)) :
    ∃ code : String, getPath flask.router target = .view .redirectToUrl [code.toList] ∧
      '/' ∉ code.toList := by
  unfold getTarget at h
  split at h
  · rename_i d hpath
    obtain ⟨code, hargs, hslash⟩ := getPath_redirect flask.router hpath
    exact ⟨code, by rw [hpath, hargs], hslash⟩
  · cases h

theorem send_redirect (h : flask.send (redirectResponse code) = redirectResponse url) :
    flask.sendsLocation code = true ∧ code = url := by
  unfold Flask.send redirectResponse at h
  dsimp only at h
  split at h
  · rename_i hsends
    exact ⟨hsends, Option.some.inj (Response.mk.inj h).2.2.1⟩
  · cases (Response.mk.inj h).1

/-- In a world without an entry and an active row for a code, that code leads nowhere. -/
theorem not_getTarget (hpath : getPath flask.router target = .view .redirectToUrl [code.toList])
    (hentry : w.redis.lookup (.redirect code) = none)
    (hno : ∀ v, w.db.urlByCode code = some v → v.isActive = false) :
    getTarget flask scanner app target now w ≠ some (.redirectToUrl (redirectResponse url)) := by
  intro h
  obtain ⟨w', hserve, -⟩ := serve_redirect scanner app
    (fun _ entry he => by rw [hentry] at he; cases he) now
  rw [getTarget_of_path hpath, hserve] at h
  have hlocation := plainRedirect_location hno now
  have hsend : flask.send (plainRedirect w.db code now).1 = (plainRedirect w.db code now).1 := by
    unfold Flask.send
    rw [hlocation]
  have heq : flask.send (plainRedirect w.db code now).1 = redirectResponse url :=
    Answered.redirectToUrl.inj (Option.some.inj h)
  rw [hsend] at heq
  rw [heq] at hlocation
  cases hlocation

/-- The key of a code reaches its TTL. -/
def expiry (code : String) : LaterStep := .request (.url (.expire (.redirect code)))

/-- **A URL that is kept leads to its address.** -/
theorem KeptUrl.getTarget (hw : KeptUrl app u.id u.shortCode u.originalUrl w)
    (hahead : w.db.EventsAhead) (hslash : '/' ∉ u.shortCode.toList) (hpage : u.shortCode ∉ ownPages)
    (hlocation : flask.sendsLocation u.originalUrl = true) (now : DateTime) :
    getTarget flask scanner app (codePath u.shortCode) now w =
      some (.redirectToUrl (redirectResponse u.originalUrl)) := by
  obtain ⟨v, hv, -, hurl, hactive⟩ := hw.row.urlByCode
  obtain ⟨w', hserve, -⟩ := serve_redirect scanner app (fun hredis entry he =>
      ⟨urlByCode_sendable hv, v, hv, by rw [hw.entry hredis entry he, hurl, hactive]⟩) now
  have hsend : flask.send (redirectResponse u.originalUrl) = redirectResponse u.originalUrl :=
    if_pos hlocation
  rw [getTarget_of_path (getPath_code flask.router hslash hpage), hserve,
    plainRedirect_active hv hactive hahead.free now, hurl]
  exact congrArg (fun a => some (Answered.redirectToUrl a)) hsend

/-- A code that is stored uncut leads to its address from then on. -/
theorem Resolvable.resolves (h : Resolvable flask u) (hahead : w.db.EventsAhead)
    (hissued : Issued app u w) :
    CodeResolves flask scanner app u w := by
  intro later w' hrun hlater now
  obtain ⟨code, url, hcode, hurl, hrow⟩ := hissued.row
  rw [varchar_of_not_cut hcode h.code, varchar_of_not_cut hurl h.url] at hrow
  have hkept : KeptUrl app u.id u.shortCode u.originalUrl w' :=
    laterHistory_kept hlater ⟨hrow, hissued.entry⟩ hrun
  exact hkept.getTarget (laterHistory_eventsAhead hahead hrun) h.segment h.page h.location now

theorem laterHistory_append (steps later : List LaterStep) (w : World Unit) :
    laterHistory scanner app (steps ++ later) w = (laterHistory scanner app steps w).bind
      (laterHistory scanner app later) := by
  induction steps generalizing w with
  | nil => rfl
  | cons s steps ih =>
    rw [List.cons_append, laterHistory, laterHistory, Option.bind_assoc]
    exact congrArg _ (funext ih)

theorem CodeResolves.after {steps : List LaterStep} {w' : World Unit}
    (h : CodeResolves flask scanner app u w) (hrun : laterHistory scanner app steps w = some w')
    (hsteps : ∀ s ∈ steps, s.writes ≠ some u.id) :
    CodeResolves flask scanner app u w' := by
  intro later w'' hlater hwrites
  refine h (steps ++ later) w'' (by rw [laterHistory_append, hrun]; exact hlater) fun s hs => ?_
  rcases List.mem_append.1 hs with hs | hs
  · exact hsteps s hs
  · exact hwrites s hs

/-- A code that redirects is that of an active row: an entry expires. -/
theorem CodeResolves.row (h : CodeResolves flask scanner app u w)
    (hpath : getPath flask.router (codePath u.shortCode) = .view .redirectToUrl [code.toList]) :
    ∃ v, w.db.urlByCode code = some v ∧ v.isActive = true := by
  by_contra hnone
  have hexpiry : ∀ s ∈ [expiry code], s.writes ≠ some u.id := fun s hs hw => by
    rw [List.mem_singleton.1 hs] at hw
    cases hw
  refine absurd (h [expiry code] { w with redis := w.redis.erase (.redirect code) } rfl hexpiry
    (sampleTime 1)) ?_
  refine not_getTarget hpath (AList.lookup_erase ..) fun v hv => ?_
  rw [← Bool.not_eq_true]
  exact fun hactive => hnone ⟨v, hv, hactive⟩

/-- **A code that resolves has logged its click**: the id of the event was free, and the code
resolves after it. -/
theorem CodeResolves.click (h : CodeResolves flask scanner app u w)
    (hpath : getPath flask.router (codePath u.shortCode) = .view .redirectToUrl [code.toList]) :
    w.db.EventIdFree ∧ ∃ w', CodeResolves flask scanner app u w' ∧
      w'.db.eventsIdSeq = w.db.eventsIdSeq + 1 ∧
      ∀ e ∈ w.db.events, e ∈ w'.db.events := by
  obtain ⟨v, hv, hactive⟩ := h.row hpath
  have hsteps : ∀ s ∈ [expiry code, .request (.url (.redirectToUrl code (sampleTime 1)))],
      s.writes ≠ some u.id := by
    intro s hs hw
    rcases List.mem_cons.1 hs with rfl | hs
    · cases hw
    · rw [List.mem_singleton.1 hs] at hw
      cases hw
  obtain ⟨w', hserve, hdb⟩ := serve_redirect scanner app
    (w := { w with redis := w.redis.erase (.redirect code) })
    (fun _ entry he => by rw [AList.lookup_erase] at he; cases he) (sampleTime 1)
  have hrun :
      laterHistory scanner app
          [expiry code, .request (.url (.redirectToUrl code (sampleTime 1)))] w =
      some w' := by
    show ((serveApi scanner app (.url (.redirectToUrl code (sampleTime 1)))
      { w with redis := w.redis.erase (.redirect code) }).map Prod.snd).bind _ = _
    rw [hserve]
    rfl
  have hredirects := h [expiry code] { w with redis := w.redis.erase (.redirect code) } rfl
    (fun s hs => hsteps s (List.mem_cons.2 (.inl (List.mem_singleton.1 hs)))) (sampleTime 1)
  rw [getTarget_of_path hpath, hserve, plainRedirect_click hv hactive] at hredirects
  rw [plainRedirect_click hv hactive] at hdb
  obtain ⟨err, herr, -⟩ | ⟨row, hok, -, hevents, -, -, -, hseq⟩ :=
    Tables.createEvent_cases w.db.toTables (clickEvent v (sampleTime 1))
  · rw [Db.createEvent, herr] at hredirects
    cases hredirects
  · refine ⟨Tables.createEvent_free hok, w', h.after hrun hsteps, ?_, fun e he => ?_⟩
    · rw [hdb]
      exact hseq
    · rw [hdb]
      exact hevents ▸ List.mem_append_left _ he

/-- **A code only resolves for good where the sequence is ahead**: each click draws an id. -/
theorem CodeResolves.eventsAhead (h : CodeResolves flask scanner app u w) : w.db.EventsAhead := by
  obtain ⟨code, hpath, -⟩ :=
    path_of_getTarget (h [] w rfl (fun _ hs => absurd hs List.not_mem_nil) (sampleTime 1))
  -- after `k` clicks the sequence is `k` ids further
  have hnever : ∀ (k : Nat) (w : World Unit), CodeResolves flask scanner app u w →
      ∀ e ∈ w.db.events, e.id ≠ w.db.eventsIdSeq + k := by
    intro k
    induction k with
    | zero =>
      intro w h e he
      simpa using (h.click hpath).1 e he
    | succ k ih =>
      intro w h e he
      obtain ⟨-, w', h', hseq, hkept⟩ := h.click hpath
      have hne := ih w' h' e (hkept e he)
      rw [hseq] at hne
      push_cast
      omega
  intro e he
  by_contra hbehind
  exact hnever (e.id - w.db.eventsIdSeq).toNat w h e he (by omega)

/-- A code that redirects is that of the URL's own row: another row could be deleted. -/
theorem CodeResolves.own_row (hfuel : scanner.bound < app.scanFuel)
    (h : CodeResolves flask scanner app u w)
    (hpath : getPath flask.router (codePath u.shortCode) = .view .redirectToUrl [code.toList]) :
    ∃ v, w.db.urlByCode code = some v ∧ v.id = u.id := by
  have hexpiry : (expiry code).writes ≠ some u.id := fun hw => by cases hw
  have hlookup : ∀ w' : World Unit, (w'.redis.erase (.redirect code)).lookup (.redirect code) =
      none := fun w' =>
    AList.lookup_erase ..
  obtain ⟨v, hv, -⟩ := h.row hpath
  refine ⟨v, hv, ?_⟩
  by_contra hother
  obtain ⟨hmem, hcode⟩ := w.db.valid.urlByCode_eq_some.1 hv
  obtain ⟨w₁, hdelete, hurls, -⟩ := deleteUrl_existing hfuel h.eventsAhead.free
    (w.db.valid.urlGetById_eq_some.2 ⟨hmem, rfl⟩) (sampleTime 1)
  have hrun :
      laterHistory scanner app [.request (.url (.deleteUrl v.id (sampleTime 1))), expiry code] w =
      some { w₁ with redis := w₁.redis.erase (.redirect code) } := by
    rw [laterHistory, LaterStep.serve, hdelete]
    rfl
  have hwrites : ∀ s ∈ [LaterStep.request (.url (.deleteUrl v.id (sampleTime 1))), expiry code],
      s.writes ≠ some u.id := by
    intro s hs
    rcases List.mem_cons.1 hs with rfl | hs
    · exact fun hw => hother (Option.some.inj hw)
    · rw [List.mem_singleton.1 hs]
      exact hexpiry
  refine absurd (h _ _ hrun hwrites (sampleTime 1))
    (not_getTarget hpath (hlookup w₁) fun v' hv' => ?_)
  -- the row of the code is the deleted one
  obtain ⟨hmem', hcode'⟩ := w₁.db.valid.urlByCode_eq_some.1 hv'
  rw [hurls] at hmem'
  obtain ⟨v₀, hmem₀, rfl⟩ := List.mem_map.1 hmem'
  by_cases hsame : (v₀.id == (v.deleted (sampleTime 1)).id) = true
  · rw [if_pos hsame]
    rfl
  · rw [if_neg hsame] at hcode'
    have hv₀ := w.db.valid.urlByCode_eq_some.2 ⟨hmem₀, hcode'⟩
    rw [hv] at hv₀
    obtain rfl := Option.some.inj hv₀
    exact absurd (beq_self_eq_true _) hsame

/-- What is cut off a text is no slash. -/
theorem slash_stored {n : Nat} {s t : String} (h : varchar n s = some t) (ht : '/' ∉ t.toList) :
    '/' ∉ s.toList := by
  unfold varchar at h
  split at h
  · split at h
    · rw [Option.some.inj h]
      exact ht
    · split at h
      · rename_i hspaces
        rw [← Option.some.inj h, String.toList_ofList] at ht
        intro hs
        rw [← List.take_append_drop n s.toList] at hs
        rcases List.mem_append.1 hs with hs | hs
        · exact ht hs
        · exact absurd (List.all_eq_true.1 hspaces _ hs) (by decide)
      · cases h
  · cases h

/-- What resolves from now on is resolvable. -/
theorem CodeResolves.resolvable (hfuel : scanner.bound < app.scanFuel) (hissued : Issued app u w)
    (h : CodeResolves flask scanner app u w) : Resolvable flask u := by
  obtain ⟨stored, url, hstored, hurl, v, hmem, hid, rfl, rfl, hactive⟩ := hissued.row
  obtain ⟨code, hpath, hslash⟩ :=
    path_of_getTarget (h [] w rfl (fun _ hs => absurd hs List.not_mem_nil) (sampleTime 1))
  -- the row that redirects is the one of the create
  obtain ⟨v', hv', hid'⟩ := h.own_row hfuel hpath
  obtain ⟨hmem', rfl⟩ := w.db.valid.urlByCode_eq_some.1 hv'
  have hthere := w.db.valid.urlGetById_eq_some.2 ⟨hmem, hid⟩
  rw [w.db.valid.urlGetById_eq_some.2 ⟨hmem', hid'⟩] at hthere
  obtain rfl := Option.some.inj hthere
  -- and its address is the one that is sent when the entry has expired
  have hexpiry : ∀ s ∈ [expiry v'.shortCode], s.writes ≠ some u.id := fun s hs hw => by
    rw [List.mem_singleton.1 hs] at hw
    cases hw
  have hredirects := h [expiry v'.shortCode] _ rfl hexpiry (sampleTime 1)
  obtain ⟨w', hserve, -⟩ := serve_redirect scanner app
    (w := { w with redis := w.redis.erase (.redirect v'.shortCode) })
    (fun _ entry he => by rw [AList.lookup_erase] at he; cases he) (sampleTime 1)
  rw [getTarget_of_path hpath, hserve, plainRedirect_active hv' hactive h.eventsAhead.free]
    at hredirects
  obtain ⟨hlocation, horiginal⟩ :=
    send_redirect (Answered.redirectToUrl.inj (Option.some.inj hredirects))
  rw [horiginal] at hlocation hurl
  have hsegment := slash_stored hstored hslash
  have hpage : u.shortCode ∉ ownPages :=
    fun hpage => getPath_ownPage flask.router hsegment hpage hpath
  -- the code is that of the row
  rw [getPath_code flask.router hsegment hpage] at hpath
  have hcode : u.shortCode = v'.shortCode := String.toList_injective (by simpa using hpath)
  rw [← hcode] at hstored
  exact ⟨hsegment, hpage, not_cutAt_of_stored hstored, not_cutAt_of_stored hurl, hlocation⟩

end Resolve

/-- **An issued code resolves** exactly if it is one segment and no page, neither text is cut, and
the address can be sent; and the sequence of the events is ahead, for each click draws an id from
it. -/
theorem code_resolves_iff {flask : Flask} {scanner : Scanner} {app : App}
    (hfuel : scanner.bound < app.scanFuel) {body : Body} {now : DateTime}
    {rng : Nat → GeneratedCode} {w w₁ : World Unit} {u : Url}
    (h : CreateAnswers scanner app body now rng w u w₁) :
    CodeResolves flask scanner app u w₁ ↔ Resolvable flask u ∧ w.db.EventsAhead := by
  rw [← createAnswers_eventsAhead h]
  constructor
  · intro hresolves
    exact ⟨hresolves.resolvable hfuel (createAnswers_issued h), hresolves.eventsAhead⟩
  · rintro ⟨hresolvable, hahead⟩
    exact hresolvable.resolves hahead (createAnswers_issued h)

/-- A router in the order of the rules, and headers without newlines. -/
def sampleFlask : Flask where
  router := .inOrder urlMap Char.isDigit
  sendsLocation location := location.toList.all fun c => c != '\n' && c != '\r'

/-- The row of a create under a short code of the client. -/
def createdRow (code : String) : Url :=
  { newUrl 1 code "https://new.example" "" (sampleTime 2) with id := 2 }

/-- A create under `docs` resolves. -/
theorem code_resolves_sample : ∃ w₁,
    CreateAnswers .onePage sampleApp (sampleCreate "docs") (sampleTime 2) (fun _ => sampleCode)
      (.start sampleDb)
      (createdRow "docs") w₁ ∧ CodeResolves sampleFlask .onePage sampleApp
        (createdRow "docs") w₁ := by
  obtain ⟨w₁, h⟩ : ∃ w₁, CreateAnswers .onePage sampleApp (sampleCreate "docs") (sampleTime 2)
      (fun _ => sampleCode) (.start sampleDb) (createdRow "docs") w₁ := ⟨_, _, rfl⟩
  have hresolvable : Resolvable sampleFlask (createdRow "docs") :=
    ⟨by decide, by decide, by decide, by decide, by decide⟩
  exact ⟨w₁, h, (code_resolves_iff (by decide) h).2 ⟨hresolvable, by decide⟩⟩

/-- **A create under `users` is answered 201, and the code leads to the list of users.** -/
theorem code_shadowed : ∃ w₁,
    CreateAnswers .onePage sampleApp (sampleCreate "users") (sampleTime 2) (fun _ => sampleCode)
      (.start sampleDb)
      (createdRow "users") w₁ ∧ ¬ CodeResolves sampleFlask .onePage sampleApp
        (createdRow "users") w₁ := by
  obtain ⟨w₁, h⟩ : ∃ w₁, CreateAnswers .onePage sampleApp (sampleCreate "users") (sampleTime 2)
      (fun _ => sampleCode) (.start sampleDb) (createdRow "users") w₁ := ⟨_, _, rfl⟩
  refine ⟨w₁, h, fun hresolves => ?_⟩
  have hfuel : Scanner.onePage.bound < sampleApp.scanFuel := by decide
  exact absurd (hresolves.resolvable hfuel (createAnswers_issued h)).page (by decide)

end PeHackathon.UrlShortener
