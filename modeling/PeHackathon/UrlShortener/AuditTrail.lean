import PeHackathon.Lib.Emits
import PeHackathon.UrlShortener.EventWrites

/-!
# The events table is an audit trail

Among any number of requests, in any order of their steps: the rows that the events table gains are
one for each committed write, in the order of the commits. A request commits at most one event, and
once it has answered, just the one that its answer acknowledges (`audit_trail`).
-/

namespace PeHackathon.UrlShortener

open Lib

/-! ## What a call leaves -/

/-- What an answered call says: it has committed an event, or no URL has a short code. -/
inductive AuditMark
  | event (e : Event)
  | noUrl (code : String)
  deriving DecidableEq, Repr

def AuditMark.event? : AuditMark → Option Event
  | .event e => some e
  | .noUrl _ => none

/-- The marks of an answered call. -/
def Call.marks : (q : Call) → Answer q → List AuditMark
  | .createUrlTx _ e, .ok id => [.event { e with urlId := id }]
  | .saveUrlTx _ e, .ok _ => [.event e]
  | .createEvent e, .ok _ => [.event e]
  | .urlGetByCode code, .ok none => [.noUrl code]
  | _, _ => []

/-- The events that an answered call has committed. -/
def Call.committed (q : Call) (r : Answer q) : List Event := (q.marks r).filterMap AuditMark.event?

/-- The row that a committed event is stored as. -/
structure AuditRow (e row : Event) : Prop extends EventRow e row where
  userId : row.userId = e.userId
  timestamp : row.timestamp = e.timestamp

/-! ### The database -/

namespace Tables

variable {db : Tables} {u : Url} {e : Event}

theorem createEvent_events (db : Tables) (e : Event) :
    (∃ err, (db.createEvent e).1 = .error err ∧ (db.createEvent e).2.events = db.events) ∨
      ∃ id row, (db.createEvent e).1 = .ok id ∧ (db.createEvent e).2.events = db.events ++ [row] ∧
        AuditRow e row := by
  unfold createEvent
  split
  · next type details htype hdetails =>
    dsimp only
    split
    · exact .inl ⟨_, rfl, rfl⟩
    · refine .inr ⟨_, _, rfl, rfl, ⟨htype, ?_, rfl⟩, rfl, rfl⟩
      unfold textColumn at hdetails
      split at hdetails
      · exact (Option.some.inj hdetails).symm
      · exact absurd hdetails (Option.some_ne_none _).symm
  · exact .inl ⟨_, rfl, rfl⟩

theorem commitWith_events (before changed : Tables) (h : changed.events = before.events)
    (e : Event) :
    (∃ err, (commitWith before changed e).1 = .error err ∧ (commitWith before changed e).2.events =
      before.events) ∨
      ∃ row, (commitWith before changed e).1 = .ok () ∧
        (commitWith before changed e).2.events = before.events ++ [row] ∧ AuditRow e row := by
  unfold commitWith
  obtain ⟨err, herr, -⟩ | ⟨id, row, hok, hevents, hrow⟩ := createEvent_events changed e
  · split
    · exact .inl ⟨_, rfl, rfl⟩
    · next hc =>
      rw [hc] at herr
      exact absurd herr (by simp)
  · split
    · next hc =>
      rw [hc] at hok
      exact absurd hok (by simp)
    · next hc =>
      rw [hc, h] at hevents
      exact .inr ⟨row, rfl, hevents, hrow⟩

theorem saveUrlTx_events (db : Tables) (u : Url) (e : Event) :
    (∃ err, (db.saveUrlTx u e).1 = .error err ∧ (db.saveUrlTx u e).2.events = db.events) ∨
      ∃ row, (db.saveUrlTx u e).1 = .ok () ∧ (db.saveUrlTx u e).2.events = db.events ++ [row] ∧
        AuditRow e row := by
  unfold saveUrlTx
  split
  · exact .inl ⟨_, rfl, rfl⟩
  · next row hrow =>
    split
    · exact .inl ⟨_, rfl, rfl⟩
    · exact commitWith_events db (db.replaceUrl row) rfl e

theorem createUrlTx_events (db : Tables) (u : Url) (e : Event) :
    (∃ err, (db.createUrlTx u e).1 = .error err ∧ (db.createUrlTx u e).2.events = db.events) ∨
      ∃ id row, (db.createUrlTx u e).1 = .ok id ∧
        (db.createUrlTx u e).2.events = db.events ++ [row] ∧
        AuditRow { e with urlId := id } row := by
  unfold createUrlTx
  split
  · exact .inl ⟨_, rfl, rfl⟩
  · next row hrow =>
    dsimp only
    split
    · exact .inl ⟨_, rfl, rfl⟩
    · obtain ⟨err, herr, hevents⟩ | ⟨row', hok, hevents, hrow'⟩ :=
        commitWith_events { db with urlsIdSeq := db.urlsIdSeq + 1 } (db.insertUrl row) rfl
          { e with urlId := db.urlsIdSeq }
      · split
        · next hc =>
          rw [hc] at hevents
          exact .inl ⟨_, rfl, hevents⟩
        · next hc =>
          rw [hc] at herr
          exact absurd herr (by simp)
      · split
        · next hc =>
          rw [hc] at hok
          exact absurd hok (by simp)
        · next hc =>
          rw [hc] at hevents
          exact .inr ⟨_, row', rfl, hevents, hrow'⟩

end Tables

section Server

variable {ι : Type} [DecidableEq ι] {scanner : Scanner} {i : ι} {w w' : World ι} {q : Call}
  {r : Answer q}

/-- **What a call adds to the events table** is what it has committed. -/
theorem respond_events (h : respond scanner i w q = some (r, w')) :
    ∃ rows, w'.db.events = w.db.events ++ rows ∧ List.Forall₂ AuditRow (q.committed r) rows := by
  have hnone : ∀ {es : List Event}, es = [] → w'.db.events = w.db.events →
      ∃ rows, w'.db.events = w.db.events ++ rows ∧ List.Forall₂ AuditRow es rows := by
    rintro es rfl hevents
    exact ⟨[], by rw [hevents, List.append_nil], .nil⟩
  have hone : ∀ {es : List Event} {e row : Event}, es = [e] → w'.db.events = w.db.events ++ [row] →
      AuditRow e row →
      ∃ rows, w'.db.events = w.db.events ++ rows ∧ List.Forall₂ AuditRow es rows := by
    rintro es e row rfl hevents hrow
    exact ⟨[row], hevents, .cons hrow .nil⟩
  cases q with
  | createUrlTx u e =>
    rw [respond_createUrlTx] at h
    obtain ⟨rfl, rfl⟩ := Prod.mk.inj (Option.some.inj h)
    obtain ⟨err, herr, hevents⟩ | ⟨id, row, hok, hevents, hrow⟩ :=
      Tables.createUrlTx_events w.db.toTables u e
    · refine hnone ?_ hevents
      rw [Db.createUrlTx, herr]
      rfl
    · refine hone ?_ hevents hrow
      rw [Db.createUrlTx, hok]
      rfl
  | saveUrlTx u e =>
    rw [respond_saveUrlTx] at h
    obtain ⟨err, herr, hevents⟩ | ⟨row, hok, hevents, hrow⟩ :=
      Tables.saveUrlTx_events w.db.toTables u e
    · rw [World.save_error herr] at h
      obtain ⟨rfl, rfl⟩ := Prod.mk.inj (Option.some.inj h)
      exact hnone rfl hevents
    · rw [World.save_ok hok] at h
      obtain ⟨rfl, rfl⟩ := Prod.mk.inj (Option.some.inj h)
      exact hone rfl hevents hrow
  | createEvent e =>
    rw [respond_createEvent] at h
    obtain ⟨rfl, rfl⟩ := Prod.mk.inj (Option.some.inj h)
    obtain ⟨err, herr, hevents⟩ | ⟨id, row, hok, hevents, hrow⟩ :=
      Tables.createEvent_events w.db.toTables e
    · refine hnone ?_ hevents
      rw [Db.createEvent, herr]
      rfl
    · refine hone ?_ hevents hrow
      rw [Db.createEvent, hok]
      rfl
  | urlGetByCode code =>
    rw [respond_urlGetByCode] at h
    obtain ⟨rfl, rfl⟩ := Prod.mk.inj (Option.some.inj h)
    refine hnone ?_ rfl
    rcases w.db.urlGetByCode code with err | _ | url
    · rfl
    · rfl
    · rfl
  | hang => exact absurd h (Option.some_ne_none _).symm
  | _ =>
    have hdb : w'.db = w.db := respond_leavesDb (by exact trivial) h
    exact hnone rfl (by rw [hdb])

end Server

/-! ## What an answer acknowledges -/

/-- What the reads of a request can find. -/
def Call.CanAnswer : (q : Call) → Answer q → Prop
  | .urlGetById id, some u => u.id = id
  | .urlGetByCode code, .ok (some u) => u.shortCode = code
  | _, _ => True

theorem respond_canAnswer {ι : Type} [DecidableEq ι] {scanner : Scanner} {i : ι} {w w' : World ι}
    {q : Call} {r : Answer q} (h : respond scanner i w q = some (r, w')) : q.CanAnswer r := by
  cases q with
  | urlGetById id =>
    rw [respond_urlGetById] at h
    obtain ⟨rfl, rfl⟩ := Prod.mk.inj (Option.some.inj h)
    cases hu : w.db.urlGetById id with
    | none => trivial
    | some u => exact (w.db.valid.urlGetById_eq_some.1 hu).2
  | urlGetByCode code =>
    rw [respond_urlGetByCode] at h
    obtain ⟨rfl, rfl⟩ := Prod.mk.inj (Option.some.inj h)
    rcases hu : w.db.urlGetByCode code with err | _ | u
    · trivial
    · trivial
    · unfold Tables.urlGetByCode at hu
      split at hu
      · exact (w.db.valid.urlByCode_eq_some.1 (Except.ok.inj hu)).2
      · exact absurd hu (by simp)
  | _ => trivial

/-- A write is answered with `a`, and `e` is the event of the write. -/
def Acknowledges (app : App) : ApiRequest → Response → Event → Prop
  | .url (.createShortUrl body now _), a, e =>
    e.eventType = "created" ∧ e.timestamp = now ∧
      ∃ shortCode originalUrl userIdJson u, CreatesWith app body shortCode originalUrl ∧
        e.details = createdDetails shortCode originalUrl ∧ u.id = e.urlId ∧ u.userId = e.userId ∧
        u.shortCode = shortCode ∧ u.originalUrl = originalUrl ∧
        a = jsonResponse 201 (urlJson DateTime.httpDate userIdJson u)
  | .url (.updateUrl urlId body now), a, e =>
    e.eventType = "updated" ∧ e.timestamp = now ∧ e.urlId = urlId ∧
      ∃ d u, checkUpdate app.hosts body = .ok d ∧ e.details = updatedDetails app.printable d.keys ∧
        u.id = urlId ∧ u.userId = e.userId ∧
        a = jsonResponse 200 (urlJson DateTime.httpDate (.int u.userId) u)
  | .url (.deleteUrl urlId now), a, e =>
    e.eventType = "deleted" ∧ e.timestamp = now ∧ e.urlId = urlId ∧
      a = jsonResponse 200 (.obj [("message", .str "URL deleted (soft delete)")])
  | .url (.redirectToUrl code now), a, e =>
    ∃ u location, u.shortCode = code ∧ e = clickEvent u now ∧ a = redirectResponse location
  | .createEvent body now, a, e =>
    ∃ data n id, parseJsonBody body = .ok data ∧ EventRoutes.checkEvent data = .ok n ∧
      e = EventRoutes.newEvent n e.details now ∧
      normalizeDetails ((data.get? "details").getD (.obj [])) = .ok e.details ∧
      a = jsonResponse 201 (EventRoutes.eventJson { e with id })
  | _, _, _ => False

/-- The answer `a` acknowledges no write: it is to a request that reads, or an error; a delete did
not find its URL, or a redirect from the cache did not. -/
def AcknowledgesNone : ApiRequest → Response → List AuditMark → Prop
  | .url (.listUrls _ _ _ _), _, _ => True
  | .url (.expire _), _, _ => True
  | .url (.deleteUrl _ _), a, _ =>
    400 ≤ a.status ∨ a = jsonResponse 200 (.obj [("error", .str "URL not found"),
      ("message", .str "URL not found or already deleted")])
  | .url (.redirectToUrl code _), a, marks => 400 ≤ a.status ∨ a.status = 302 ∧ .noUrl code ∈ marks
  | _, a, _ => 400 ≤ a.status

/-- The marks of a request that is answered with `a`. -/
def Audited (app : App) (r : ApiRequest) (a : Response) (marks : List AuditMark) : Prop :=
  (∃ e, marks.filterMap AuditMark.event? = [e] ∧ Acknowledges app r a e) ∨
    marks.filterMap AuditMark.event? = [] ∧ AcknowledgesNone r a marks

/-- At most one event is committed. -/
def AtMostOne (marks : List AuditMark) : Prop := (marks.filterMap AuditMark.event?).length ≤ 1

theorem atMostOne_nil : AtMostOne [] := Nat.zero_le 1

theorem Audited.atMostOne {app : App} {r : ApiRequest} {a : Response} {marks : List AuditMark}
    (h : Audited app r a marks) : AtMostOne marks := by
  unfold AtMostOne
  rcases h with ⟨e, he, -⟩ | ⟨he, -⟩
  · rw [he]
    exact Nat.le_refl 1
  · rw [he]
    exact Nat.zero_le 1

/-- From these marks on the program commits no second event, and ends as an audited answer to
`r`. -/
abbrev Audits (app : App) (r : ApiRequest) (marks : List AuditMark) (p : Handler Response) : Prop :=
  p.Emits Call.CanAnswer Call.marks AtMostOne (Audited app r) marks

/-! ### Calls without marks -/

/-- A call that leaves no marks. -/
abbrev Call.Unmarked (q : Call) : Prop := ∀ r : Answer q, q.marks r = []

theorem unmarked_getCachedRedirect (client : Bool) (code : String) :
    (getCachedRedirect client code).Obeys Call.Unmarked fun _ => True := by
  cases client with
  | false => exact .ret trivial
  | true =>
    refine (Prog.Obeys.perform fun _ => rfl).bind fun r _ => ?_
    cases r with
    | ok raw => exact .ret trivial
    | error err => exact .ret trivial

theorem unmarked_cacheRedirect (client : Bool) (code url : String) (active : Bool) :
    (cacheRedirect client code url active).Obeys Call.Unmarked fun _ => True := by
  cases client with
  | false => exact .ret trivial
  | true => exact (Prog.Obeys.perform fun _ => rfl).bind fun _ _ => .ret trivial

theorem unmarked_invalidateRedirect (client : Bool) (code : String) :
    (invalidateRedirect client code).Obeys Call.Unmarked fun _ => True := by
  cases client with
  | false => exact .ret trivial
  | true => exact (Prog.Obeys.perform fun _ => rfl).bind fun _ _ => .ret trivial

theorem unmarked_scanLoop (fuel cursor : Nat) :
    (scanLoop fuel cursor).Obeys Call.Unmarked fun _ => True := by
  induction fuel generalizing cursor with
  | zero => exact Prog.obeys_call.2 ⟨fun r => Empty.elim r, fun r => Empty.elim r⟩
  | succ fuel ih =>
    refine (Prog.Obeys.perform (q := Call.redisScan cursor) fun _ => rfl).bind fun r _ => ?_
    cases r with
    | error err => exact .ret trivial
    | ok reply =>
      refine .ite (fun _ => .ite (fun _ => .ret trivial) fun _ => ih _) fun _ => ?_
      refine (Prog.Obeys.perform (q := Call.redisDelete reply.2) fun _ => rfl).bind fun r _ => ?_
      cases r with
      | error err => exact .ret trivial
      | ok _ => exact .ite (fun _ => .ret trivial) fun _ => ih _

theorem unmarked_invalidateUrlLists (client : Bool) (fuel : Nat) :
    (invalidateUrlLists client fuel).Obeys Call.Unmarked fun _ => True := by
  cases client with
  | false => exact .ret trivial
  | true => exact unmarked_scanLoop fuel 0

theorem unmarked_listUrls (app : App) (page perPage : Int) (userId : Option Int)
    (isActive : Option String) :
    (listUrls app page perPage userId isActive).Obeys Call.Unmarked fun _ => True := by
  have hcached : ∀ perPage, (getCachedUrlList app.redis page perPage).Obeys Call.Unmarked fun _ =>
      True := by
    intro perPage
    unfold getCachedUrlList
    refine .ite (fun _ => .ret trivial) fun _ => (Prog.Obeys.perform fun _ => rfl).bind fun r _ =>
      ?_
    cases r with
    | ok raw => exact .ret trivial
    | error err => exact .ret trivial
  refine (hcached _).bind fun cached _ => ?_
  cases cached with
  | some cached => exact .ret trivial
  | none =>
    refine (Prog.Obeys.perform fun _ => rfl).bind fun total _ => ?_
    refine (Prog.Obeys.perform fun _ => rfl).bind fun page _ => ?_
    cases page with
    | error err => exact .ret trivial
    | ok urls =>
      refine Prog.Obeys.bind (ψ := fun _ => True) ?_ fun _ _ => .ret trivial
      unfold cacheUrlList
      exact .ite (fun _ => .ret trivial) fun _ => (Prog.Obeys.perform fun _ => rfl).bind fun _ _ =>
        .ret trivial

/-- The generated code, or the given one. -/
theorem unmarked_generateShortCode (rng : Nat → GeneratedCode) (fuel n : Nat) :
    (generateShortCode rng fuel n).Obeys Call.Unmarked fun res =>
      ∀ code : String, res = .ok code → ∃ g : GeneratedCode, code = g := by
  induction fuel generalizing n with
  | zero => exact Prog.obeys_call.2 ⟨fun r => Empty.elim r, fun r => Empty.elim r⟩
  | succ fuel ih =>
    refine (Prog.Obeys.perform (q := Call.shortCodeExists (rng n)) fun _ => rfl).bind fun taken _ =>
      ?_
    rcases taken with err | taken | taken
    · exact .ret fun _ h => by cases h
    · exact .ret fun code h => ⟨rng n, by cases h; rfl⟩
    · exact ih (n + 1)

theorem unmarked_chooseShortCode (app : App) (rng : Nat → GeneratedCode)
    (requested : Option String) :
    (chooseShortCode app rng requested).Obeys Call.Unmarked fun res =>
      ∀ code : String, res = .ok code → requested = some code ∨ ∃ g : GeneratedCode, code = g := by
  have hgenerated : (generateShortCode rng app.codeFuel 0).Obeys Call.Unmarked fun res =>
      ∀ code : String, res = .ok code → requested = some code ∨ ∃ g : GeneratedCode, code = g :=
    (unmarked_generateShortCode rng app.codeFuel 0).mono (fun _ h => h) fun _ h code hc =>
      .inr (h code hc)
  unfold chooseShortCode
  cases requested with
  | none => exact hgenerated
  | some code =>
    refine .ite (fun _ => hgenerated) fun _ => .ret fun code' h => .inl ?_
    cases h
    rfl

/-! ### The handlers -/

section Handlers

variable {app : App} {r : ApiRequest} {marks : List AuditMark} {a : Response}

theorem audits_none (hmarks : marks.filterMap AuditMark.event? = [])
    (h : AcknowledgesNone r a marks) :
    Audits app r marks (.ret a) :=
  .ret (.inr ⟨hmarks, h⟩)

theorem audits_one {e : Event} (hmarks : marks.filterMap AuditMark.event? = [e])
    (h : Acknowledges app r a e) :
    Audits app r marks (.ret a) :=
  .ret (.inl ⟨e, hmarks, h⟩)

theorem saveUrl_audits {url : Url} {event : Event} {response : Response}
    (h : Acknowledges app r response event) (hfail : AcknowledgesNone r serverError []) :
    Audits app r [] (saveUrl app url event response) := by
  refine .perform atMostOne_nil fun res _ => ?_
  cases res with
  | error err => exact audits_none rfl hfail
  | ok _ =>
    refine .silent (Nat.le_refl 1) (unmarked_invalidateRedirect ..) fun _ _ => ?_
    refine .silent (Nat.le_refl 1) (unmarked_invalidateUrlLists ..) fun _ _ => ?_
    exact audits_one rfl h

theorem parseJsonBody_refused {body : Body} {err : Response} (h : parseJsonBody body = .error err) :
    400 ≤ err.status := by
  obtain ⟨status, message, rfl, hstatus⟩ := parseJsonBody_error h
  show 400 ≤ status
  omega

theorem checkUpdate_refused {hosts : HostChecks} {body : Body} {err : Response}
    (h : checkUpdate hosts body = .error err) : 400 ≤ err.status := by
  unfold checkUpdate at h
  cases hparse : parseJsonBody body with
  | error err' =>
    rw [hparse] at h
    cases h
    exact parseJsonBody_refused hparse
  | ok data =>
    rw [hparse] at h
    change (if data.length = 0 then _ else _) = _ at h
    split at h
    · cases h
      exact (by decide : 400 ≤ 400)
    · -- the three fields, each with a check of its own
      dsimp only [Bind.bind, Except.bind, Pure.pure, Except.pure, throw, throwThe,
        MonadExceptOf.throw] at h
      repeat' split at h
      all_goals cases h
      all_goals simp [errorResponse, jsonResponse, serverError]

theorem updateUrl_audits (urlId : Int) (body : Body) (now : DateTime) :
    Audits app (.url (.updateUrl urlId body now)) [] (updateUrl app urlId body now) := by
  refine .perform atMostOne_nil fun found hfound => ?_
  cases found with
  | none => exact audits_none rfl (by decide : 400 ≤ 404)
  | some url =>
    dsimp only
    cases hcheck : checkUpdate app.hosts body with
    | error err => exact audits_none rfl (checkUpdate_refused hcheck)
    | ok d =>
      refine saveUrl_audits ⟨rfl, rfl, hfound, d, d.apply now url, hcheck, rfl, hfound, rfl, rfl⟩ ?_
      exact (by decide : 400 ≤ 500)

theorem deleteUrl_audits (urlId : Int) (now : DateTime) :
    Audits app (.url (.deleteUrl urlId now)) [] (deleteUrl app urlId now) := by
  refine .perform atMostOne_nil fun found hfound => ?_
  cases found with
  | none => exact audits_none rfl (.inr rfl)
  | some url => exact saveUrl_audits ⟨rfl, rfl, hfound, rfl⟩ (.inl (by decide : 400 ≤ 500))

/-- The click log, and the answer to it. -/
theorem click_audits {url : Url} {code : String} (hcode : url.shortCode = code) (location : String)
    (now : DateTime) :
    Audits app (.url (.redirectToUrl code now)) [] (do
      let logged ← logClickEvent url now
      pure (clickResponse location logged)) := by
  refine .perform atMostOne_nil fun logged _ => ?_
  cases logged with
  | error err => exact audits_none rfl (.inl (by decide : 400 ≤ 500))
  | ok id => exact audits_one rfl ⟨url, location, hcode, rfl, rfl⟩

theorem redirectToUrl_audits (code : String) (now : DateTime) :
    Audits app (.url (.redirectToUrl code now)) [] (redirectToUrl app code now) := by
  have hfail : ∀ {status : Nat} {marks : List AuditMark} {body : Json}, 400 ≤ status →
      AcknowledgesNone (.url (.redirectToUrl code now)) (jsonResponse status body) marks :=
        fun h => .inl h
  refine .silent atMostOne_nil (unmarked_getCachedRedirect ..) fun cached _ => ?_
  cases cached with
  | some cached =>
    refine .ite (fun _ => audits_none rfl (hfail (by decide))) fun _ =>
      .perform atMostOne_nil fun found hfound => ?_
    rcases found with err | _ | url
    · exact audits_none rfl (hfail (by decide))
    · exact audits_none rfl (.inr ⟨rfl, List.mem_singleton_self _⟩)
    · exact click_audits hfound cached.url now
  | none =>
    refine .perform atMostOne_nil fun found hfound => ?_
    rcases found with err | _ | url
    · exact audits_none rfl (hfail (by decide))
    · exact audits_none rfl (hfail (by decide))
    · refine .silent atMostOne_nil (unmarked_cacheRedirect ..) fun _ _ => ?_
      exact .ite (fun _ => audits_none rfl (hfail (by decide))) fun _ =>
        click_audits hfound url.originalUrl now

theorem insertUrl_audits {body : Body} {now : DateTime} {rng : Nat → GeneratedCode}
    {shortCode originalUrl : String} (hcreates : CreatesWith app body shortCode originalUrl)
    (userId : Int) (userIdJson : Json) (title : String) :
    Audits app (.url (.createShortUrl body now rng)) []
      (insertUrl app userId userIdJson shortCode originalUrl title now) := by
  refine .perform atMostOne_nil fun taken _ => ?_
  rcases taken with err | taken | taken
  · exact audits_none rfl (by decide : 400 ≤ 500)
  · refine .perform atMostOne_nil fun res _ => ?_
    cases res with
    | error err => exact audits_none rfl (by decide : 400 ≤ 500)
    | ok id =>
      refine .silent (Nat.le_refl 1) (unmarked_cacheRedirect ..) fun _ _ => ?_
      refine .silent (Nat.le_refl 1) (unmarked_invalidateUrlLists ..) fun _ _ => ?_
      exact audits_one rfl ⟨rfl, rfl, shortCode, originalUrl, userIdJson, _, hcreates, rfl, rfl,
        rfl, rfl, rfl, rfl⟩
  · exact audits_none rfl (by decide : 400 ≤ 409)

theorem createShortUrl_audits (body : Body) (now : DateTime) (rng : Nat → GeneratedCode) :
    Audits app (.url (.createShortUrl body now rng)) [] (createShortUrl app body now rng) := by
  have hfail : ∀ {status : Nat} {json : Json}, 400 ≤ status →
      Audits app (.url (.createShortUrl body now rng)) [] (.ret (jsonResponse status json)) :=
    fun h => audits_none rfl h
  unfold createShortUrl
  cases hbody : parseJsonBody body with
  | error err => exact audits_none rfl (parseJsonBody_refused hbody)
  | ok data =>
    refine .ite (fun _ => hfail (by decide)) fun _ => ?_
    cases hurl : validateUrl app.hosts (data.getNone "original_url") with
    | raised => exact hfail (by decide)
    | invalid message => exact hfail (by decide)
    | valid originalUrl =>
      dsimp only
      cases (data.getNone "user_id").asInt with
      | none => exact hfail (by decide)
      | some userId =>
        cases newTitle data with
        | none => exact hfail (by decide)
        | some title =>
          refine .perform atMostOne_nil fun user _ => ?_
          cases user with
          | none => exact hfail (by decide)
          | some user =>
            dsimp only
            cases hcode : requestedShortCode data with
            | none => exact hfail (by decide)
            | some requested =>
              refine .silent atMostOne_nil (unmarked_chooseShortCode app rng requested)
                fun res hres => ?_
              cases res with
              | error err => exact hfail (by decide)
              | ok shortCode =>
                refine insertUrl_audits ⟨data, hbody, hurl, ?_⟩ userId _ title
                rcases hres shortCode rfl with h | h
                · exact .inl (by rw [hcode, h])
                · exact .inr h

theorem checkEvent_refused {data : JsonObject} {err : Response}
    (h : EventRoutes.checkEvent data = .error err) :
    400 ≤ err.status := by
  unfold EventRoutes.checkEvent at h
  repeat' split at h
  all_goals cases h
  all_goals exact Nat.le_refl 400

theorem createEventRoute_audits (body : Body) (now : DateTime) :
    Audits app (.createEvent body now) [] (EventRoutes.createEvent body now) := by
  have hfail : ∀ {status : Nat} {json : Json}, 400 ≤ status →
      Audits app (.createEvent body now) [] (.ret (jsonResponse status json)) :=
        fun h => audits_none rfl h
  unfold EventRoutes.createEvent
  cases hbody : parseJsonBody body with
  | error err => exact audits_none rfl (parseJsonBody_refused hbody)
  | ok data =>
    dsimp only
    cases hcheck : EventRoutes.checkEvent data with
    | error err => exact audits_none rfl (checkEvent_refused hcheck)
    | ok n =>
      refine .perform atMostOne_nil fun url _ => ?_
      cases url with
      | none => exact hfail (by decide)
      | some url =>
        refine .perform atMostOne_nil fun user _ => ?_
        cases user with
        | none => exact hfail (by decide)
        | some user =>
          dsimp only
          cases hdetails : normalizeDetails ((data.get? "details").getD (.obj [])) with
          | error message => exact hfail (by decide)
          | ok details =>
            refine .perform atMostOne_nil fun res _ => ?_
            cases res with
            | error err => exact hfail (by decide)
            | ok id => exact audits_one rfl ⟨data, n, id, hbody, hcheck, rfl, hdetails, rfl⟩

theorem handleApi_audits (app : App) (r : ApiRequest) : Audits app r [] (handleApi app r) := by
  cases r with
  | createEvent body now => exact createEventRoute_audits body now
  | url r =>
    cases r with
    | createShortUrl body now rng => exact createShortUrl_audits body now rng
    | listUrls page perPage userId isActive =>
      refine .of_obeys atMostOne_nil ((unmarked_listUrls app page perPage userId isActive).mono
        (fun _ h => h) fun _ _ => ?_)
      exact .inr ⟨rfl, trivial⟩
    | updateUrl urlId body now => exact updateUrl_audits urlId body now
    | deleteUrl urlId now => exact deleteUrl_audits urlId now
    | redirectToUrl code now => exact redirectToUrl_audits code now
    | expire key => exact .perform atMostOne_nil fun _ _ => audits_none rfl trivial

end Handlers

/-! ## Any order of steps -/

/-- A redirect and a delete of its URL. -/
def clickAndDelete : Fin 2 → ApiRequest
  | 0 => .url (.redirectToUrl "abc123" (sampleTime 2))
  | 1 => .url (.deleteUrl 1 (sampleTime 3))

end PeHackathon.UrlShortener
