import PeHackathon.Lib.Alone
import PeHackathon.UrlShortener.Calls
import PeHackathon.UrlShortener.Routes.Events

/-!
# What a request writes

`serveApi_outcome`: of each request, the event it may add (`Wrote`) and the short code it may issue.
A request that is refused adds nothing; no request loses a URL or changes a short code.
-/

namespace PeHackathon.UrlShortener

open Lib

/-! ## Rows -/

/-- What `Event.create` stores of an event. -/
structure EventRow (e row : Event) : Prop where
  eventType : varchar 50 e.eventType = some row.eventType
  details : row.details = e.details
  urlId : row.urlId = e.urlId

namespace Tables

variable {db : Tables} {u : Url} {e row : Event}

theorem createEvent_mem (h : row ∈ (db.createEvent e).2.events) :
    row ∈ db.events ∨ (∃ id, (db.createEvent e).1 = .ok id) ∧ EventRow e row := by
  unfold createEvent at h ⊢
  split at h
  · rename_i type details htype hdetails
    dsimp only at h ⊢
    split at h
    · exact .inl h
    · rename_i hfree
      rcases List.mem_append.1 h with h | h
      · exact .inl h
      · rw [List.mem_singleton.1 h, if_neg hfree]
        refine .inr ⟨⟨_, rfl⟩, htype, ?_, rfl⟩
        unfold textColumn at hdetails
        split at hdetails
        · exact (Option.some.inj hdetails).symm
        · cases hdetails
  · exact .inl h

theorem saveUrlTx_mem (h : row ∈ (db.saveUrlTx u e).2.events) :
    row ∈ db.events ∨ (db.saveUrlTx u e).1 = .ok () ∧ EventRow e row := by
  obtain ⟨_, _, _, hev, _⟩ | ⟨_, _, hok, _, _, hdb⟩ := saveUrlTx_cases db u e
  · rw [hev] at h
    exact .inl h
  · rw [hdb] at h
    rcases createEvent_mem h with h | ⟨-, hrow⟩
    · exact .inl h
    · exact .inr ⟨hok, hrow⟩

end Tables

/-! ## The short codes -/

/-- No URL is lost, none gets another short code, and the new short codes are among the `issued`
ones. -/
structure CodesGrow (db db' : Db) (issued : String → Prop) : Prop where
  kept : ∀ id v, db.urlGetById id = some v → ∃ v', db'.urlGetById id = some v' ∧
    v'.shortCode = v.shortCode
  codes : ∀ v ∈ db'.urls, (∃ v₀ ∈ db.urls, v₀.shortCode = v.shortCode) ∨ issued v.shortCode

namespace Db

variable {db db' : Db} {u v₀ : Url} {e row : Event} {issued : String → Prop}

theorem sameUrls_codesGrow (h : Tables.SameUrls db.toTables db'.toTables) :
    CodesGrow db db' issued where
  kept id v hv := ⟨v, by rw [h.urlGetById]; exact hv, rfl⟩
  codes v hv := .inl ⟨v, h.urls ▸ hv, rfl⟩

/-- A `create` adds the stored form of its row, if it is committed. -/
theorem createUrlTx_codesGrow (hissued : ∀ id row, (db.createUrlTx u e).1 = .ok id →
    storeUrl u = some row →
    issued row.shortCode) : CodesGrow db (db.createUrlTx u e).2 issued := by
  cases hres : (db.createUrlTx u e).1 with
  | error err => exact sameUrls_codesGrow (createUrlTx_error hres)
  | ok id =>
    obtain ⟨_, _, -, -, hkept⟩ := createUrlTx_ok hres
    refine ⟨fun id v hv => ⟨v, hkept id v hv, rfl⟩, fun v hv => ?_⟩
    obtain ⟨_, herr, _⟩ | ⟨row, hrow, _, _, _, _, hdb⟩ := Tables.createUrlTx_cases db.toTables u e
    · rw [createUrlTx, herr] at hres
      cases hres
    · rw [createUrlTx] at hv
      dsimp only at hv
      rw [hdb, (Tables.createEvent_sameUrls _ _).urls] at hv
      rcases List.mem_append.1 hv with hv | hv
      · exact .inl ⟨v, hv, rfl⟩
      · rw [List.mem_singleton.1 hv]
        exact .inr (hissued id row hres hrow)

theorem saveUrlTx_codesGrow (hload : db.urlGetById u.id = some v₀)
    (hcode : u.shortCode = v₀.shortCode) :
    CodesGrow db (db.saveUrlTx u e).2 issued := by
  cases hres : (db.saveUrlTx u e).1 with
  | error err => exact sameUrls_codesGrow (saveUrlTx_error hres)
  | ok _ =>
    obtain ⟨row, -, hrc, -, hkept⟩ := saveUrlTx_ok hres hload hcode
    refine ⟨hkept, fun v hv => .inl ?_⟩
    obtain ⟨_, herr, _⟩ | ⟨row', hrow', _, _, _, hdb⟩ := Tables.saveUrlTx_cases db.toTables u e
    · rw [saveUrlTx, herr] at hres
      cases hres
    · rw [saveUrlTx] at hv
      dsimp only at hv
      rw [hdb, (Tables.createEvent_sameUrls _ _).urls] at hv
      obtain ⟨v₁, hv₁, rfl⟩ := List.mem_map.1 hv
      split
      · -- the saved row has the short code it was read with
        have hfits :=
          (storeUrl_storedAs (db.valid.stored v₀ (db.valid.urlGetById_eq_some.1 hload).1)).shortCode
        refine ⟨v₀, (db.valid.urlGetById_eq_some.1 hload).1, ?_⟩
        rw [(storeUrl_storedAs hrow').shortCode_eq (by rw [hcode]; exact hfits), hcode]
      · exact ⟨v₁, hv₁, rfl⟩

/-- The event of a committed `create` is about the row that was added. -/
theorem createUrlTx_mem (h : row ∈ (db.createUrlTx u e).2.events) :
    row ∈ db.events ∨ ∃ id v, (db.createUrlTx u e).1 = .ok id ∧ storeUrl u = some v ∧
      (db.createUrlTx u e).2.urlGetById row.urlId = some { v with id } ∧
      EventRow { e with urlId := id } row := by
  obtain ⟨_, _, _, hev, _⟩ | ⟨v, hv, hok, hid, hcode, huser, hdb⟩ :=
    Tables.createUrlTx_cases db.toTables u e
  · rw [createUrlTx] at h
    dsimp only at h
    rw [hev] at h
    exact .inl h
  · have hvalid := Tables.insertUrl_valid db.valid (storeUrl_storedAs hv).again hid hcode huser
    rw [createUrlTx] at h ⊢
    dsimp only at h ⊢
    rw [hdb] at h ⊢
    rcases Tables.createEvent_mem h with h | ⟨-, hrow⟩
    · exact .inl h
    · refine .inr ⟨db.urlsIdSeq, v, hok, hv, ?_, hrow⟩
      rw [(Tables.createEvent_sameUrls _ _).urlGetById, hvalid.urlGetById_eq_some, hrow.urlId]
      exact ⟨List.mem_append_right _ (List.mem_singleton_self _), rfl⟩

end Db

/-! ## What each request writes -/

/-- The values that a create works with. -/
def CreatesWith (app : App) (body : Body) (shortCode originalUrl : String) : Prop :=
  ∃ data, parseJsonBody body = .ok data ∧
    validateUrl app.hosts (data.getNone "original_url") = .valid originalUrl ∧
    (requestedShortCode data = some (some shortCode) ∨ ∃ code : GeneratedCode, shortCode = code)

/-- A create issues the short code that PostgreSQL stores. -/
def ApiRequest.Issues (app : App) : ApiRequest → String → Prop
  | .url (.createShortUrl body _ _), code =>
    ∃ shortCode originalUrl, CreatesWith app body shortCode originalUrl ∧
      varchar 20 shortCode = some code
  | _, _ => False

/-- The event that a request adds, when it leads from one database to the other. -/
inductive Wrote (app : App) (db db' : Db) : ApiRequest → Event → Prop
  | created {body : Body} {now : DateTime} {rng : Nat → GeneratedCode}
      {shortCode originalUrl : String} {u : Url}
      {e : Event} (h : CreatesWith app body shortCode originalUrl)
        (hu : db'.urlGetById e.urlId = some u)
      (hcode : varchar 20 shortCode = some u.shortCode)
        (hurl : varchar 2048 originalUrl = some u.originalUrl)
      (hdetails : e.details = createdDetails shortCode originalUrl) :
      Wrote app db db' (.url (.createShortUrl body now rng)) e
  | updated {urlId : Int} {body : Body} {now : DateTime} {d : UrlUpdate} {e : Event}
      (hcheck : checkUpdate app.hosts body = .ok d) (htype : e.eventType = "updated")
      (hdetails : e.details = updatedDetails app.printable d.keys) :
      Wrote app db db' (.url (.updateUrl urlId body now)) e
  | deleted {urlId : Int} {now : DateTime} {u : Url} {e : Event} (hu : u ∈ db.urls)
      (htype : e.eventType = "deleted")
      (hdetails : e.details = deletedDetails u.shortCode) : Wrote app db db'
        (.url (.deleteUrl urlId now)) e
  | clicked {code : String} {now : DateTime} {u : Url} {e : Event} (hu : u ∈ db.urls)
      (htype : e.eventType = "click")
      (hdetails : e.details = (clickEvent u now).details) : Wrote app db db'
        (.url (.redirectToUrl code now)) e
  | posted {body : Body} {now : DateTime} {data : JsonObject} {n : EventRoutes.NewEvent} {u : Url}
      {e : Event}
      (hbody : parseJsonBody body = .ok data) (hcheck : EventRoutes.checkEvent data = .ok n)
      (hu : db.urlGetById n.urlId = some u) (hu' : db'.urlGetById e.urlId = some u)
      (htype : varchar 50 (pyStrip n.eventType) = some e.eventType)
      (hdetails : normalizeDetails ((data.get? "details").getD (.obj [])) = .ok e.details) :
      Wrote app db db' (.createEvent body now) e

/-- What a request that is answered with `a` makes of a database. -/
structure Outcome (app : App) (db : Db) (r : ApiRequest) (a : Response) (db' : Db) : Prop where
  events : ∀ e ∈ db'.events, e ∈ db.events ∨ a.status < 400 ∧ Wrote app db db' r e
  codes : CodesGrow db db' fun code => a.status < 400 ∧ r.Issues app code

section Outcomes

variable {scanner : Scanner} {app : App} {db db' : Db} {r : ApiRequest} {a : Response}

theorem Outcome.refl : Outcome app db r a db where
  events _ he := .inl he
  codes := Db.sameUrls_codesGrow ⟨rfl, rfl⟩

/-- The event of an insertion that did not go with another write. -/
theorem createEvent_outcome {e : Event}
    (hstatus : ∀ id, (db.createEvent e).1 = .ok id → a.status < 400)
    (hwrote : ∀ row, EventRow e row → Wrote app db (db.createEvent e).2 r row) :
    Outcome app db r a (db.createEvent e).2 where
  events row hrow := by
    rcases Tables.createEvent_mem hrow with h | ⟨⟨id, hid⟩, hrow⟩
    · exact .inl h
    · exact .inr ⟨hstatus id hid, hwrote row hrow⟩
  codes := Db.sameUrls_codesGrow (Tables.createEvent_sameUrls db.toTables e)

/-- An event type that fits is stored as it is. -/
theorem EventRow.type_eq {e row : Event} {type : String} (h : EventRow e row)
    (htype : e.eventType = type) (hfits : varchar 50 type = some type) : row.eventType = type := by
  have := h.eventType
  rw [htype, hfits] at this
  exact (Option.some.inj this).symm

/-! ### The rules -/

section Rules

variable {α β : Type} {post : β → World Unit → Prop}

/-- A call with one answer. -/
theorem ask_triple {q : Call} (ans : Answer q) (db' : Db) {k : Answer q → Handler β}
    (h : ∀ w : World Unit, w.db = db → ∀ r w', respond scanner () w q = some (r, w') → r = ans ∧
      w'.db = db')
    (hk : (server scanner).Triple () (fun w => w.db = db') (k ans) post) :
    (server scanner).Triple () (fun w => w.db = db) (ask q >>= k) post := by
  have hcall : (server scanner).Triple () (fun w => w.db = db) (ask q) fun r w => r = ans ∧
      w.db = db' :=
    .perform fun _ w r w' hw hr => h w hw r w' hr
  refine .bind hcall fun r => .assume fun hr => ?_
  rw [hr]
  exact hk

theorem urlGetById_triple {id : Int} {k : Option Url → Handler β}
    (hk : (server scanner).Triple () (fun w => w.db = db) (k (db.urlGetById id)) post) :
    (server scanner).Triple () (fun w => w.db = db) (urlGetById id >>= k) post :=
  ask_triple _ db (fun w hw r w' hr => by cases hr; exact ⟨by rw [hw], hw⟩) hk

theorem userGetById_triple {id : Int} {k : Option User → Handler β}
    (hk : (server scanner).Triple () (fun w => w.db = db) (k (db.userGetById id)) post) :
    (server scanner).Triple () (fun w => w.db = db) (userGetById id >>= k) post :=
  ask_triple _ db (fun w hw r w' hr => by cases hr; exact ⟨by rw [hw], hw⟩) hk

theorem urlGetByCode_triple {code : String} {k : Except DbError (Option Url) → Handler β}
    (hk : (server scanner).Triple () (fun w => w.db = db) (k (db.urlGetByCode code)) post) :
    (server scanner).Triple () (fun w => w.db = db) (urlGetByCode code >>= k) post :=
  ask_triple _ db (fun w hw r w' hr => by cases hr; exact ⟨by rw [hw], hw⟩) hk

theorem shortCodeExists_triple {code : String} {k : Except DbError Bool → Handler β}
    (hk : (server scanner).Triple () (fun w => w.db = db) (k (db.shortCodeExists code)) post) :
    (server scanner).Triple () (fun w => w.db = db) (shortCodeExists code >>= k) post :=
  ask_triple _ db (fun w hw r w' hr => by cases hr; exact ⟨by rw [hw], hw⟩) hk

theorem createEvent_triple {e : Event} {k : Except DbError Int → Handler β}
    (hk : (server scanner).Triple () (fun w => w.db = (db.createEvent e).2)
      (k (db.createEvent e).1) post) :
    (server scanner).Triple () (fun w => w.db = db) (createEvent e >>= k) post :=
  ask_triple _ _ (fun w hw r w' hr => by cases hr; exact ⟨by rw [hw], by rw [hw]⟩) hk

theorem createUrlTx_triple {u : Url} {e : Event} {k : Except DbError Int → Handler β}
    (hk : (server scanner).Triple () (fun w => w.db = (db.createUrlTx u e).2)
      (k (db.createUrlTx u e).1) post) :
    (server scanner).Triple () (fun w => w.db = db) (createUrlTx u e >>= k) post :=
  ask_triple _ _ (fun w hw r w' hr => by cases hr; exact ⟨by rw [hw], by rw [hw]⟩) hk

theorem saveUrlTx_triple {u : Url} {e : Event} {k : Except DbError Unit → Handler β}
    (hk : (server scanner).Triple () (fun w => w.db = (db.saveUrlTx u e).2)
      (k (db.saveUrlTx u e).1) post) :
    (server scanner).Triple () (fun w => w.db = db) (saveUrlTx u e >>= k) post := by
  refine ask_triple _ _ (fun w hw r w' hr => ?_) hk
  obtain ⟨hsave, hdb⟩ := w.save_db () u e
  rw [respond_saveUrlTx, hsave, Option.some.injEq, Prod.mk.injEq] at hr
  rw [← hr.1, ← hr.2, hdb, hw]
  exact ⟨rfl, rfl⟩

/-- A part that does not write to the database. -/
theorem leavesDb_triple {p : Handler α} {k : α → Handler β} (hp : p.All Call.LeavesDb)
    (hk : ∀ a, (server scanner).Triple () (fun w => w.db = db) (k a) post) :
    (server scanner).Triple () (fun w => w.db = db) (p >>= k) post :=
  .bind (.of_all (fun _ _ _ _ _ hq hw hr => (respond_leavesDb hq hr).trans hw) hp) hk

end Rules

/-! ### The handlers -/

/-- From `db₁` the program ends in an outcome of the request that began on `db`. -/
def Ends (scanner : Scanner) (app : App) (db : Db) (r : ApiRequest) (db₁ : Db)
    (p : Handler Response) : Prop :=
  (server scanner).Triple () (fun w => w.db = db₁) p fun a w => Outcome app db r a w.db

theorem Ends.ret {db₁ : Db} (h : Outcome app db r a db₁) : Ends scanner app db r db₁ (.ret a) :=
  Server.Triple.ret fun w hw => by rw [hw]; exact h

theorem saveUrl_ends {url : Url} (v₀ : Url) {event : Event} {response : Response}
    (hload : db.urlGetById url.id = some v₀) (hcode : url.shortCode = v₀.shortCode)
    (hstatus : response.status < 400)
    (hwrote : ∀ row, EventRow event row → Wrote app db (db.saveUrlTx url event).2 r row) :
    Ends scanner app db r db (saveUrl app url event response) := by
  have hcodes : ∀ issued, CodesGrow db (db.saveUrlTx url event).2 issued := fun _ =>
    Db.saveUrlTx_codesGrow hload hcode
  unfold saveUrl
  refine saveUrlTx_triple ?_
  cases hres : (db.saveUrlTx url event).1 with
  | error err =>
    refine Ends.ret ⟨fun row hrow => ?_, hcodes _⟩
    rcases Tables.saveUrlTx_mem hrow with h | ⟨hok, -⟩
    · exact .inl h
    · rw [Db.saveUrlTx, hok] at hres
      cases hres
  | ok _ =>
    refine leavesDb_triple (invalidateRedirect_all (fun _ => trivial) ..) fun _ => ?_
    refine leavesDb_triple (invalidateUrlLists_all (fun q hq => hq.leavesDb) (fun _ => trivial) ..)
      fun _ => ?_
    refine Ends.ret ⟨fun row hrow => ?_, hcodes _⟩
    rcases Tables.saveUrlTx_mem hrow with h | ⟨-, hrow⟩
    · exact .inl h
    · exact .inr ⟨hstatus, hwrote row hrow⟩

theorem updateUrl_ends (urlId : Int) (body : Body) (now : DateTime) :
    Ends scanner app db (.url (.updateUrl urlId body now)) db (updateUrl app urlId body now) := by
  unfold updateUrl
  refine urlGetById_triple ?_
  cases hload : db.urlGetById urlId with
  | none => exact Ends.ret .refl
  | some url =>
    have hid := (db.valid.urlGetById_eq_some.1 hload).2
    dsimp only
    cases hcheck : checkUpdate app.hosts body with
    | error err => exact Ends.ret .refl
    | ok d =>
      refine saveUrl_ends url (by rw [← hid] at hload; exact hload) rfl
        (by decide : (200 : Nat) < 400)
        fun row hrow => .updated hcheck (hrow.type_eq rfl (by decide)) hrow.details

theorem deleteUrl_ends (urlId : Int) (now : DateTime) :
    Ends scanner app db (.url (.deleteUrl urlId now)) db (deleteUrl app urlId now) := by
  unfold deleteUrl
  refine urlGetById_triple ?_
  cases hload : db.urlGetById urlId with
  | none => exact Ends.ret .refl
  | some url =>
    obtain ⟨hmem, hid⟩ := db.valid.urlGetById_eq_some.1 hload
    refine saveUrl_ends url (by rw [← hid] at hload; exact hload) rfl
      (by decide : (200 : Nat) < 400)
      fun row hrow => .deleted hmem (hrow.type_eq rfl (by decide)) hrow.details

/-- The click log, and the answer to it. -/
theorem click_ends {url : Url} (hu : url ∈ db.urls) (code location : String) (now : DateTime) :
    Ends scanner app db (.url (.redirectToUrl code now)) db (do
      let logged ← logClickEvent url now
      pure (clickResponse location logged)) := by
  refine createEvent_triple (Ends.ret (createEvent_outcome (fun id hid => ?_) fun row hrow => ?_))
  · rw [hid]
    exact (by decide : (302 : Nat) < 400)
  · exact .clicked hu (hrow.type_eq rfl (by decide)) hrow.details

theorem urlGetByCode_mem {code : String} {url : Url} (h : db.urlGetByCode code = .ok (some url)) :
    url ∈ db.urls := by
  unfold Tables.urlGetByCode at h
  split at h
  · exact (db.valid.urlByCode_eq_some.1 (Except.ok.inj h)).1
  · cases h

theorem redirectToUrl_ends (code : String) (now : DateTime) :
    Ends scanner app db (.url (.redirectToUrl code now)) db (redirectToUrl app code now) := by
  unfold redirectToUrl
  refine leavesDb_triple (getCachedRedirect_all (fun q hq => hq.leavesDb) ..) fun cached => ?_
  cases cached with
  | some cached =>
    refine .ite (fun _ => Ends.ret .refl) fun _ => urlGetByCode_triple ?_
    rcases hread : db.urlGetByCode code with err | _ | url
    · exact Ends.ret .refl
    · exact Ends.ret .refl
    · exact click_ends (urlGetByCode_mem hread) code cached.url now
  | none =>
    refine urlGetByCode_triple ?_
    rcases hread : db.urlGetByCode code with err | _ | url
    · exact Ends.ret .refl
    · exact Ends.ret .refl
    · refine leavesDb_triple (cacheRedirect_all (fun _ _ => trivial) ..) fun _ => ?_
      exact .ite (fun _ => Ends.ret .refl) fun _ => click_ends (urlGetByCode_mem hread)
        code url.originalUrl now

/-! ### `create_short_url` -/

theorem generateShortCode_obeys (rng : Nat → GeneratedCode) (fuel n : Nat) :
    (generateShortCode rng fuel n).Obeys Call.LeavesDb fun res =>
      ∀ code : String, res = .ok code → ∃ g : GeneratedCode, code = g := by
  induction fuel generalizing n with
  | zero => exact Prog.obeys_call.2 ⟨trivial, fun r => nomatch r⟩
  | succ fuel ih =>
    have hread : Call.LeavesDb (.shortCodeExists (rng n)) := trivial
    refine (Prog.Obeys.perform hread).bind fun taken _ => ?_
    rcases taken with err | taken | taken
    · exact Prog.obeys_ret.2 fun _ h => by cases h
    · exact Prog.obeys_ret.2 fun code h => ⟨rng n, by cases h; rfl⟩
    · exact ih (n + 1)

theorem chooseShortCode_obeys (rng : Nat → GeneratedCode) (requested : Option String) :
    (chooseShortCode app rng requested).Obeys Call.LeavesDb fun res =>
      ∀ code : String, res = .ok code → requested = some code ∨ ∃ g : GeneratedCode, code = g := by
  have hgenerated : (generateShortCode rng app.codeFuel 0).Obeys Call.LeavesDb fun res =>
      ∀ code : String, res = .ok code → requested = some code ∨ ∃ g : GeneratedCode, code = g :=
    (generateShortCode_obeys rng app.codeFuel 0).mono (fun _ h => h) fun _ h code hc =>
      .inr (h code hc)
  unfold chooseShortCode
  cases requested with
  | none => exact hgenerated
  | some code =>
    refine .ite (fun _ => hgenerated) fun _ => Prog.obeys_ret.2 fun code' h => .inl ?_
    cases h
    rfl

theorem insertUrl_ends {body : Body} {now : DateTime} {rng : Nat → GeneratedCode}
    {shortCode originalUrl : String} (hcreates : CreatesWith app body shortCode originalUrl)
    (userId : Int) (userIdJson : Json) (title : String) :
    Ends scanner app db (.url (.createShortUrl body now rng)) db
      (insertUrl app userId userIdJson shortCode originalUrl title now) := by
  unfold insertUrl
  refine shortCodeExists_triple ?_
  rcases db.shortCodeExists shortCode with err | taken | taken
  · exact Ends.ret .refl
  · refine createUrlTx_triple ?_
    cases hres : (db.createUrlTx _ _).1 with
    | error err =>
      refine Ends.ret ⟨fun row hrow => ?_, Db.createUrlTx_codesGrow fun id row hok => ?_⟩
      · rcases Db.createUrlTx_mem hrow with h | ⟨id, v, hok, -⟩
        · exact .inl h
        · rw [hok] at hres
          cases hres
      · rw [hok] at hres
        cases hres
    | ok id =>
      refine leavesDb_triple (cacheRedirect_all (fun _ _ => trivial) ..) fun _ => ?_
      refine leavesDb_triple (invalidateUrlLists_all (fun q hq => hq.leavesDb) (fun _ => trivial)
        ..) fun _ => ?_
      have hstatus : (201 : Nat) < 400 := by decide
      refine Ends.ret ⟨fun row hrow => ?_, Db.createUrlTx_codesGrow fun id row _ hrow =>
        ⟨hstatus, ?_⟩⟩
      · rcases Db.createUrlTx_mem hrow with h | ⟨id, v, -, hv, hu, hrow⟩
        · exact .inl h
        · have hst := storeUrl_storedAs hv
          exact .inr ⟨hstatus, .created hcreates hu hst.shortCode hst.originalUrl hrow.details⟩
      · exact ⟨shortCode, originalUrl, hcreates, (storeUrl_storedAs hrow).shortCode⟩
  · exact Ends.ret .refl

theorem createShortUrl_ends (body : Body) (now : DateTime) (rng : Nat → GeneratedCode) :
    Ends scanner app db (.url (.createShortUrl body now rng)) db
      (createShortUrl app body now rng) := by
  unfold createShortUrl
  cases hbody : parseJsonBody body with
  | error err => exact Ends.ret .refl
  | ok data =>
    refine .ite (fun _ => Ends.ret .refl) fun _ => ?_
    cases hurl : validateUrl app.hosts (data.getNone "original_url") with
    | raised => exact Ends.ret .refl
    | invalid message => exact Ends.ret .refl
    | valid originalUrl =>
      dsimp only
      cases (data.getNone "user_id").asInt with
      | none => exact Ends.ret .refl
      | some userId =>
        cases newTitle data with
        | none => exact Ends.ret .refl
        | some title =>
          refine userGetById_triple ?_
          cases db.userGetById userId with
          | none => exact Ends.ret .refl
          | some user =>
            cases hcode : requestedShortCode data with
            | none => exact Ends.ret .refl
            | some requested =>
              refine .bind (.of_obeys (fun _ _ _ _ _ hq hw hr => (respond_leavesDb hq hr).trans hw)
                (chooseShortCode_obeys rng requested)) fun res => .assume fun hres => ?_
              cases res with
              | error err => exact Ends.ret .refl
              | ok shortCode =>
                refine insertUrl_ends ⟨data, hbody, hurl, ?_⟩ userId _ title
                rcases hres shortCode rfl with h | h
                · exact .inl (by rw [hcode, h])
                · exact .inr h

/-! ### The other requests -/

theorem createEventRoute_ends (body : Body) (now : DateTime) :
    Ends scanner app db (.createEvent body now) db (EventRoutes.createEvent body now) := by
  unfold EventRoutes.createEvent
  cases hbody : parseJsonBody body with
  | error err => exact Ends.ret .refl
  | ok data =>
    dsimp only
    cases hcheck : EventRoutes.checkEvent data with
    | error err => exact Ends.ret .refl
    | ok n =>
      refine urlGetById_triple ?_
      cases hu : db.urlGetById n.urlId with
      | none => exact Ends.ret .refl
      | some u =>
        refine userGetById_triple ?_
        cases db.userGetById n.userId with
        | none => exact Ends.ret .refl
        | some user =>
          dsimp only
          cases hdetails : normalizeDetails ((data.get? "details").getD (.obj [])) with
          | error message => exact Ends.ret .refl
          | ok details =>
            refine createEvent_triple ?_
            have houtcome : ∀ a : Response,
                (∀ id, (db.createEvent (EventRoutes.newEvent n details now)).1 = .ok id →
                a.status < 400) → Outcome app db (.createEvent body now) a
                  (db.createEvent (EventRoutes.newEvent n details now)).2 := fun a hstatus =>
              createEvent_outcome hstatus fun row hrow => by
                refine .posted hbody hcheck hu ?_ hrow.eventType ?_
                · rw [Db.createEvent_urlGetById, hrow.urlId]
                  exact hu
                · rw [hrow.details]
                  exact hdetails
            cases hres : (db.createEvent (EventRoutes.newEvent n details now)).1 with
            | error err => exact Ends.ret (houtcome _ fun id hid => by rw [hres] at hid; cases hid)
            | ok id => exact Ends.ret (houtcome _ fun _ _ => (by decide : (201 : Nat) < 400))

theorem leavesDb_ends {p : Handler Response} (hp : p.All Call.LeavesDb) :
    Ends scanner app db r db p :=
  (Server.Triple.of_all (fun _ _ _ _ _ hq hw hr => (respond_leavesDb hq hr).trans hw) hp).mono
    (fun _ h => h) fun _ w hw => by rw [hw]; exact .refl

/-- **What a request writes.** -/
theorem serveApi_outcome {w w' : World Unit} (h : serveApi scanner app r w = some (a, w')) :
    Outcome app w.db r a w'.db := by
  suffices hends : Ends scanner app w.db r w.db (handleApi app r) from
    hends w a w' rfl (Server.runs_of_eval _ _ h)
  cases r with
  | createEvent body now => exact createEventRoute_ends body now
  | url r =>
    cases r with
    | createShortUrl body now rng => exact createShortUrl_ends body now rng
    | listUrls page perPage userId isActive =>
      exact leavesDb_ends (listUrls_all (fun q hq => hq.leavesDb) (fun _ _ _ _ => trivial) ..)
    | updateUrl urlId body now => exact updateUrl_ends urlId body now
    | deleteUrl urlId now => exact deleteUrl_ends urlId now
    | redirectToUrl code now => exact redirectToUrl_ends code now
    | expire key => exact leavesDb_ends ⟨trivial, fun _ => trivial⟩

/-- No request leaves the sequence behind the events. -/
theorem serveApi_eventsAhead {w w' : World Unit} (hw : w.db.EventsAhead)
    (h : serveApi scanner app r w = some (a, w')) : w'.db.EventsAhead :=
  (server scanner).eval_inv () (φ := fun _ => True) (J := fun w : World Unit => w.db.EventsAhead)
    (fun _ _ _ _ _ hw hr => respond_eventsAhead hw hr) (Prog.all_of_forall (fun _ => trivial) _)
      h hw

end Outcomes

end PeHackathon.UrlShortener
