import PeHackathon.UrlShortener.EventWrites
import PeHackathon.UrlShortener.RepeatedDelete

/-!
# What later requests leave of a URL

`KeptUrl` is a URL that is neither updated nor deleted: its active row, and what Redis may hold for
its short code. Each call that is no write of the URL keeps both (`respond_kept`), so each request
does (`serveApi_kept`): the create that would set the entry of the short code to another address is
refused, because the code is taken.
-/

namespace PeHackathon.UrlShortener

open Lib

/-! ## The row -/

/-- The URL has an active row. -/
def HasRow (id : Int) (code url : String) (db : Tables) : Prop :=
  ∃ v ∈ db.urls, v.id = id ∧ v.shortCode = code ∧ v.originalUrl = url ∧ v.isActive = true

section Row

variable {id : Int} {code url : String} {db db' : Tables}

theorem HasRow.mono (h : HasRow id code url db) (hurls : ∀ v ∈ db.urls, v.id = id → v ∈ db'.urls) :
    HasRow id code url db' := by
  obtain ⟨v, hv, hid, hrow⟩ := h
  exact ⟨v, hurls v hv hid, hid, hrow⟩

theorem HasRow.createEvent (h : HasRow id code url db) (e : Event) :
    HasRow id code url (db.createEvent e).2 :=
  h.mono fun v hv _ => by rwa [(Tables.createEvent_sameUrls db e).urls]

/-- A create adds its row, with the new id. -/
theorem Tables.createUrlTx_urls (db : Tables) (u : Url) (e : Event) :
    (∃ err, (db.createUrlTx u e).1 = .error err ∧ (db.createUrlTx u e).2.urls = db.urls) ∨
      ∃ newId row, (db.createUrlTx u e).1 = .ok newId ∧ storeUrl u = some row ∧
        (db.createUrlTx u e).2.urls = db.urls ++ [{ row with id := newId }] := by
  obtain ⟨err, herr, hsame, -⟩ | ⟨row, hrow, hok, -, -, -, hdb⟩ := Tables.createUrlTx_cases db u e
  · exact .inl ⟨err, herr, hsame.urls⟩
  · refine .inr ⟨_, row, hok, hrow, ?_⟩
    rw [hdb, (Tables.createEvent_sameUrls _ _).urls]
    rfl

theorem HasRow.createUrlTx (h : HasRow id code url db) (u : Url) (e : Event) :
    HasRow id code url (db.createUrlTx u e).2 := by
  refine h.mono fun v hv _ => ?_
  obtain ⟨_, -, hurls⟩ | ⟨_, row, -, -, hurls⟩ := db.createUrlTx_urls u e
  · rwa [hurls]
  · rw [hurls]
    exact List.mem_append_left _ hv

theorem HasRow.saveUrlTx (h : HasRow id code url db) {u : Url} (hu : u.id ≠ id) (e : Event) :
    HasRow id code url (db.saveUrlTx u e).2 := by
  refine h.mono fun v hv hid => ?_
  obtain ⟨_, -, hsame, -⟩ | ⟨row, hrow, -, -, -, hdb⟩ := Tables.saveUrlTx_cases db u e
  · rwa [hsame.urls]
  · rw [hdb, (Tables.createEvent_sameUrls _ _).urls]
    have hother : ¬ (v.id == row.id) = true := fun heq => by
      rw [(storeUrl_storedAs hrow).id, beq_iff_eq, hid] at heq
      exact hu heq.symm
    exact List.mem_map.2 ⟨v, hv, if_neg hother⟩

/-- The row of a short code. -/
theorem HasRow.urlByCode {db : Db} (h : HasRow id code url db.toTables) :
    ∃ v, db.urlByCode code = some v ∧ v.id = id ∧ v.originalUrl = url ∧ v.isActive = true := by
  obtain ⟨v, hv, hid, hcode, hrow⟩ := h
  exact ⟨v, db.valid.urlByCode_eq_some.2 ⟨hv, hcode⟩, hid, hrow⟩

end Row

/-! ## The entry -/

/-- What Redis holds for a short code, if anything, is the address, active. -/
def EntryIs (app : App) (code url : String) (w : World Unit) : Prop :=
  app.redis = true → ∀ entry, w.redis.lookup (.redirect code) = some entry →
    entry = (⟨url, true⟩ : CachedRedirect)

/-- The URL as it was created. -/
structure KeptUrl (app : App) (id : Int) (code url : String) (w : World Unit) : Prop where
  row : HasRow id code url w.db.toTables
  entry : EntryIs app code url w

/-- The calls that neither write the URL nor set the entry of its code to something else. -/
def Call.Spares (id : Int) (code url : String) : Call → Prop
  | .saveUrlTx u _ => u.id ≠ id
  | .redisSetex (.redirect c) _ value => c = code → value = (⟨url, true⟩ : CachedRedirect)
  | _ => True

section Calls

variable {scanner : Scanner} {app : App} {id : Int} {code url : String} {w w' : World Unit}
  {q : Call} {r : Answer q}

theorem Call.Reads.spares (h : q.Reads) : q.Spares id code url := by
  cases q with
  | saveUrlTx u e => exact h.elim
  | redisSetex key ttl value => exact h.elim
  | _ => trivial

/-- A call that changes nothing. -/
theorem respond_reads (hq : q.Reads) (h : respond scanner () w q = some (r, w')) : w' = w := by
  cases q with
  | createUrlTx u e | saveUrlTx u e | createEvent e | redisSetex key ttl value
  | redisDelete keys | expire key =>
    exact hq.elim
  | hang => cases h
  | _ => cases h; rfl

theorem EntryIs.of_lookup (h : EntryIs app code url w)
    (hlookup : ∀ e, w'.redis.lookup (.redirect code) = some e →
      w.redis.lookup (.redirect code) = some e) :
    EntryIs app code url w' :=
  fun hredis e he => h hredis e (hlookup e he)

theorem respond_row {code' url' : String} (hq : q.Spares id code url)
    (hw : HasRow id code' url' w.db.toTables) (h : respond scanner () w q = some (r, w')) :
    HasRow id code' url' w'.db.toTables := by
  cases q with
  | createUrlTx u e => cases h; exact hw.createUrlTx u e
  | createEvent e => cases h; exact hw.createEvent e
  | saveUrlTx u e =>
    obtain ⟨hsave, hdb⟩ := w.save_db () u e
    rw [respond_saveUrlTx, hsave, Option.some.injEq, Prod.mk.injEq] at h
    rw [← h.2, hdb]
    exact hw.saveUrlTx hq e
  | hang => cases h
  | _ => cases h; exact hw

theorem respond_entry (hq : q.Spares id code url) (hw : EntryIs app code url w)
    (h : respond scanner () w q = some (r, w')) : EntryIs app code url w' := by
  cases q with
  | redisSetex key ttl value =>
    cases h
    cases key with
    | redirect c =>
      by_cases hc : c = code
      · subst hc
        rw [hq rfl]
        intro _ e he
        rw [AList.lookup_insert] at he
        exact (Option.some.inj he).symm
      · refine hw.of_lookup fun e he => ?_
        rwa [AList.lookup_insert_ne fun heq => hc (RedisKey.redirect.inj heq).symm] at he
    | urlList page perPage =>
      refine hw.of_lookup fun e he => ?_
      rwa [AList.lookup_insert_ne fun heq => by cases heq] at he
  | redisDelete keys =>
    cases h
    refine hw.of_lookup fun e he => ?_
    dsimp only [World.delete] at he
    rw [lookup_foldl_erase] at he
    split at he
    · cases he
    · exact he
  | expire key =>
    cases h
    refine hw.of_lookup fun e he => ?_
    by_cases hkey : RedisKey.redirect code = key
    · subst hkey
      rw [AList.lookup_erase] at he
      cases he
    · rwa [AList.lookup_erase_ne hkey] at he
  | saveUrlTx u e =>
    obtain ⟨hsave, -⟩ := w.save_db () u e
    rw [respond_saveUrlTx, hsave, Option.some.injEq, Prod.mk.injEq] at h
    refine hw.of_lookup fun e he => ?_
    rwa [← h.2, World.save_redis] at he
  | hang => cases h
  | _ => cases h; exact hw

/-- **A call that spares the URL keeps it.** -/
theorem respond_kept (hq : q.Spares id code url) (hw : KeptUrl app id code url w)
    (h : respond scanner () w q = some (r, w')) : KeptUrl app id code url w' :=
  ⟨respond_row hq hw.row h, respond_entry hq hw.entry h⟩

theorem kept_triple {α : Type} {p : Handler α} (hp : p.All (Call.Spares id code url)) :
    (server scanner).Triple () (KeptUrl app id code url) p fun _ w => KeptUrl app id code url w :=
  .of_all (fun _ _ _ _ _ hq hw h => respond_kept hq hw h) hp

end Calls

/-! ## The requests -/

section Requests

variable {scanner : Scanner} {app : App} {id : Int} {code url : String} {w w' : World Unit}
  {P : World Unit → Prop} {post : Response → World Unit → Prop}

theorem reads_triple {α : Type} {p : Handler α} (hp : p.All Call.Reads) :
    (server scanner).Triple () P p fun _ w => P w :=
  .of_all (fun _ _ _ _ _ hq hw h => by rwa [respond_reads hq h]) hp

/-- **The rule of a create**: it reads and refuses, or inserts. -/
theorem createShortUrl_triple {body : Body} {now : DateTime} {rng : Nat → GeneratedCode}
    (hrefused : ∀ a : Response, a.status ≠ 201 → ∀ w, P w → post a w)
    (hinsert : ∀ userId userIdJson shortCode originalUrl title,
      (server scanner).Triple () P (insertUrl app userId userIdJson shortCode originalUrl title now)
        post) :
    (server scanner).Triple () P (createShortUrl app body now rng) post := by
  have hret : ∀ a : Response, a.status ≠ 201 → (server scanner).Triple () P (.ret a) post :=
      fun a ha =>
    .ret fun w hw => hrefused a ha w hw
  have h400 : ∀ message, (errorResponse 400 message).status ≠ 201 :=
    fun _ => (by decide : (400 : Nat) ≠ 201)
  have h404 : (errorResponse 404 "User not found").status ≠ 201 := by decide
  have h500 : serverError.status ≠ 201 := by decide
  unfold createShortUrl
  cases hbody : parseJsonBody body with
  | error err =>
    obtain ⟨status, message, rfl, hstatus⟩ := parseJsonBody_error hbody
    have hrefusal : (errorResponse status message).status ≠ 201 := by
      show status ≠ 201
      omega
    exact hret _ hrefusal
  | ok data =>
    refine .ite (fun _ => hret _ (h400 _)) fun _ => ?_
    cases validateUrl app.hosts (data.getNone "original_url") with
    | raised => exact hret _ h500
    | invalid message => exact hret _ (h400 _)
    | valid originalUrl =>
      dsimp only
      cases (data.getNone "user_id").asInt with
      | none => exact hret _ (h400 _)
      | some userId =>
        cases newTitle data with
        | none => exact hret _ (h400 _)
        | some title =>
          have hread : (ask (.userGetById userId)).All Call.Reads := ⟨trivial, fun _ => trivial⟩
          refine .bind (reads_triple hread) fun user => ?_
          cases user with
          | none => exact hret _ h404
          | some user =>
            cases requestedShortCode data with
            | none => exact hret _ (h400 _)
            | some requested =>
              refine .bind (reads_triple (chooseShortCode_all (fun _ hq => hq) rng requested))
                fun chosen => ?_
              cases chosen with
              | error err => exact hret _ h500
              | ok shortCode => exact hinsert userId _ shortCode originalUrl title

/-- A create under a short code that is taken is refused. -/
theorem insertUrl_kept (userId : Int) (userIdJson : Json) (shortCode originalUrl title : String)
    (now : DateTime) :
    (server scanner).Triple () (KeptUrl app id code url)
      (insertUrl app userId userIdJson shortCode originalUrl title now) fun _ w =>
        KeptUrl app id code url w := by
  by_cases hcode : shortCode = code
  · subst hcode
    have hread : (server scanner).Triple () (KeptUrl app id shortCode url)
        (shortCodeExists shortCode) fun taken w =>
        taken ≠ .ok false ∧ KeptUrl app id shortCode url w := by
      refine .perform fun _ w r w' hw hr => ?_
      cases hr
      obtain ⟨v, hv, -⟩ := hw.row.urlByCode
      refine ⟨fun hfree => ?_, hw⟩
      rw [Tables.shortCodeExists, Tables.urlGetByCode, hv] at hfree
      split at hfree <;> cases hfree
    refine .bind hread fun taken => .assume fun htaken => ?_
    rcases taken with err | taken | taken
    · exact .ret fun _ hw => hw
    · exact absurd rfl htaken
    · exact .ret fun _ hw => hw
  · exact kept_triple (insertUrl_all (fun _ hq => hq.spares) (fun _ => trivial)
      (fun _ _ heq => absurd heq hcode) (fun _ _ => trivial) ..)

/-- A row that was read has the id it was asked for. -/
theorem urlGetById_kept (urlId : Int) :
    (server scanner).Triple () (KeptUrl app id code url) (urlGetById urlId) fun found w =>
      (∀ v, found = some v → v.id = urlId) ∧ KeptUrl app id code url w := by
  refine .perform fun _ w r w' hw hr => ?_
  cases hr
  exact ⟨fun v hv => (w.db.valid.urlGetById_eq_some.1 hv).2, hw⟩

theorem updateUrl_kept {urlId : Int} (hid : urlId ≠ id) (body : Body) (now : DateTime) :
    (server scanner).Triple () (KeptUrl app id code url) (updateUrl app urlId body now) fun _ w =>
      KeptUrl app id code url w := by
  unfold updateUrl
  refine .bind (urlGetById_kept urlId) fun found => .assume fun hfound => ?_
  cases found with
  | none => exact .ret fun _ hw => hw
  | some v =>
    dsimp only
    cases checkUpdate app.hosts body with
    | error err => exact .ret fun _ hw => hw
    | ok d =>
      have hother : (d.apply now v).id ≠ id := by
        show v.id ≠ id
        rw [hfound v rfl]
        exact hid
      exact kept_triple (saveUrl_all (fun _ hq => hq.spares) (fun _ => trivial) hother _)

theorem deleteUrl_kept {urlId : Int} (hid : urlId ≠ id) (now : DateTime) :
    (server scanner).Triple () (KeptUrl app id code url) (deleteUrl app urlId now) fun _ w =>
      KeptUrl app id code url w := by
  unfold deleteUrl
  refine .bind (urlGetById_kept urlId) fun found => .assume fun hfound => ?_
  cases found with
  | none => exact .ret fun _ hw => hw
  | some v =>
    have hother : v.id ≠ id := by
      rw [hfound v rfl]
      exact hid
    refine kept_triple (saveUrl_all (fun _ hq => hq.spares) (fun _ => trivial) ?_ _)
    exact hother

theorem clickLog_spares (v : Url) (location : String) (now : DateTime) :
    (do
      let logged ← logClickEvent v now
      pure (clickResponse location logged) : Handler Response).All (Call.Spares id code url) :=
  ⟨trivial, fun _ => trivial⟩

/-- A redirect may set the entry of its code, to what its row says. -/
theorem redirectToUrl_kept (c : String) (now : DateTime) :
    (server scanner).Triple () (KeptUrl app id code url) (redirectToUrl app c now) fun _ w =>
      KeptUrl app id code url w := by
  have hrow : (server scanner).Triple () (KeptUrl app id code url) (urlGetByCode c) fun found w =>
      (∀ v, found = .ok (some v) → c = code → v.originalUrl = url ∧ v.isActive = true) ∧
        KeptUrl app id code url w := by
    refine .perform fun _ w r w' hw hr => ?_
    cases hr
    refine ⟨fun v hv hc => ?_, hw⟩
    obtain ⟨v', hv', -, hactive⟩ := hw.row.urlByCode
    rw [Tables.urlGetByCode, hc, hv'] at hv
    split at hv
    · cases hv
      exact hactive
    · cases hv
  unfold redirectToUrl
  refine .bind (reads_triple (getCachedRedirect_all (fun _ hq => hq) app.redis c)) fun cached => ?_
  cases cached with
  | some cached =>
    refine .ite (fun _ => .ret fun _ hw => hw) fun _ => .bind hrow fun found => .assume fun _ => ?_
    rcases found with err | _ | v
    · exact .ret fun _ hw => hw
    · exact .ret fun _ hw => hw
    · exact kept_triple (clickLog_spares v _ now)
  | none =>
    refine .bind hrow fun found => .assume fun hfound => ?_
    rcases found with err | _ | v
    · exact .ret fun _ hw => hw
    · exact .ret fun _ hw => hw
    · have hset :
          (cacheRedirect app.redis c v.originalUrl v.isActive).All (Call.Spares id code url) := by
        cases app.redis with
        | false => trivial
        | true =>
          refine ⟨fun hc => ?_, fun _ => trivial⟩
          obtain ⟨hurl, hactive⟩ := hfound v rfl hc
          rw [hurl, hactive]
      refine .bind (kept_triple hset) fun _ => .ite (fun _ => .ret fun _ hw => hw) fun _ => ?_
      exact kept_triple (clickLog_spares v _ now)

theorem createEventRoute_spares (body : Body) (now : DateTime) :
    (EventRoutes.createEvent body now).All (Call.Spares id code url) := by
  unfold EventRoutes.createEvent
  split
  · trivial
  · split
    · trivial
    · refine ⟨trivial, fun found => ?_⟩
      cases found with
      | none => trivial
      | some v =>
        refine ⟨trivial, fun user => ?_⟩
        cases user with
        | none => trivial
        | some user =>
          dsimp only
          split
          · trivial
          · refine ⟨trivial, fun logged => ?_⟩
            cases logged with
            | error err => trivial
            | ok eventId => trivial

/-- **A request that does not write the URL keeps it.** -/
theorem serveApi_kept {r : ApiRequest} {a : Response} (hr : r.writes ≠ some id)
    (hw : KeptUrl app id code url w) (h : serveApi scanner app r w = some (a, w')) :
    KeptUrl app id code url w' := by
  have hread : ∀ q : Call, q.Reads → q.Spares id code url := fun _ hq => hq.spares
  suffices htriple :
      (server scanner).Triple () (KeptUrl app id code url) (handleApi app r) fun _ w =>
      KeptUrl app id code url w from htriple w a w' hw (Server.runs_of_eval _ _ h)
  cases r with
  | createEvent body now => exact kept_triple (createEventRoute_spares body now)
  | url r =>
    cases r with
    | createShortUrl body now rng =>
      exact createShortUrl_triple (fun _ _ _ hw => hw)
          fun userId userIdJson shortCode originalUrl title =>
        insertUrl_kept userId userIdJson shortCode originalUrl title now
    | listUrls page perPage userId isActive =>
      exact kept_triple (listUrls_all hread (fun _ _ _ _ => trivial) ..)
    | updateUrl urlId body now => exact updateUrl_kept (fun heq => hr (by rw [heq]; rfl)) body now
    | deleteUrl urlId now => exact deleteUrl_kept (fun heq => hr (by rw [heq]; rfl)) now
    | redirectToUrl c now => exact redirectToUrl_kept c now
    | expire key => exact kept_triple ⟨trivial, fun _ => trivial⟩

end Requests

end PeHackathon.UrlShortener
