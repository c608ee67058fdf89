import PeHackathon.UrlShortener.History

/-!
# The cached redirect on sequential runs

The handlers with a Redis client and without one, side by side. `Mirror w v` is the relation that
carries the proof: both databases are the same, and every live `redirect:<code>` entry of the first
world says what the current row says (`Coherent`). Each handler keeps it, so a redirect is answered
alike in both (`redirect_refines_plain`).

The one way to break it is a create whose `short_code` or `original_url` is over-long by spaces:
PostgreSQL cuts the spaces off, while the cache is primed with the uncut values.
-/

namespace PeHackathon.UrlShortener

open Lib

/-! ## The relation -/

section Relation

variable {ι : Type} {w w' v : World ι} {code : String}

/-- Every live redirect entry says what the row of its code says. -/
def Coherent (w : World ι) : Prop :=
  ∀ code entry, w.redis.lookup (.redirect code) = some entry →
    sendable code ∧ ∃ u, w.db.urlByCode code = some u ∧
      entry = (⟨u.originalUrl, u.isActive⟩ : CachedRedirect)

theorem coherent_start (db : Db) : Coherent (World.start db : World ι) := fun code entry h => by
  rw [World.start, AList.lookup_empty] at h
  cases h

theorem Coherent.mono (h : Coherent w)
    (hdb : ∀ code, w'.db.urlByCode code = w.db.urlByCode code)
    (hredis : ∀ code, ∀ entry ∈ w'.redis.lookup (.redirect code),
      entry ∈ w.redis.lookup (.redirect code)) : Coherent w' := fun code entry hl => by
  rw [hdb]
  exact h code entry (hredis code entry hl)

/-- The database moves on one code only, and the entry of that code says what its new row says. -/
theorem Coherent.write (h : Coherent w) {row : Url}
    (hdb : ∀ c, w'.db.urlByCode c = if c = code then some row else w.db.urlByCode c)
    (hs : sendable code)
    (hcode : w'.redis.lookup (.redirect code) = none ∨
      w'.redis.lookup (.redirect code) = some ⟨row.originalUrl, row.isActive⟩)
    (hother : ∀ c ≠ code, ∀ entry ∈ w'.redis.lookup (.redirect c),
      entry ∈ w.redis.lookup (.redirect c)) : Coherent w' := fun c entry hl => by
  by_cases hc : c = code
  · subst hc
    refine ⟨hs, row, by rw [hdb, if_pos rfl], ?_⟩
    rcases hcode with hn | he
    · rw [hn] at hl; cases hl
    · rw [he] at hl; exact (Option.some.inj hl).symm
  · obtain ⟨hs', u, hu, he⟩ := h c entry (hother c hc entry hl)
    exact ⟨hs', u, by rw [hdb, if_neg hc, hu], he⟩

/-- An entry is written for the current row. -/
theorem Coherent.setex (h : Coherent w) {u : Url} (hs : sendable code)
    (hu : w.db.urlByCode code = some u) :
    Coherent { w with
      redis := w.redis.insert (.redirect code)
        (⟨u.originalUrl, u.isActive⟩ : CachedRedirect) } := by
  intro c entry hl
  by_cases hc : c = code
  · subst hc
    rw [AList.lookup_insert] at hl
    exact ⟨hs, u, hu, (Option.some.inj hl).symm⟩
  · rw [AList.lookup_insert_ne (by simpa using hc)] at hl
    exact h c entry hl

/-- The world with Redis and the world without. -/
structure Mirror (w v : World ι) : Prop where
  db : w.db = v.db
  coherent : Coherent w

theorem Mirror.of_redis (h : Mirror w v) {r : Redis}
    (hr : ∀ code, r.lookup (.redirect code) = w.redis.lookup (.redirect code)) :
    Mirror { w with redis := r } v where
  db := h.db
  coherent := h.coherent.mono (fun _ => rfl) fun code entry hl => by rw [← hr]; exact hl

end Relation

/-! ## The cache functions -/

section CacheSteps

variable {scanner : Scanner} {w : World Unit}

theorem cacheRedirect_eval (code url : String) (active : Bool) :
    (server scanner).eval () () (cacheRedirect true code url active) w =
      some ((), { w with redis := w.redis.insert (.redirect code) ⟨url, active⟩ }) := rfl

theorem invalidateRedirect_eval (code : String) :
    (server scanner).eval () () (invalidateRedirect true code) w =
      some ((), w.delete () [.redirect code]) := rfl

theorem cacheUrlList_eval (page perPage : Int) (data : Json) :
    (server scanner).eval () () (cacheUrlList true page perPage data) w =
      some ((), { w with redis := w.redis.insert (.urlList page perPage) data }) := rfl

@[simp] theorem cacheRedirect_absent (code url : String) (active : Bool) :
    cacheRedirect false code url active = .ret () := rfl

@[simp] theorem getCachedRedirect_absent (code : String) :
    getCachedRedirect false code = .ret none := rfl

@[simp] theorem invalidateRedirect_absent (code : String) :
    invalidateRedirect false code = .ret () := rfl

@[simp] theorem cacheUrlList_absent (page perPage : Int) (data : Json) :
    cacheUrlList false page perPage data = .ret () := rfl

@[simp] theorem getCachedUrlList_absent (page perPage : Int) :
    getCachedUrlList false page perPage = .ret none := rfl

@[simp] theorem invalidateUrlLists_absent (fuel : Nat) :
    invalidateUrlLists false fuel = .ret () := rfl

/-- A `GET` with a client. -/
theorem getCachedRedirect_eval (code : String) :
    (server scanner).eval () () (getCachedRedirect true code) w =
      some (w.redis.lookup (.redirect code), w) := rfl

theorem getCachedUrlList_eval (page perPage : Int) :
    (server scanner).eval () () (getCachedUrlList true page perPage) w =
      some (w.redis.lookup (.urlList page perPage), w) := rfl

end CacheSteps

/-! ## The handlers side by side -/

section Handlers

variable {scanner : Scanner} {app : App} {w v : World Unit}

/-- Both sides give the same answer and stay mirrored. -/
def Same (a : Response) (w : World Unit) (b : Response) (v : World Unit) : Prop :=
  a = b ∧ Mirror w v

theorem saveUrl_agree (hfuel : scanner.bound < app.scanFuel) (h : Mirror w v) (url v₀ : Url)
    (hload : w.db.urlGetById url.id = some v₀) (hcode : url.shortCode = v₀.shortCode)
    (event : Event) (response : Response) :
    (server scanner).Agree () () (saveUrl (app.withRedis true) url event response)
      (saveUrl (app.withRedis false) url event response) Same w v := by
  unfold saveUrl
  rw [Prog.perform_bind, Prog.perform_bind]
  cases hres : (w.db.saveUrlTx url event).1 with
  | error err =>
    rw [Server.agree_call (.error err) { w with db := (w.db.saveUrlTx url event).2 }
      { v with db := (v.db.saveUrlTx url event).2 }
      (by simp [World.save_error hres]) (by rw [h.db] at hres; simp [World.save_error hres])]
    refine ⟨rfl, by simp [h.db], h.coherent.mono (fun code => ?_) fun _ _ he => he⟩
    exact (Db.saveUrlTx_error hres).urlByCode
  | ok _ =>
    obtain ⟨row, hrow, hrc, hdb, -⟩ := Db.saveUrlTx_ok hres hload hcode
    have hs : sendable url.shortCode :=
      hrc ▸ (varchar_eq_some (storeUrl_storedAs hrow).shortCode).1
    rw [Server.agree_call (.ok ())
      ( w.noteWrite () url.shortCode (w.db.saveUrlTx url event).2)
      (v.noteWrite () url.shortCode (v.db.saveUrlTx url event).2)
      (by simp [World.save_ok hres]) (by rw [h.db] at hres; simp [World.save_ok hres])]
    dsimp only
    obtain ⟨r, hscan, hr⟩ := invalidateUrlLists_eval (i := ())
      (w := (w.noteWrite () url.shortCode (w.db.saveUrlTx url event).2).delete ()
        [.redirect url.shortCode]) hfuel
    simp only [App.withRedis_redis, App.withRedis_scanFuel, invalidateRedirect_absent,
      invalidateUrlLists_absent, Prog.ret_bind]
    rw [Server.agree_left (invalidateRedirect_eval _), Server.agree_left hscan]
    -- the database has moved on one code, whose entry is gone
    have hl : ∀ c, r.lookup (.redirect c) =
        (w.redis.erase (.redirect url.shortCode)).lookup (.redirect c) := fun c => by
      rw [hr]
      simp [RedisKey.isUrlList, World.delete, World.noteWrite]
    refine ⟨rfl, by simp [World.delete, World.noteWrite, h.db], h.coherent.write hdb hs
      (.inl ?_) fun c hc entry he => ?_⟩
    · rw [hl, AList.lookup_erase]
    · simpa [hl, AList.lookup_erase_ne, hc] using he

theorem updateUrl_agree (hfuel : scanner.bound < app.scanFuel) (h : Mirror w v) (urlId : Int)
    (body : Body) (now : DateTime) :
    (server scanner).Agree () () (updateUrl (app.withRedis true) urlId body now)
      (updateUrl (app.withRedis false) urlId body now) Same w v := by
  unfold updateUrl
  rw [Prog.perform_bind, Prog.perform_bind, Server.agree_call (w.db.urlGetById urlId) w v
    rfl (by simp [h.db])]
  cases hload : w.db.urlGetById urlId with
  | none => exact ⟨rfl, h⟩
  | some url =>
    have hid := (w.db.valid.urlGetById_eq_some.1 hload).2
    dsimp only [App.withRedis_hosts]
    cases checkUpdate app.hosts body with
    | error err => exact ⟨rfl, h⟩
    | ok d =>
      exact saveUrl_agree hfuel h (d.apply now url) url (by rw [← hid] at hload; exact hload)
        rfl _ _

theorem deleteUrl_agree (hfuel : scanner.bound < app.scanFuel) (h : Mirror w v) (urlId : Int)
    (now : DateTime) :
    (server scanner).Agree () () (deleteUrl (app.withRedis true) urlId now)
      (deleteUrl (app.withRedis false) urlId now) Same w v := by
  unfold deleteUrl
  rw [Prog.perform_bind, Prog.perform_bind, Server.agree_call (w.db.urlGetById urlId) w v
    rfl (by simp [h.db])]
  cases hload : w.db.urlGetById urlId with
  | none => exact ⟨rfl, h⟩
  | some url =>
    have hid := (w.db.valid.urlGetById_eq_some.1 hload).2
    exact saveUrl_agree hfuel h { url with isActive := false, updatedAt := now } url
      (by rw [← hid] at hload; exact hload) rfl _ _

/-! ### `create_short_url` -/

/-- The draws of `generate_short_code` read the database only. -/
theorem generateShortCode_agree (rng : Nat → GeneratedCode) (h : Mirror w v) (fuel n : Nat) :
    (server scanner).Agree () () (generateShortCode rng fuel n) (generateShortCode rng fuel n)
      (fun a w' b v' => a = b ∧ w' = w ∧ v' = v ∧ ∀ code, a = .ok code → ∃ n, code = rng n)
        w v := by
  induction fuel generalizing n with
  | zero => exact trivial
  | succ fuel ih =>
    rw [generateShortCode, Prog.perform_bind, Server.agree_call (w.db.shortCodeExists (rng n)) w v
      rfl (by simp [h.db])]
    cases w.db.shortCodeExists (rng n) with
    | error err => exact ⟨rfl, rfl, rfl, fun _ hc => by cases hc⟩
    | ok taken =>
      cases taken with
      | true => exact ih (n + 1)
      | false => exact ⟨rfl, rfl, rfl, fun code hc => by cases hc; exact ⟨n, rfl⟩⟩

/-- The short code of a create: the requested one, or one that is drawn. -/
def Chosen (rng : Nat → GeneratedCode) (requested : Option String) (code : String) : Prop :=
  if requested.getD "" = "" then ∃ n, code = rng n else requested = some code

theorem chooseShortCode_agree (rng : Nat → GeneratedCode) (h : Mirror w v)
    (requested : Option String) :
    (server scanner).Agree () () (chooseShortCode (app.withRedis true) rng requested)
      (chooseShortCode (app.withRedis false) rng requested)
      (fun a w' b v' => a = b ∧ w' = w ∧ v' = v ∧
        ∀ code, a = .ok code → Chosen rng requested code) w v := by
  have hgen : requested.getD "" = "" → (server scanner).Agree () ()
      (generateShortCode rng app.codeFuel 0) (generateShortCode rng app.codeFuel 0)
      (fun a w' b v' => a = b ∧ w' = w ∧ v' = v ∧
        ∀ code, a = .ok code → Chosen rng requested code) w v := fun hnone =>
    Server.agree_mono
      (fun a w' b v' ⟨h₁, h₂, h₃, h₄⟩ =>
        ⟨h₁, h₂, h₃, fun code hc => (if_pos hnone).mpr (h₄ code hc)⟩)
      (generateShortCode_agree rng h app.codeFuel 0)
  unfold chooseShortCode
  cases requested with
  | none => exact hgen rfl
  | some code =>
    dsimp only
    split
    · rename_i hempty
      exact hgen (String.isEmpty_iff.1 hempty)
    · rename_i hempty
      refine ⟨rfl, rfl, rfl, fun code' hc => ?_⟩
      cases hc
      exact (if_neg fun hnone => hempty (String.isEmpty_iff.2 hnone)).mpr rfl

/-- The create of a row commits. -/
def Commits (db : Db) (userId : Int) (shortCode originalUrl title : String) (now : DateTime) :
    Prop :=
  db.shortCodeExists shortCode = .ok false ∧
    ∃ id, (db.createUrlTx (newUrl userId shortCode originalUrl title now)
      ⟨0, 0, userId, "created", now, createdDetails shortCode originalUrl⟩).1 = .ok id

theorem insertUrl_agree (hfuel : scanner.bound < app.scanFuel) (h : Mirror w v) (userId : Int)
    (userIdJson : Json) {shortCode originalUrl : String} (title : String) (now : DateTime)
    (hcut : Commits w.db userId shortCode originalUrl title now →
      ¬ (CutAt 2048 originalUrl ∨ CutAt 20 shortCode)) :
    (server scanner).Agree () ()
      (insertUrl (app.withRedis true) userId userIdJson shortCode originalUrl title now)
      (insertUrl (app.withRedis false) userId userIdJson shortCode originalUrl title now)
      Same w v := by
  unfold insertUrl
  simp only [Prog.perform_bind]
  rw [Server.agree_call (w.db.shortCodeExists shortCode) w v rfl
    (by simp [h.db])]
  cases hexists : w.db.shortCodeExists shortCode with
  | error err => exact ⟨rfl, h⟩
  | ok taken =>
    cases taken with
    | true => exact ⟨rfl, h⟩
    | false =>
      have hcommits : ∀ id, (w.db.createUrlTx (newUrl userId shortCode originalUrl title now)
          ⟨0, 0, userId, "created", now, createdDetails shortCode originalUrl⟩).1 = .ok id →
          ¬ (CutAt 2048 originalUrl ∨ CutAt 20 shortCode) := fun id hid => hcut ⟨hexists, id, hid⟩
      dsimp only
      generalize hu : newUrl userId shortCode originalUrl title now = url at hcommits ⊢
      generalize Event.mk 0 0 userId "created" now (createdDetails shortCode originalUrl) = event
        at hcommits ⊢
      rw [Server.agree_call (w.db.createUrlTx url event).1
        { w with db := (w.db.createUrlTx url event).2 }
        { v with db := (v.db.createUrlTx url event).2 } rfl (by simp [h.db])]
      cases hres : (w.db.createUrlTx url event).1 with
      | error err =>
        refine ⟨rfl, by simp [h.db], h.coherent.mono (fun code => ?_) fun _ _ he => he⟩
        exact (Db.createUrlTx_error hres).urlByCode
      | ok id =>
        obtain ⟨row, hrow, -, hdb, -⟩ := Db.createUrlTx_ok hres
        have hst := storeUrl_storedAs hrow
        obtain ⟨hurl, hcode⟩ := not_or.1 (hcommits id hres)
        subst hu
        -- the row is stored as it was given
        have hrc : row.shortCode = shortCode := varchar_of_not_cut hst.shortCode hcode
        have hru : row.originalUrl = originalUrl := varchar_of_not_cut hst.originalUrl hurl
        have hra : row.isActive = true := hst.isActive
        have hs : sendable shortCode := hrc ▸ (varchar_eq_some hst.shortCode).1
        rw [hrc] at hdb
        dsimp only
        obtain ⟨r, hscan, hr⟩ := invalidateUrlLists_eval (i := ())
          (w := { w with
            db := (w.db.createUrlTx (newUrl userId shortCode originalUrl title now) event).2
            redis := w.redis.insert (.redirect shortCode) ⟨originalUrl, true⟩ }) hfuel
        simp only [App.withRedis_redis, App.withRedis_scanFuel, cacheRedirect_absent,
          invalidateUrlLists_absent, Prog.ret_bind]
        rw [Server.agree_left (cacheRedirect_eval _ _ _), Server.agree_left hscan]
        have hl : ∀ c, r.lookup (.redirect c) =
            (w.redis.insert (.redirect shortCode)
              (⟨originalUrl, true⟩ : CachedRedirect)).lookup (.redirect c) := fun c => by
          rw [hr]
          simp [RedisKey.isUrlList]
        refine ⟨rfl, by simp [h.db], h.coherent.write hdb hs (.inr ?_) fun c hc entry he => ?_⟩
        · rw [hl, AList.lookup_insert]
          simp [hru, hra]
        · simpa [hl, AList.lookup_insert_ne, hc] using he

/-- A create that commits, so that it reaches the cache, with a value that PostgreSQL cuts. -/
def Request.CutsSpaces (app : App) (w : World Unit) : Request → Prop
  | .createShortUrl body now rng =>
    ∃ data originalUrl userId title requested shortCode, parseJsonBody body = .ok data ∧
      validateUrl app.hosts (data.getNone "original_url") = .valid originalUrl ∧
      (data.getNone "user_id").asInt = some userId ∧ newTitle data = some title ∧
      requestedShortCode data = some requested ∧ Chosen rng requested shortCode ∧
      Commits w.db userId shortCode originalUrl title now ∧
      (CutAt 2048 originalUrl ∨ CutAt 20 shortCode)
  | _ => False

theorem createShortUrl_agree (hfuel : scanner.bound < app.scanFuel) (h : Mirror w v) (body : Body)
    (now : DateTime) (rng : Nat → GeneratedCode)
    (hcut : ¬ (Request.createShortUrl body now rng).CutsSpaces app w) :
    (server scanner).Agree () () (createShortUrl (app.withRedis true) body now rng)
      (createShortUrl (app.withRedis false) body now rng) Same w v := by
  unfold createShortUrl
  cases hbody : parseJsonBody body with
  | error err => exact ⟨rfl, h⟩
  | ok data =>
    dsimp only [App.withRedis_hosts]
    by_cases hreq : (!data.has "original_url" || !data.has "user_id") = true
    · rw [if_pos hreq, if_pos hreq]
      exact ⟨rfl, h⟩
    rw [if_neg hreq, if_neg hreq]
    cases hurl : validateUrl app.hosts (data.getNone "original_url") with
    | raised => exact ⟨rfl, h⟩
    | invalid message => exact ⟨rfl, h⟩
    | valid originalUrl =>
      dsimp only
      cases hid : (data.getNone "user_id").asInt with
      | none => exact ⟨rfl, h⟩
      | some userId =>
        dsimp only
        cases htitle : newTitle data with
        | none => exact ⟨rfl, h⟩
        | some title =>
          simp only [Prog.perform_bind]
          rw [Server.agree_call (w.db.userGetById userId) w v rfl (by simp [h.db])]
          cases huser : w.db.userGetById userId with
          | none => exact ⟨rfl, h⟩
          | some user =>
            dsimp only
            cases hcode : requestedShortCode data with
            | none => exact ⟨rfl, h⟩
            | some requested =>
              dsimp only
              refine Server.agree_bind (Server.agree_mono ?_
                (chooseShortCode_agree rng h requested))
              rintro a w' b v' ⟨rfl, rfl, rfl, hchosen⟩
              cases a with
              | error err => exact ⟨rfl, h⟩
              | ok shortCode =>
                exact insertUrl_agree hfuel h userId _ title now fun hcommits hcuts =>
                  hcut ⟨data, originalUrl, userId, title, requested, shortCode, hbody, hurl, hid,
                    htitle, hcode, hchosen shortCode rfl, hcommits, hcuts⟩

/-! ### `list_urls` -/

/-- A list request may be answered differently, but leaves the worlds mirrored. -/
theorem listUrls_agree (h : Mirror w v) (page perPage : Int) (userId : Option Int)
    (isActive : Option String) :
    (server scanner).Agree () () (listUrls (app.withRedis true) page perPage userId isActive)
      (listUrls (app.withRedis false) page perPage userId isActive)
      (fun _ w _ v => Mirror w v) w v := by
  unfold listUrls
  simp only [App.withRedis_redis, getCachedUrlList_absent, Prog.ret_bind, Prog.perform_bind,
    cacheUrlList_absent]
  generalize listFilter userId isActive = filter
  rw [Server.agree_left (getCachedUrlList_eval _ _)]
  cases w.redis.lookup (.urlList page (min perPage 100)) with
  | none =>
    dsimp only
    rw [Server.agree_call (w.db.countUrls filter) w v rfl (by simp [h.db]),
      Server.agree_call (w.db.paginate filter page (min perPage 100)) w v rfl (by simp [h.db])]
    cases w.db.paginate filter page (min perPage 100) with
    | error err => exact h
    | ok urls =>
      dsimp only
      rw [Server.agree_left (cacheUrlList_eval _ _ _)]
      exact h.of_redis fun code => AList.lookup_insert_ne (by simp)
  | some cached =>
    -- the other side asks the database
    dsimp only
    rw [Prog.pure_eq, Server.agree_call_right (respond_countUrls scanner () v filter),
      Server.agree_call_right (respond_paginate scanner () v filter _ _)]
    cases v.db.paginate filter page (min perPage 100) with
    | error err => exact h
    | ok urls => exact h

/-! ### `redirect_to_url` -/

/-- What a redirect answers by the database alone, and what it leaves there. -/
def plainRedirect (db : Db) (code : String) (now : DateTime) : Response × Db :=
  match db.urlGetByCode code with
  | .error _ => (serverError, db)
  | .ok none => (errorResponse 404 "Not found", db)
  | .ok (some u) =>
    if !u.isActive then (deactivated, db)
    else
      let (logged, db') := db.createEvent (clickEvent u now)
      (clickResponse u.originalUrl logged, db')

/-- The effect of a redirect on the database: one click on a 302, nothing on a 410 or 404. -/
def ClickEffect (db : Db) (code : String) (a : Response) (db' : Db) : Prop :=
  (a.status = 302 → ∃ u e, db.urlByCode code = some u ∧ e.urlId = u.id ∧ e.eventType = "click" ∧
    db'.events = db.events ++ [e] ∧ db'.urls = db.urls ∧ db'.users = db.users) ∧
  (a.status = 410 ∨ a.status = 404 → db' = db)

theorem ClickEffect.refl {db : Db} {code : String} {a : Response} (h : a.status ≠ 302) :
    ClickEffect db code a db :=
  ⟨fun h' => absurd h' h, fun _ => rfl⟩

theorem plainRedirect_clickEffect (db : Db) (code : String) (now : DateTime) :
    ClickEffect db code (plainRedirect db code now).1 (plainRedirect db code now).2 := by
  have h500 :
      serverError.status ≠ 302 ∧ ¬ (serverError.status = 410 ∨ serverError.status = 404) := by
    decide
  have h404 : (errorResponse 404 "Not found").status ≠ 302 := by decide
  have h410 : deactivated.status ≠ 302 := by decide
  unfold plainRedirect
  cases hget : db.urlGetByCode code with
  | error err => exact .refl h500.1
  | ok found =>
    have hrow : db.urlByCode code = found := by
      unfold Tables.urlGetByCode at hget
      split at hget
      · exact Except.ok.inj hget
      · cases hget
    cases found with
    | none => exact .refl h404
    | some u =>
      dsimp only
      split
      · exact .refl h410
      obtain ⟨err, herr, _⟩ | ⟨e, hok, hsame, hev, _, htype, hid, _⟩ :=
        Tables.createEvent_cases db.toTables (clickEvent u now)
      · rw [Db.createEvent, herr]
        exact ⟨fun h => absurd h h500.1, fun h => absurd h h500.2⟩
      · rw [Db.createEvent, hok]
        have hclick : varchar 50 "click" = some "click" := by decide
        exact ⟨fun _ => ⟨u, e, hrow, hid, (Option.some.inj (hclick.symm.trans htype)).symm, hev,
          hsame.urls, hsame.users⟩, fun h => by simp [clickResponse, redirectResponse] at h⟩

theorem redirectToUrl_absent (code : String) (now : DateTime) :
    (server scanner).eval () () (redirectToUrl (app.withRedis false) code now) v =
      some ((plainRedirect v.db code now).1, { v with db := (plainRedirect v.db code now).2 }) := by
  unfold redirectToUrl plainRedirect
  simp only [App.withRedis_redis, getCachedRedirect_absent, cacheRedirect_absent, Prog.ret_bind,
    Prog.perform_bind, Server.eval_call, server_respond, respond_urlGetByCode, Option.bind_some]
  cases v.db.urlGetByCode code with
  | error err => rfl
  | ok found =>
    cases found with
    | none => rfl
    | some u =>
      dsimp only
      split
      · rfl
      · rfl

theorem plainRedirect_urlByCode (db : Db) (code c : String) (now : DateTime) :
    (plainRedirect db code now).2.urlByCode c = db.urlByCode c := by
  unfold plainRedirect
  rcases db.urlGetByCode code with err | _ | u
  · rfl
  · rfl
  · dsimp only
    split
    · rfl
    · exact Db.createEvent_urlByCode c

/-- **The cached redirect**, when the entry of the code says what its row says: the answer and the
effect of the plain one, and no other entry is written. -/
theorem redirectToUrl_entry (scanner : Scanner) (app : App) {code : String}
    (hentry : ∀ entry, w.redis.lookup (.redirect code) = some entry →
      sendable code ∧ ∃ u, w.db.urlByCode code = some u ∧
        entry = (⟨u.originalUrl, u.isActive⟩ : CachedRedirect))
    (now : DateTime) :
    ∃ w', (server scanner).eval () () (redirectToUrl (app.withRedis true) code now) w =
        some ((plainRedirect w.db code now).1, w') ∧
      w'.db = (plainRedirect w.db code now).2 ∧
      (w'.redis = w.redis ∨ ∃ u, sendable code ∧ w.db.urlByCode code = some u ∧
        w'.redis = w.redis.insert (.redirect code) ⟨u.originalUrl, u.isActive⟩) := by
  unfold redirectToUrl
  simp only [App.withRedis_redis]
  rw [Server.eval_bind, getCachedRedirect_eval, Option.bind_some]
  cases hlookup : w.redis.lookup (.redirect code) with
  | some entry =>
    obtain ⟨hs, u, hu, rfl⟩ := hentry entry hlookup
    have hget : w.db.urlGetByCode code = .ok (some u) := by
      rw [Tables.urlGetByCode, if_pos hs, hu]
    unfold plainRedirect
    rw [hget]
    dsimp only
    split
    · exact ⟨w, rfl, rfl, .inl rfl⟩
    · rw [Prog.perform_bind, Server.eval_call, server_respond, respond_urlGetByCode, hget,
        Option.bind_some]
      exact ⟨_, rfl, rfl, .inl rfl⟩
  | none =>
    unfold plainRedirect
    dsimp only
    rw [Prog.perform_bind, Server.eval_call, server_respond, respond_urlGetByCode, Option.bind_some]
    dsimp only
    cases hget : w.db.urlGetByCode code with
    | error err => exact ⟨w, rfl, rfl, .inl rfl⟩
    | ok found =>
      cases found with
      | none => exact ⟨w, rfl, rfl, .inl rfl⟩
      | some u =>
        have hs : sendable code ∧ w.db.urlByCode code = some u := by
          unfold Tables.urlGetByCode at hget
          split at hget
          · exact ⟨‹_›, Except.ok.inj hget⟩
          · cases hget
        dsimp only
        rw [Server.eval_bind, cacheRedirect_eval, Option.bind_some]
        dsimp only
        split
        · exact ⟨_, rfl, rfl, .inr ⟨u, hs.1, hs.2, rfl⟩⟩
        · exact ⟨_, rfl, rfl, .inr ⟨u, hs.1, hs.2, rfl⟩⟩

/-- **The cached redirect** in a coherent world. -/
theorem redirectToUrl_cached (scanner : Scanner) (app : App) (h : Coherent w) (code : String)
    (now : DateTime) :
    ∃ w', (server scanner).eval () () (redirectToUrl (app.withRedis true) code now) w =
        some ((plainRedirect w.db code now).1, w') ∧
      w'.db = (plainRedirect w.db code now).2 ∧ Coherent w' := by
  obtain ⟨w', heval, hdb, hredis⟩ := redirectToUrl_entry scanner app (h code) now
  have hrows : ∀ c, w'.db.urlByCode c = w.db.urlByCode c := fun c => by
    rw [hdb, plainRedirect_urlByCode]
  refine ⟨w', heval, hdb, ?_⟩
  rcases hredis with hsame | ⟨u, hs, hu, hset⟩
  · exact h.mono hrows fun _ _ he => by rwa [hsame] at he
  · exact (h.setex hs hu).mono hrows fun _ _ he => by rwa [hset] at he

/-! ### Every request -/

/-- **Every request keeps the worlds mirrored**, a create whose values are cut excepted. -/
theorem handle_agree (hfuel : scanner.bound < app.scanFuel) (h : Mirror w v) (r : Request)
    (hcut : ¬ r.CutsSpaces app w) :
    (server scanner).Agree () () (handle (app.withRedis true) r) (handle (app.withRedis false) r)
      (fun _ w _ v => Mirror w v) w v := by
  have hmirror : ∀ a (w : World Unit) b (v : World Unit), Same a w b v → Mirror w v :=
    fun _ _ _ _ hs => hs.2
  cases r with
  | createShortUrl body now rng =>
    exact Server.agree_mono hmirror (createShortUrl_agree hfuel h body now rng hcut)
  | listUrls page perPage userId isActive => exact listUrls_agree h page perPage userId isActive
  | updateUrl urlId body now =>
    exact Server.agree_mono hmirror (updateUrl_agree hfuel h urlId body now)
  | deleteUrl urlId now => exact Server.agree_mono hmirror (deleteUrl_agree hfuel h urlId now)
  | redirectToUrl code now =>
    obtain ⟨w', heval, hdb, hc⟩ := redirectToUrl_cached scanner app
      h.coherent code now
    exact Server.agree_of_eval heval (redirectToUrl_absent code now) ⟨by rw [hdb, h.db], hc⟩
  | expire key =>
    rw [handle, handle, Prog.perform_bind]
    rw [Server.agree_call () { w with redis := w.redis.erase key }
      { v with redis := v.redis.erase key } rfl rfl]
    refine ⟨h.db, h.coherent.mono (fun _ => rfl) fun code entry he => ?_⟩
    by_cases hk : RedisKey.redirect code = key
    · subst hk
      rw [AList.lookup_erase] at he
      cases he
    · rw [AList.lookup_erase_ne hk] at he
      exact he

end Handlers

/-! ## Histories -/

section History

variable (scanner : Scanner) (app : App)

/-- A redirect, served in the world with Redis and in the world without: the same status, the same
target and the same effect on the same database. -/
def RedirectAlike (code : String) (now : DateTime) (w v : World Unit) : Prop :=
  ∃ a w' b v', serve scanner (app.withRedis true) (.redirectToUrl code now) w = some (a, w') ∧
    serve scanner (app.withRedis false) (.redirectToUrl code now) v = some (b, v') ∧
    a.status = b.status ∧ a.location = b.location ∧ w.db = v.db ∧ w'.db = v'.db ∧
    ClickEffect w.db code a w'.db

/-- Every redirect of the history is answered as in the same history without a Redis client. -/
def RefinesPlain (db : Db) (reqs : List Request) : Prop :=
  ∀ before code now after, reqs = before ++ .redirectToUrl code now :: after →
    Option.Rel (RedirectAlike scanner app code now)
      (history scanner (app.withRedis true) before (.start db))
      (history scanner (app.withRedis false) before (.start db))

variable {scanner app}

theorem history_agree (hfuel : scanner.bound < app.scanFuel) (reqs : List Request) :
    ∀ {w v : World Unit}, Mirror w v →
      Along scanner (app.withRedis true) (fun r w => ¬ r.CutsSpaces app w) reqs w →
      Option.Rel Mirror (history scanner (app.withRedis true) reqs w)
        (history scanner (app.withRedis false) reqs v) := by
  induction reqs with
  | nil => exact fun h _ => .some h
  | cons r reqs ih =>
    intro w v h hcut
    have hagree := handle_agree hfuel h r hcut.1
    rw [history, history]
    cases hw : serve scanner (app.withRedis true) r w with
    | none =>
      cases hv : serve scanner (app.withRedis false) r v with
      | none => exact .none
      | some bv =>
        obtain ⟨a, w', ha, -⟩ := hagree.left hv
        rw [serve, ha] at hw
        cases hw
    | some aw =>
      obtain ⟨b, v', hv, hm⟩ := hagree.right hw
      rw [serve, hv]
      exact ih hm (hcut.2 _ _ hw)

theorem Along.append_left {P : Request → World Unit → Prop} {before after : List Request}
    {w : World Unit} (h : Along scanner app P (before ++ after) w) :
    Along scanner app P before w := by
  induction before generalizing w with
  | nil => trivial
  | cons r before ih => exact ⟨h.1, fun a w' hs => ih (h.2 a w' hs)⟩

/-- **The cached redirect refines the plain one** in every history whose creates store what they
were given. -/
theorem redirect_refines_plain (scanner : Scanner) (app : App)
    (hfuel : scanner.bound < app.scanFuel) (db : Db) (reqs : List Request)
    (hcut : Along scanner (app.withRedis true) (fun r w => ¬ r.CutsSpaces app w) reqs (.start db)) :
    RefinesPlain scanner app db reqs := by
  rintro before code now after rfl
  have hrel := history_agree hfuel before (w := .start db) (v := .start db)
    ⟨rfl, coherent_start db⟩ hcut.append_left
  revert hrel
  generalize history scanner (app.withRedis true) before (.start db) = w?
  generalize history scanner (app.withRedis false) before (.start db) = v?
  rintro (⟨hm⟩ | _)
  · rename_i w v
    obtain ⟨w', heval, hdb, -⟩ := redirectToUrl_cached scanner app
      hm.coherent code now
    refine .some ⟨_, w', _, _, heval, redirectToUrl_absent code now, ?_, ?_, hm.db, ?_, ?_⟩
    · rw [hm.db]
    · rw [hm.db]
    · rw [hdb, hm.db]
    · rw [hdb]
      exact plainRedirect_clickEffect _ _ _
  · exact .none

/-- A create and a redirect of its code: both hypotheses hold. -/
theorem redirect_refines_plain_sample :
    RefinesPlain .onePage sampleApp sampleDb
      [.createShortUrl (sampleCreate "new") (sampleTime 2) (fun _ => sampleCode),
        .redirectToUrl "new" (sampleTime 3)] :=
  redirect_refines_plain _ _ (by decide) _ _
    ⟨fun ⟨data, url, _, _, requested, code, hbody, hurl, _, _, hrequested, hchosen, _, hcut⟩ => by
      cases hbody
      cases hurl
      cases hrequested
      cases hchosen
      exact absurd hcut (by decide),
    fun _ _ _ => ⟨id, fun _ _ _ => trivial⟩⟩

theorem RefinesPlain.status {db : Db} {before : List Request} {code : String} {now : DateTime}
    (h : RefinesPlain scanner app db (before ++ [.redirectToUrl code now])) :
    ((history scanner (app.withRedis true) before (.start db)).bind
        (serve scanner (app.withRedis true) (.redirectToUrl code now))).map
          (fun aw => aw.1.status) =
      ((history scanner (app.withRedis false) before (.start db)).bind
        (serve scanner (app.withRedis false) (.redirectToUrl code now))).map
          (fun aw => aw.1.status) := by
  have hrel := h before code now [] rfl
  revert hrel
  generalize history scanner (app.withRedis true) before (.start db) = w?
  generalize history scanner (app.withRedis false) before (.start db) = v?
  rintro (⟨a, w', b, v', ha, hb, hst, _⟩ | _)
  · rw [Option.bind_some, Option.bind_some, ha, hb]
    exact congrArg some hst
  · rfl

/-- **Without the condition the refinement fails**: a short code of twenty characters and a space is
stored without the space, and the uncut code redirects through Redis although no row has it. -/
theorem redirect_not_refined :
    ¬ ∀ (scanner : Scanner) (app : App) (db : Db) (reqs : List Request),
      scanner.bound < app.scanFuel → RefinesPlain scanner app db reqs := by
  intro h
  have hst := (h .onePage sampleApp sampleDb
    ([.createShortUrl (sampleCreate "aaaaaaaaaaaaaaaaaaaa ") (sampleTime 2) fun _ => sampleCode] ++
      [.redirectToUrl "aaaaaaaaaaaaaaaaaaaa " (sampleTime 3)]) (by decide)).status
  exact absurd hst (by decide)

end History

end PeHackathon.UrlShortener
