import PeHackathon.Lib.Finishes
import PeHackathon.Python.Printed
import PeHackathon.UrlShortener.Service

/-!
# Bad input to the URL routes

Bad input is to be answered below 500, and a refusal is to leave the tables as they are
(`WellAnswered`). The handlers of the URL routes do so exactly for what `urlparse`, PostgreSQL and
the headers of a response take: one condition for each handler that can fail, and one lemma that
says so.
-/

namespace PeHackathon.UrlShortener

open Lib

/-! ## Good answers -/

/-- No error of the server, and nothing is changed by a request that is refused. -/
structure WellAnswered (before : Tables) (a : Response) (after : Tables) : Prop where
  status : a.status < 500
  unchanged : 400 ≤ a.status → SameRows before after

section WellAnswered

variable {before after : Tables} {a : Response}

theorem wellAnswered_same (h : a.status < 500) : WellAnswered before a before :=
  ⟨h, fun _ => .refl before⟩

theorem wellAnswered_done (h : a.status < 400) : WellAnswered before a after :=
  ⟨Nat.lt_trans h (by decide), fun hstatus => absurd hstatus (Nat.not_le_of_lt h)⟩

theorem not_wellAnswered : ¬ WellAnswered before serverError after :=
  fun h => absurd h.status (by decide)

end WellAnswered

/-- What a handler of these routes should end with, when it is answered through Flask. -/
def AnswersWell (flask : Flask) (before : Tables) (a : Response) (w : World Unit) : Prop :=
  WellAnswered before (flask.send a) w.db.toTables

/-! ## What the handlers accept -/

/-- What `app.cache` finds under a key. -/
def App.cached (app : App) (w : World Unit) (key : RedisKey) : Option key.Value :=
  if app.redis then w.redis.lookup key else none

section Conditions

variable (app : App) (db : Tables)

/-- The page is cached, or its `LIMIT` and `OFFSET` are in range. -/
def ListAccepted (w : World Unit) (page perPage : Int) : Prop :=
  (app.cached w (.urlList page (min perPage 100))).isSome = true ∨
    Tables.pageInRange page (min perPage 100) = true

/-- The texts that an update sets are stored. -/
structure UrlUpdate.Fits (d : UrlUpdate) : Prop where
  url : ∀ s, d.originalUrl = some s → (varchar 2048 s).isSome = true
  title : ∀ s, d.title = some s → (varchar 500 s).isSome = true

/-- `urlparse` raises for the new address. -/
def UpdateRaises (hosts : HostChecks) (body : Body) : Prop :=
  ∃ (data : JsonObject) (v : Json), body = .json (.obj data) ∧ data.get? "original_url" = some v ∧
    validateUrl hosts v = .raised

/-- There is no such URL; or `urlparse` does not raise, and if all the checks pass, the texts are
stored and the id of the event is free. -/
def UpdateAccepted (urlId : Int) (body : Body) : Prop :=
  (db.urlGetById urlId).isSome = true →
    ¬ UpdateRaises app.hosts body ∧ ∀ d, checkUpdate app.hosts body = .ok d → d.Fits ∧
      db.EventIdFree

/-- There is no such URL, or the id of the event is free. -/
def DeleteAccepted (urlId : Int) : Prop := (db.urlGetById urlId).isSome = true → db.EventIdFree

/-- Unless the URL is known to be deactivated, the code can be looked for, the location can be sent,
and the id of the click is free where there is a row to log one for. -/
def RedirectAccepted (flask : Flask) (w : World Unit) (code : String) : Prop :=
  match app.cached w (.redirect code) with
  | some entry =>
    entry.active = true → sendable code = true ∧ flask.sendsLocation entry.url = true ∧
      ((w.db.urlByCode code).isSome = true → w.db.EventIdFree)
  | none => sendable code = true ∧ ∀ u, w.db.urlByCode code = some u → u.isActive = true →
      flask.sendsLocation u.originalUrl = true ∧ w.db.EventIdFree

/-- If all the checks pass, the event type is stored and the id of the event is free. -/
def EventAccepted (body : Body) : Prop :=
  ∀ (data : JsonObject) (n : EventRoutes.NewEvent), body = .json (.obj data) →
    EventRoutes.checkEvent data = .ok n →
    (db.urlGetById n.urlId).isSome = true → (db.userGetById n.userId).isSome = true →
      ∀ details, normalizeDetails ((data.get? "details").getD (.obj [])) = .ok details →
        (varchar 50 (pyStrip n.eventType)).isSome = true ∧ db.EventIdFree

end Conditions

section Handlers

variable {scanner : Scanner} {flask : Flask} {app : App} {w : World Unit} {before : Tables}
  {a : Response}

/-! ## Answers -/

theorem send_of_none (h : a.location = none) : flask.send a = a := by
  unfold Flask.send
  rw [h]

theorem answersWell_error {status : Nat} {message : String} (h : status < 500) :
    AnswersWell flask w.db.toTables (errorResponse status message) w := wellAnswered_same h

theorem answersWell_done (hlocation : a.location = none) (h : a.status < 400) :
    AnswersWell flask before a w := by
  unfold AnswersWell
  rw [send_of_none hlocation]
  exact wellAnswered_done h

theorem not_answersWell : ¬ AnswersWell flask before serverError w := not_wellAnswered

/-- A redirect is answered well exactly if its location can be sent. -/
theorem answersWell_redirect {location : String} :
    AnswersWell flask before (redirectResponse location) w ↔
      flask.sendsLocation location = true := by
  unfold AnswersWell Flask.send redirectResponse
  dsimp only
  split
  · rename_i hsends
    exact iff_of_true (wellAnswered_done (by decide : 302 < 400)) hsends
  · rename_i hsends
    exact iff_of_false not_wellAnswered hsends

/-! ## The cache -/

theorem getCachedRedirect_cached (code : String) :
    (server scanner).eval () () (getCachedRedirect app.redis code) w =
      some (app.cached w (.redirect code), w) := by
  unfold App.cached
  cases app.redis with
  | false => rfl
  | true => rfl

theorem getCachedUrlList_cached (page perPage : Int) :
    (server scanner).eval () () (getCachedUrlList app.redis page perPage) w =
      some (app.cached w (.urlList page perPage), w) := by
  unfold App.cached
  cases app.redis with
  | false => rfl
  | true => rfl

variable (scanner app) in
theorem cacheRedirect_returns (code url : String) (active : Bool) (w : World Unit) :
    ∃ w', (server scanner).eval () () (cacheRedirect app.redis code url active) w = some ((), w') ∧
      w'.db = w.db := by
  cases app.redis with
  | false => exact ⟨w, rfl, rfl⟩
  | true => exact ⟨_, rfl, rfl⟩

variable (scanner app) in
theorem cacheUrlList_returns (page perPage : Int) (data : Json) (w : World Unit) :
    ∃ w', (server scanner).eval () () (cacheUrlList app.redis page perPage data) w = some ((), w') ∧
      w'.db = w.db := by
  cases app.redis with
  | false => exact ⟨w, rfl, rfl⟩
  | true => exact ⟨_, rfl, rfl⟩

theorem invalidateUrlLists_returns (hfuel : scanner.bound < app.scanFuel) (w : World Unit) :
    ∃ w', (server scanner).eval () () (invalidateUrlLists app.redis app.scanFuel) w =
      some ((), w') ∧ w'.db = w.db := by
  cases app.redis with
  | false => exact ⟨w, rfl, rfl⟩
  | true =>
    obtain ⟨r, hscan, -⟩ := @invalidateUrlLists_eval Unit _ scanner () w app.scanFuel hfuel
    exact ⟨_, hscan, rfl⟩

/-! ## GET /urls -/

theorem listUrls_answersWell (page perPage : Int) (userId : Option Int) (isActive : Option String) :
    (server scanner).Finishes () () (listUrls app page perPage userId isActive)
      (AnswersWell flask before) w ↔
      ListAccepted app w page perPage := by
  unfold listUrls ListAccepted
  dsimp only
  rw [Server.finishes_bind (getCachedUrlList_cached page (min perPage 100))]
  cases hcached : app.cached w (.urlList page (min perPage 100)) with
  | some cached =>
    exact iff_of_true (Server.finishes_ret.2 (answersWell_done rfl (by decide : 200 < 400)))
      (.inl rfl)
  | none =>
    simp only [Prog.perform_bind]
    rw [Server.finishes_call (respond_countUrls scanner () w _),
      Server.finishes_call (respond_paginate scanner () w _ _ _)]
    have hnone : ¬ (none : Option Json).isSome = true := by decide
    unfold Tables.paginate
    by_cases hrange : Tables.pageInRange page (min perPage 100) = true
    · rw [if_pos hrange]
      dsimp only
      obtain ⟨w', heval, -⟩ := cacheUrlList_returns scanner app page (min perPage 100) _ w
      rw [Server.finishes_bind heval]
      exact iff_of_true (Server.finishes_ret.2 (answersWell_done rfl (by decide : 200 < 400)))
        (.inr hrange)
    · rw [if_neg hrange]
      refine iff_of_false (fun h => not_answersWell (Server.finishes_ret.1 h)) ?_
      exact fun h => h.elim hnone hrange

/-! ## PUT and DELETE /urls/<url_id> -/

theorem sendable_of_printed {s : String} (h : Printed s.toList) : sendable s = true := by
  unfold sendable
  rw [Bool.not_eq_true', List.contains_eq_mem, decide_eq_false_iff_not]
  intro hmem
  exact absurd (h _ hmem) (by decide)

theorem sendable_updatedDetails (printable : Char → Bool) (keys : List String) :
    sendable (updatedDetails printable keys) = true := by
  unfold updatedDetails
  rw [sendable_append, sendable_append, sendable_of_printed (printed_pyReprStrList printable keys)]
  decide

/-- The row an update saves is stored exactly if the texts it sets are. -/
theorem storeUrl_apply {d : UrlUpdate} {u : Url} (hu : storeUrl u = some u) (now : DateTime) :
    (storeUrl (d.apply now u)).isSome = true ↔ d.Fits := by
  obtain ⟨code, url, title, hcode, hurl, htitle, -⟩ := storeUrl_eq_some.1 hu
  constructor
  · intro h
    obtain ⟨row, hrow⟩ := Option.isSome_iff_exists.1 h
    obtain ⟨_, url', title', -, hurl', htitle', -⟩ := storeUrl_eq_some.1 hrow
    refine ⟨fun s hs => ?_, fun s hs => ?_⟩
    · rw [UrlUpdate.apply, hs] at hurl'
      exact Option.isSome_iff_exists.2 ⟨url', hurl'⟩
    · rw [UrlUpdate.apply, hs] at htitle'
      obtain ⟨t, ht, -⟩ := Option.map_eq_some_iff.1 htitle'
      exact Option.isSome_iff_exists.2 ⟨t, ht⟩
  · intro h
    have hurl' : ∃ url', varchar 2048 (d.apply now u).originalUrl = some url' := by
      unfold UrlUpdate.apply
      cases hs : d.originalUrl with
      | none => exact ⟨url, hurl⟩
      | some s => exact Option.isSome_iff_exists.1 (h.url s hs)
    have htitle' : ∃ title', storeTitle (d.apply now u).title = some title' := by
      unfold UrlUpdate.apply
      cases hs : d.title with
      | none => exact ⟨title, htitle⟩
      | some s =>
        obtain ⟨t, ht⟩ := Option.isSome_iff_exists.1 (h.title s hs)
        exact ⟨some t, Option.map_eq_some_iff.2 ⟨t, ht, rfl⟩⟩
    obtain ⟨url', hurl'⟩ := hurl'
    obtain ⟨title', htitle'⟩ := htitle'
    exact Option.isSome_iff_exists.2
      ⟨_, storeUrl_eq_some.2 ⟨code, url', title', hcode, hurl', htitle', rfl⟩⟩

/-- A save is answered well exactly if it commits. -/
theorem saveUrl_answersWell (hfuel : scanner.bound < app.scanFuel) {url : Url} {event : Event}
    {response : Response} (hlocation : response.location = none) (hstatus : response.status < 400) :
    (server scanner).Finishes () () (saveUrl app url event response) (AnswersWell flask before) w ↔
      (w.db.saveUrlTx url event).1 = .ok () := by
  unfold saveUrl
  rw [Prog.perform_bind]
  cases hres : (w.db.saveUrlTx url event).1 with
  | error err =>
    have hrespond : respond scanner () w (.saveUrlTx url event) =
        some (.error err, { w with db := (w.db.saveUrlTx url event).2 }) :=
          congrArg some (World.save_error hres)
    rw [Server.finishes_call hrespond]
    refine iff_of_false (fun h => not_answersWell (Server.finishes_ret.1 h)) ?_
    rintro ⟨⟩
  | ok done =>
    have hrespond : respond scanner () w (.saveUrlTx url event) =
        some (.ok (), w.noteWrite () url.shortCode (w.db.saveUrlTx url event).2) :=
          congrArg some (World.save_ok hres)
    rw [Server.finishes_call hrespond]
    obtain ⟨w', heval, -⟩ := @invalidate_eval scanner app hfuel url.shortCode response
      (w.noteWrite () url.shortCode (w.db.saveUrlTx url event).2)
    exact iff_of_true ⟨response, w', heval, answersWell_done hlocation hstatus⟩ rfl

theorem checkUpdate_of_raises {hosts : HostChecks} {body : Body} (h : UpdateRaises hosts body) :
    checkUpdate hosts body = .error serverError := by
  obtain ⟨data, v, rfl, hget, hraised⟩ := h
  have hlength : data.length ≠ 0 := by
    intro hlength
    rw [List.eq_nil_of_length_eq_zero hlength] at hget
    cases hget
  unfold checkUpdate parseJsonBody
  change (if data.length = 0 then _ else _) = _
  rw [if_neg hlength, hget]
  dsimp only
  rw [hraised]
  rfl

/-- The other refusals of `update_url` are the client's. -/
theorem checkUpdate_error {hosts : HostChecks} {body : Body} {err : Response}
    (hno : ¬ UpdateRaises hosts body) (h : checkUpdate hosts body = .error err) :
    ∃ status message, err = errorResponse status message ∧ status < 500 := by
  have hclient : 400 < 500 := by decide
  unfold checkUpdate at h
  cases hparse : parseJsonBody body with
  | error err' =>
    rw [hparse] at h
    cases h
    obtain ⟨status, message, rfl, hstatus⟩ := parseJsonBody_error hparse
    exact ⟨status, message, rfl, by omega⟩
  | ok data =>
    rw [hparse] at h
    change (if data.length = 0 then _ else _) = _ at h
    split at h
    · cases h
      exact ⟨_, _, rfl, hclient⟩
    · cases hget : data.get? "original_url" with
      | none =>
        rw [hget] at h
        dsimp only [Bind.bind, Except.bind, Pure.pure, Except.pure, throw, throwThe,
          MonadExceptOf.throw] at h
        repeat' split at h
        all_goals cases h
        all_goals exact ⟨_, _, rfl, hclient⟩
      | some v =>
        rw [hget] at h
        dsimp only [Bind.bind, Except.bind, Pure.pure, Except.pure, throw, throwThe,
          MonadExceptOf.throw] at h
        cases hcheck : validateUrl hosts v with
        | raised => exact absurd ⟨data, v, parseJsonBody_ok.1 hparse, hget, hcheck⟩ hno
        | invalid message =>
          rw [hcheck] at h
          cases h
          exact ⟨_, _, rfl, hclient⟩
        | valid url =>
          rw [hcheck] at h
          dsimp only at h
          repeat' split at h
          all_goals cases h
          all_goals exact ⟨_, _, rfl, hclient⟩

/-- The event that `update_url` creates. -/
def updatedEvent (app : App) (d : UrlUpdate) (url : Url) (now : DateTime) : Event :=
  { id := 0, urlId := url.id, userId := url.userId, eventType := "updated", timestamp := now,
    details := updatedDetails app.printable d.keys }

theorem updateUrl_answersWell (hfuel : scanner.bound < app.scanFuel) (urlId : Int) (body : Body)
    (now : DateTime) :
    (server scanner).Finishes () () (updateUrl app urlId body now)
        (AnswersWell flask w.db.toTables) w ↔
      UpdateAccepted app w.db.toTables urlId body := by
  unfold updateUrl UpdateAccepted
  rw [Prog.perform_bind, Server.finishes_call (respond_urlGetById scanner () w urlId)]
  have hclient : 404 < 500 := by decide
  cases hload : w.db.urlGetById urlId with
  | none =>
    refine iff_of_true (Server.finishes_ret.2 (answersWell_error hclient)) fun h => ?_
    cases h
  | some url =>
    obtain ⟨hmem, hid⟩ := w.db.valid.urlGetById_eq_some.1 hload
    have hstored := w.db.valid.stored url hmem
    dsimp only
    by_cases hraises : UpdateRaises app.hosts body
    · rw [checkUpdate_of_raises hraises]
      exact iff_of_false (fun h => not_answersWell (Server.finishes_ret.1 h)) fun h =>
        (h rfl).1 hraises
    · cases hcheck : checkUpdate app.hosts body with
      | error err =>
        obtain ⟨status, message, rfl, hstatus⟩ := checkUpdate_error hraises hcheck
        refine iff_of_true (Server.finishes_ret.2 (answersWell_error hstatus)) fun _ =>
          ⟨hraises, fun d hd => ?_⟩
        cases hd
      | ok d =>
        have htype : (varchar 50 "updated").isSome = true := by decide
        have hdetails : (textColumn (updatedDetails app.printable d.keys)).isSome = true := by
          rw [textColumn, if_pos (sendable_updatedDetails app.printable d.keys)]
          rfl
        rw [saveUrl_answersWell hfuel rfl (by decide : 200 < 400)]
        constructor
        · intro hok
          refine fun _ => ⟨hraises, fun d' hd' => ?_⟩
          cases hd'
          obtain ⟨err, herr, -⟩ | ⟨row, hrow, -⟩ :=
            Tables.saveUrlTx_cases w.db.toTables (d.apply now url) (updatedEvent app d url now)
          · rw [Db.saveUrlTx] at hok
            cases herr.symm.trans hok
          · exact ⟨(storeUrl_apply hstored now).1 (Option.isSome_iff_exists.2 ⟨row, hrow⟩),
              Tables.saveUrlTx_free hok⟩
        · intro h
          obtain ⟨hfits, hevent⟩ := (h rfl).2 d rfl
          obtain ⟨row, hrow⟩ := Option.isSome_iff_exists.1 ((storeUrl_apply hstored now).2 hfits)
          have hload' : w.db.urlGetById (d.apply now url).id = some url := hid ▸ hload
          obtain ⟨eid, -, hcommits⟩ :=
            Tables.saveUrlTx_loaded (e := updatedEvent app d url now) w.db.valid hevent hload'
            rfl rfl hrow htype hdetails rfl rfl
          exact congrArg Prod.fst hcommits

theorem deleteUrl_answersWell (hfuel : scanner.bound < app.scanFuel) (urlId : Int)
    (now : DateTime) :
    (server scanner).Finishes () () (deleteUrl app urlId now) (AnswersWell flask w.db.toTables) w ↔
      DeleteAccepted w.db.toTables urlId := by
  unfold deleteUrl DeleteAccepted
  rw [Prog.perform_bind, Server.finishes_call (respond_urlGetById scanner () w urlId)]
  cases hload : w.db.urlGetById urlId with
  | none =>
    refine iff_of_true (Server.finishes_ret.2 (answersWell_done rfl (by decide : 200 < 400)))
      fun h => ?_
    cases h
  | some url =>
    dsimp only
    rw [saveUrl_answersWell hfuel rfl (by decide : 200 < 400)]
    exact ⟨fun hok _ => Tables.saveUrlTx_free hok,
      fun h => (Tables.saveUrlTx_deleted w.db.valid (h rfl) hload now).1⟩

/-! ## GET /<short_code> -/

/-- A click whose id is free is logged, and the answer depends on the location. -/
theorem click_answersWell {url : Url} (hmem : url ∈ w.db.urls) (location : String)
    (now : DateTime) :
    (server scanner).Finishes () () (do
        let logged ← logClickEvent url now
        pure (clickResponse location logged)) (AnswersWell flask before) w ↔
      flask.sendsLocation location = true ∧ w.db.EventIdFree := by
  unfold logClickEvent
  rw [Prog.perform_bind, Server.finishes_call
    (respond_createEvent scanner () w (clickEvent url now)), ← clickEvent_created_iff hmem now]
  cases hlogged : (w.db.createEvent (clickEvent url now)).1 with
  | error err =>
    refine iff_of_false (fun h => not_answersWell (Server.finishes_ret.1 h)) ?_
    rintro ⟨-, eventId, ⟨⟩⟩
  | ok eventId =>
    exact (Server.finishes_ret.trans answersWell_redirect).trans
      (iff_self_and.2 fun _ => ⟨eventId, rfl⟩)

theorem redirectToUrl_answersWell (code : String) (now : DateTime) :
    (server scanner).Finishes () () (redirectToUrl app code now)
        (AnswersWell flask w.db.toTables) w ↔
      RedirectAccepted app flask w code := by
  have hgone : 410 < 500 := by decide
  have hmissing : 404 < 500 := by decide
  have hread : w.db.urlGetByCode code = if sendable code = true then .ok (w.db.urlByCode code)
    else .error .data := rfl
  unfold redirectToUrl RedirectAccepted
  rw [Server.finishes_bind (getCachedRedirect_cached code)]
  cases app.cached w (.redirect code) with
  | some entry =>
    dsimp only
    by_cases hactive : entry.active = true
    · have hnot : ¬ (!entry.active) = true := by rw [hactive]; decide
      rw [if_neg hnot, Prog.perform_bind,
        Server.finishes_call (respond_urlGetByCode scanner () w code), hread]
      by_cases hsend : sendable code = true
      · rw [if_pos hsend]
        cases hcode : w.db.urlByCode code with
        | none =>
          exact Server.finishes_ret.trans (answersWell_redirect.trans
            ⟨fun h _ => ⟨hsend, h, fun hsome => nomatch hsome⟩, fun h => (h hactive).2.1⟩)
        | some url =>
          exact (click_answersWell (w.db.valid.urlByCode_eq_some.1 hcode).1 entry.url now).trans
            ⟨fun h _ => ⟨hsend, h.1, fun _ => h.2⟩, fun h => ⟨(h hactive).2.1, (h hactive).2.2 rfl⟩⟩
      · rw [if_neg hsend]
        exact iff_of_false (fun h => not_answersWell (Server.finishes_ret.1 h)) fun h =>
          hsend (h hactive).1
    · have hnot : (!entry.active) = true := by rw [Bool.not_eq_true] at hactive; rw [hactive]; rfl
      rw [if_pos hnot]
      exact iff_of_true (Server.finishes_ret.2 (answersWell_error hgone)) fun h => absurd h hactive
  | none =>
    dsimp only
    rw [Prog.perform_bind, Server.finishes_call (respond_urlGetByCode scanner () w code), hread]
    by_cases hsend : sendable code = true
    · rw [if_pos hsend]
      cases hcode : w.db.urlByCode code with
      | none =>
        refine iff_of_true (Server.finishes_ret.2 (answersWell_error hmissing))
          ⟨hsend, fun u hu => ?_⟩
        cases hu
      | some url =>
        have hmem := (w.db.valid.urlByCode_eq_some.1 hcode).1
        obtain ⟨w', heval, hdb⟩ := cacheRedirect_returns scanner app code url.originalUrl
          url.isActive w
        dsimp only
        rw [Server.finishes_bind heval]
        cases hactive : url.isActive with
        | false =>
          have hgood : AnswersWell flask w'.db.toTables deactivated w' := answersWell_error hgone
          rw [hdb] at hgood
          refine iff_of_true (Server.finishes_ret.2 hgood) ⟨hsend, fun u hu hu' => ?_⟩
          cases hu
          rw [hactive] at hu'
          cases hu'
        | true =>
          refine (click_answersWell (by rw [hdb]; exact hmem) url.originalUrl now).trans ?_
          rw [hdb]
          constructor
          · rintro h
            refine ⟨hsend, fun u hu _ => ?_⟩
            cases hu
            exact h
          · exact fun h => h.2 url rfl hactive
    · rw [if_neg hsend]
      exact iff_of_false (fun h => not_answersWell (Server.finishes_ret.1 h)) fun h => hsend h.1

/-! ## POST /events -/

theorem normalizeDetails_sendable {x : Json} {details : String}
    (h : normalizeDetails x = .ok details) :
    sendable details = true := by
  have hdumps :
      ∀ y, (if isContainer y then dumpsDetails y else .error detailsMessage) = .ok details →
      sendable details = true := by
    intro y hy
    split at hy
    · unfold dumpsDetails at hy
      split at hy
      · rename_i text htext
        cases hy
        exact sendable_of_printed (printed_dumps htext)
      · cases hy
    · cases hy
  unfold normalizeDetails at h
  split at h
  · cases h
    decide
  · split at h
    · cases h
    · exact hdumps _ h
  · exact hdumps _ h

theorem checkEvent_error {data : JsonObject} {err : Response}
    (h : EventRoutes.checkEvent data = .error err) :
    ∃ message, err = errorResponse 400 message := by
  unfold EventRoutes.checkEvent at h
  split at h
  · cases h
    exact ⟨_, rfl⟩
  · split at h
    · split at h
      · cases h
        exact ⟨_, rfl⟩
      · cases h
    all_goals
      cases h
      exact ⟨_, rfl⟩

/-- A new event is created exactly if its type is stored and its id is free. -/
theorem newEvent_created_iff {n : EventRoutes.NewEvent} {details : String} (now : DateTime)
    (hdetails : sendable details = true) (hurl : (w.db.urlGetById n.urlId).isSome = true)
    (huser : (w.db.userGetById n.userId).isSome = true) :
    (∃ id, (w.db.createEvent (EventRoutes.newEvent n details now)).1 = .ok id) ↔
      (varchar 50 (pyStrip n.eventType)).isSome = true ∧ w.db.EventIdFree := by
  have htext : (textColumn details).isSome = true := by
    rw [textColumn, if_pos hdetails]
    rfl
  rw [Db.createEvent]
  dsimp only
  cases htype : varchar 50 (pyStrip n.eventType) with
  | some type =>
    have hstored : (varchar 50 (EventRoutes.newEvent n details now).eventType).isSome = true := by
      rw [EventRoutes.newEvent, htype]
      rfl
    exact (Tables.createEvent_ok_iff hstored htext hurl huser).trans (and_iff_right rfl).symm
  | none =>
    refine iff_of_false ?_ (fun h => Bool.false_ne_true h.1)
    rintro ⟨id, hid⟩
    unfold Tables.createEvent EventRoutes.newEvent at hid
    rw [htype] at hid
    cases hid

theorem createEvent_answersWell (body : Body) (now : DateTime) :
    (server scanner).Finishes () () (EventRoutes.createEvent body now)
      (AnswersWell flask w.db.toTables) w ↔
      EventAccepted w.db.toTables body := by
  have hmissing : 404 < 500 := by decide
  have hclient : 400 < 500 := by decide
  unfold EventRoutes.createEvent EventAccepted
  cases hparse : parseJsonBody body with
  | error err =>
    obtain ⟨status, message, rfl, hstatus⟩ := parseJsonBody_error hparse
    refine iff_of_true (Server.finishes_ret.2 (answersWell_error (by omega))) fun data n hbody => ?_
    cases hparse.symm.trans (parseJsonBody_ok.2 hbody)
  | ok data =>
    obtain rfl := parseJsonBody_ok.1 hparse
    dsimp only
    cases hcheck : EventRoutes.checkEvent data with
    | error err =>
      obtain ⟨message, rfl⟩ := checkEvent_error hcheck
      refine iff_of_true (Server.finishes_ret.2 (answersWell_error hclient))
        fun data' n hbody hok => ?_
      cases hbody
      cases hcheck.symm.trans hok
    | ok n =>
      dsimp only
      rw [Prog.perform_bind, Server.finishes_call (respond_urlGetById scanner () w n.urlId)]
      cases hurl : w.db.urlGetById n.urlId with
      | none =>
        refine iff_of_true (Server.finishes_ret.2 (answersWell_error hmissing))
          fun data' n' hbody hok hurl' => ?_
        cases hbody
        cases hcheck.symm.trans hok
        rw [hurl] at hurl'
        cases hurl'
      | some url =>
        dsimp only
        rw [Prog.perform_bind, Server.finishes_call (respond_userGetById scanner () w n.userId)]
        cases huser : w.db.userGetById n.userId with
        | none =>
          refine iff_of_true (Server.finishes_ret.2 (answersWell_error hmissing))
            fun data' n' hbody hok _ huser' => ?_
          cases hbody
          cases hcheck.symm.trans hok
          rw [huser] at huser'
          cases huser'
        | some user =>
          dsimp only
          cases hdetails : normalizeDetails ((data.get? "details").getD (.obj [])) with
          | error message =>
            refine iff_of_true (Server.finishes_ret.2 (answersWell_error hclient))
              fun data' n' hbody hok _ _ details hdetails' => ?_
            cases hbody
            cases hdetails.symm.trans hdetails'
          | ok details =>
            have hurl' : (w.db.urlGetById n.urlId).isSome = true := by rw [hurl]; rfl
            have huser' : (w.db.userGetById n.userId).isSome = true := by rw [huser]; rfl
            dsimp only
            rw [Prog.perform_bind,
              Server.finishes_call (respond_createEvent scanner () w
                (EventRoutes.newEvent n details now))]
            have hcreated :=
              newEvent_created_iff now (normalizeDetails_sendable hdetails) hurl' huser'
            cases hlogged : (w.db.createEvent (EventRoutes.newEvent n details now)).1 with
            | ok id =>
              refine iff_of_true (Server.finishes_ret.2
                (answersWell_done rfl (by decide : 201 < 400))) fun data' n' hbody hok _ _ _ _ => ?_
              cases hbody
              cases hcheck.symm.trans hok
              exact hcreated.1 ⟨id, hlogged⟩
            | error err =>
              refine iff_of_false (fun h => not_answersWell (Server.finishes_ret.1 h)) fun h => ?_
              obtain ⟨id, hid⟩ := hcreated.2 (h data n rfl hcheck hurl' huser' details hdetails)
              cases hlogged.symm.trans hid

end Handlers

end PeHackathon.UrlShortener
