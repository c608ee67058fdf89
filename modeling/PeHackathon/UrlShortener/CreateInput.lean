import PeHackathon.UrlShortener.UrlInput

/-!
# Bad input to a create

A create is answered well exactly if `urlparse` takes the address and, once its checks have passed,
PostgreSQL takes the row: the texts are stored, no row has the code that is stored, and the next ids
are free (`createShortUrl_answersWell`).
-/

namespace PeHackathon.UrlShortener

open Lib

/-! ## What a create accepts -/

/-- PostgreSQL takes the row of a create and its event: it stores the texts, no row has the code it
stores, and the next ids are free. -/
structure Insertable (db : Tables) (code originalUrl title : String) : Prop where
  code : ∃ stored, varchar 20 code = some stored ∧ db.urlByCode stored = none
  url : (varchar 2048 originalUrl).isSome = true
  title : (varchar 500 title).isSome = true
  ids : db.IdsFree

section Conditions

variable (app : App) (db : Tables) (rng : Nat → GeneratedCode) (originalUrl title : String)

/-- One of the codes that are drawn can be inserted. -/
def DrawFits : Prop := ∃ n < app.codeFuel, Insertable db (rng n) originalUrl title

/-- A code of the client can be looked for, and it is taken or can be inserted. -/
def CodeFits (code : String) : Prop :=
  sendable code = true ∧ ((db.urlByCode code).isSome = true ∨ Insertable db code originalUrl title)

/-- The code of a create, which is drawn when none is given. -/
def RequestedFits : Option String → Prop
  | some code =>
    if code.isEmpty then DrawFits app db rng originalUrl title
      else CodeFits db originalUrl title code
  | none => DrawFits app db rng originalUrl title

/-- `urlparse` does not raise, and if all the checks pass, PostgreSQL takes the row. -/
def CreateAccepted (body : Body) : Prop :=
  ∀ data : JsonObject, body = .json (.obj data) → data.has "original_url" = true →
    data.has "user_id" = true →
    match validateUrl app.hosts (data.getNone "original_url") with
    | .raised => False
    | .invalid _ => True
    | .valid originalUrl => ∀ userId title requested, (data.getNone "user_id").asInt = some userId →
        newTitle data = some title → (db.userGetById userId).isSome = true →
          requestedShortCode data = some requested →
          RequestedFits app db rng originalUrl title requested

end Conditions

section Handlers

variable {scanner : Scanner} {flask : Flask} {app : App} {w : World Unit} {before : Tables}
  {a : Response}

/-! ## The draws -/

theorem sendable_generated (code : GeneratedCode) : sendable code = true := by
  unfold sendable
  rw [Bool.not_eq_true', List.contains_eq_mem, decide_eq_false_iff_not]
  intro hmem
  exact absurd (List.all_eq_true.1 code.2.2 _ hmem) (by decide)

theorem varchar_generated (code : GeneratedCode) :
    varchar 20 (code : String) = some (code : String) :=
  varchar_of_fits (sendable_generated code) (by rw [code.2.1]; decide)

theorem shortCodeExists_eq {db : Tables} {code : String} (h : sendable code = true) :
    db.shortCodeExists code = .ok (db.urlByCode code).isSome := by
  unfold Tables.shortCodeExists Tables.urlGetByCode
  rw [if_pos h]
  rfl

/-- The draws end with the first code that is free, or they do not end. -/
theorem generateShortCode_draws (scanner : Scanner) (rng : Nat → GeneratedCode) (fuel n : Nat)
    (w : World Unit) :
    (∃ m < fuel, w.db.urlByCode (rng (n + m)) = none ∧
      (server scanner).eval () () (generateShortCode rng fuel n) w =
        some (.ok (rng (n + m) : String), w)) ∨
    (∀ m < fuel, (w.db.urlByCode (rng (n + m))).isSome = true) ∧
      (server scanner).eval () () (generateShortCode rng fuel n) w = none := by
  induction fuel generalizing n with
  | zero => exact .inr ⟨fun m hm => absurd hm (Nat.not_lt_zero m), rfl⟩
  | succ fuel ih =>
    have hround : (server scanner).eval () () (generateShortCode rng (fuel + 1) n) w =
        if (w.db.urlByCode (rng n)).isSome = true then
          (server scanner).eval () () (generateShortCode rng fuel (n + 1)) w
        else some (.ok (rng n : String), w) := by
      rw [generateShortCode, Prog.perform_bind, Server.eval_call, server_respond,
        respond_shortCodeExists, shortCodeExists_eq (sendable_generated (rng n)), Option.bind_some]
      cases (w.db.urlByCode (rng n)).isSome with
      | true => rfl
      | false => rfl
    rw [hround]
    by_cases htaken : (w.db.urlByCode (rng n)).isSome = true
    · rw [if_pos htaken]
      have hshift : ∀ m, n + 1 + m = n + (m + 1) := fun m => by omega
      rcases ih (n + 1) with ⟨m, hm, hfree, heval⟩ | ⟨hall, heval⟩
      · rw [hshift] at hfree heval
        exact .inl ⟨m + 1, Nat.succ_lt_succ hm, hfree, heval⟩
      · refine .inr ⟨fun m hm => ?_, heval⟩
        cases m with
        | zero => exact htaken
        | succ m =>
          rw [← hshift]
          exact hall m (Nat.lt_of_succ_lt_succ hm)
    · rw [if_neg htaken]
      exact .inl ⟨0, Nat.succ_pos fuel, Option.not_isSome_iff_eq_none.1 htaken, rfl⟩

/-! ## The row -/

section Create

variable {userId : Int} {code originalUrl title : String} {now : DateTime}

/-- The event of a create. -/
def createdEvent (userId : Int) (code originalUrl : String) (now : DateTime) : Event :=
  { id := 0, urlId := 0, userId, eventType := "created", timestamp := now,
    details := createdDetails code originalUrl }

/-- The transaction of a create commits exactly if its row can be inserted. -/
theorem createUrlTx_commits {db : Tables} (h : db.Valid)
    (huser : (db.userGetById userId).isSome = true) (code originalUrl title : String)
    (now : DateTime) :
    (∃ id, (db.createUrlTx (newUrl userId code originalUrl title now)
      (createdEvent userId code originalUrl now)).1 = .ok id) ↔
      Insertable db code originalUrl title := by
  constructor
  · rintro ⟨id, hid⟩
    obtain ⟨err, herr, -⟩ | ⟨row, hrow, -, hfree, hcode, -⟩ := Tables.createUrlTx_cases db
      (newUrl userId code originalUrl title now) (createdEvent userId code originalUrl now)
    · cases herr.symm.trans hid
    · obtain ⟨stored, url, title', hstored, hurl, htitle, rfl⟩ := storeUrl_eq_some.1 hrow
      obtain ⟨t, ht, -⟩ := Option.map_eq_some_iff.1 htitle
      exact ⟨⟨stored, hstored, hcode⟩, Option.isSome_iff_exists.2 ⟨url, hurl⟩,
        Option.isSome_iff_exists.2 ⟨t, ht⟩, hfree, Tables.createUrlTx_free hid⟩
  · rintro ⟨⟨stored, hstored, hcode⟩, hurl, htitle, hids⟩
    obtain ⟨url, hurl⟩ := Option.isSome_iff_exists.1 hurl
    obtain ⟨t, ht⟩ := Option.isSome_iff_exists.1 htitle
    have hrow : storeUrl (newUrl userId code originalUrl title now) =
        some { newUrl userId code originalUrl title now with
          shortCode := stored, originalUrl := url, title := some t } :=
      storeUrl_eq_some.2
        ⟨stored, url, some t, hstored, hurl, Option.map_eq_some_iff.2 ⟨t, ht, rfl⟩, rfl⟩
    have htype : (varchar 50 "created").isSome = true := by decide
    exact ⟨_, (Tables.createUrlTx_adds (e := createdEvent userId code originalUrl now)
      h hrow hids hcode huser rfl htype
      (textColumn_createdDetails (sendable_of_varchar hstored) (sendable_of_varchar hurl))).1⟩

/-- What follows the transaction of a create changes Redis only. -/
theorem prime_answersWell (hfuel : scanner.bound < app.scanFuel) (code originalUrl : String)
    (hlocation : a.location = none) (hstatus : a.status < 400) :
    (server scanner).Finishes () () (do
        cacheRedirect app.redis code originalUrl true
        invalidateUrlLists app.redis app.scanFuel
        pure a) (AnswersWell flask before) w := by
  obtain ⟨w₁, hprime, -⟩ := cacheRedirect_returns scanner app code originalUrl true w
  obtain ⟨w₂, hflush, -⟩ := invalidateUrlLists_returns hfuel w₁
  rw [Server.finishes_bind hprime, Server.finishes_bind hflush]
  exact Server.finishes_ret.2 (answersWell_done hlocation hstatus)

theorem insertUrl_answersWell (hfuel : scanner.bound < app.scanFuel)
    (huser : (w.db.userGetById userId).isSome = true) (userIdJson : Json) :
    (server scanner).Finishes () () (insertUrl app userId userIdJson code originalUrl title now)
        (AnswersWell flask w.db.toTables) w ↔ CodeFits w.db.toTables originalUrl title code := by
  have hconflict : 409 < 500 := by decide
  unfold insertUrl CodeFits
  rw [Prog.perform_bind, Server.finishes_call (respond_shortCodeExists scanner () w code)]
  by_cases hsend : sendable code = true
  · rw [shortCodeExists_eq hsend]
    cases hcode : w.db.urlByCode code with
    | some url =>
      exact iff_of_true (Server.finishes_ret.2 (answersWell_error hconflict)) ⟨hsend, .inl rfl⟩
    | none =>
      have hcommits := createUrlTx_commits w.db.valid huser code originalUrl title now
      dsimp only [Option.isSome_none]
      rw [Prog.perform_bind, Server.finishes_call (respond_createUrlTx scanner () w _ _)]
      cases hres : (w.db.createUrlTx (newUrl userId code originalUrl title now)
          { id := 0, urlId := 0, userId, eventType := "created", timestamp := now,
            details := createdDetails code originalUrl }).1 with
      | error err =>
        refine iff_of_false (fun h => not_answersWell (Server.finishes_ret.1 h)) fun h => ?_
        rcases h.2 with htaken | hinsert
        · cases htaken
        · obtain ⟨id, hid⟩ := hcommits.2 hinsert
          cases hres.symm.trans hid
      | ok id =>
        exact iff_of_true (prime_answersWell hfuel code originalUrl rfl (by decide : 201 < 400))
          ⟨hsend, .inr (hcommits.1 ⟨id, hres⟩)⟩
  · have hraises : w.db.shortCodeExists code = .error .data := by
      unfold Tables.shortCodeExists Tables.urlGetByCode
      rw [if_neg hsend]
      rfl
    rw [hraises]
    exact iff_of_false (fun h => not_answersWell (Server.finishes_ret.1 h)) fun h => hsend h.1

/-- A free draw can be inserted exactly if some draw can. -/
theorem drawFits_of_free {db : Tables} {rng : Nat → GeneratedCode} {m : Nat} (hm : m < app.codeFuel)
    (hfree : db.urlByCode (rng m) = none) :
    CodeFits db originalUrl title (rng m) ↔ DrawFits app db rng originalUrl title := by
  constructor
  · rintro ⟨-, htaken | hinsert⟩
    · rw [hfree] at htaken
      cases htaken
    · exact ⟨m, hm, hinsert⟩
  · rintro ⟨n, -, hinsert⟩
    exact ⟨sendable_generated (rng m), .inr ⟨⟨_, varchar_generated (rng m), hfree⟩, hinsert.url,
      hinsert.title, hinsert.ids⟩⟩

theorem not_drawFits {db : Tables} {rng : Nat → GeneratedCode}
    (h : ∀ m < app.codeFuel, (db.urlByCode (rng m)).isSome = true) :
    ¬ DrawFits app db rng originalUrl title := by
  rintro ⟨n, hn, ⟨stored, hstored, hfree⟩, -⟩
  rw [varchar_generated] at hstored
  cases hstored
  have htaken := h n hn
  rw [hfree] at htaken
  cases htaken

/-- The part of a create after the user is found. -/
theorem insertChosen_answersWell (hfuel : scanner.bound < app.scanFuel)
    (huser : (w.db.userGetById userId).isSome = true) (userIdJson : Json)
    (rng : Nat → GeneratedCode) (requested : Option String) :
    (server scanner).Finishes () () (do
        match ← chooseShortCode app rng requested with
        | .error _ => pure serverError
        | .ok shortCode => insertUrl app userId userIdJson shortCode originalUrl title now)
        (AnswersWell flask w.db.toTables) w ↔
          RequestedFits app w.db.toTables rng originalUrl title requested := by
  have hdraw : (server scanner).Finishes () () (do
      match ← generateShortCode rng app.codeFuel 0 with
      | .error _ => pure serverError
      | .ok shortCode => insertUrl app userId userIdJson shortCode originalUrl title now)
      (AnswersWell flask w.db.toTables) w ↔ DrawFits app w.db.toTables rng originalUrl title := by
    rcases generateShortCode_draws scanner rng app.codeFuel 0 w with ⟨m, hm, hfree,
      heval⟩ | ⟨hall, heval⟩
    · rw [Nat.zero_add] at hfree heval
      rw [Server.finishes_bind heval]
      exact (insertUrl_answersWell hfuel huser userIdJson).trans (drawFits_of_free hm hfree)
    · refine iff_of_false (Server.not_finishes_bind heval) (not_drawFits fun m hm => ?_)
      have htaken := hall m hm
      rwa [Nat.zero_add] at htaken
  unfold chooseShortCode RequestedFits
  cases requested with
  | none => exact hdraw
  | some code =>
    dsimp only
    by_cases hempty : code.isEmpty = true
    · rw [if_pos hempty, if_pos hempty]
      exact hdraw
    · rw [if_neg hempty, if_neg hempty]
      exact insertUrl_answersWell hfuel huser userIdJson

theorem createShortUrl_answersWell (hfuel : scanner.bound < app.scanFuel) (body : Body)
    (now : DateTime) (rng : Nat → GeneratedCode) :
    (server scanner).Finishes () () (createShortUrl app body now rng)
      (AnswersWell flask w.db.toTables) w ↔
      CreateAccepted app w.db.toTables rng body := by
  have hclient : 400 < 500 := by decide
  have hmissing : 404 < 500 := by decide
  have hrefused : ∀ message, (server scanner).Finishes () () (.ret (errorResponse 400 message))
      (AnswersWell flask w.db.toTables) w :=
        fun _ => Server.finishes_ret.2 (answersWell_error hclient)
  unfold createShortUrl CreateAccepted
  cases hparse : parseJsonBody body with
  | error err =>
    obtain ⟨status, message, rfl, hstatus⟩ := parseJsonBody_error hparse
    refine iff_of_true (Server.finishes_ret.2 (answersWell_error (by omega))) fun data hbody => ?_
    cases hparse.symm.trans (parseJsonBody_ok.2 hbody)
  | ok data =>
    obtain rfl := parseJsonBody_ok.1 hparse
    dsimp only
    by_cases hfields : data.has "original_url" = true ∧ data.has "user_id" = true
    · have hpresent : ¬ (!data.has "original_url" || !data.has "user_id") = true := by
        rw [hfields.1, hfields.2]
        decide
      rw [if_neg hpresent]
      cases hurl : validateUrl app.hosts (data.getNone "original_url") with
      | raised =>
        refine iff_of_false (fun h => not_answersWell (Server.finishes_ret.1 h)) fun h => ?_
        have hraised := h data rfl hfields.1 hfields.2
        rw [hurl] at hraised
        exact hraised
      | invalid message =>
        refine iff_of_true (hrefused message) fun data' hbody _ _ => ?_
        cases hbody
        rw [hurl]
        trivial
      | valid originalUrl =>
        -- the condition is about the fields of this body
        have hcondition : CreateAccepted app w.db.toTables rng (.json (.obj data)) ↔
            ∀ userId title requested,
            (data.getNone "user_id").asInt = some userId → newTitle data = some title →
              (w.db.userGetById userId).isSome = true → requestedShortCode data = some requested →
                RequestedFits app w.db.toTables rng originalUrl title requested := by
          constructor
          · intro h
            have hvalid := h data rfl hfields.1 hfields.2
            rw [hurl] at hvalid
            exact hvalid
          · intro h data' hbody _ _
            cases hbody
            rw [hurl]
            exact h
        refine Iff.trans ?_ hcondition.symm
        dsimp only
        cases hid : (data.getNone "user_id").asInt with
        | none =>
          refine iff_of_true (hrefused _) fun _ _ _ hid' => ?_
          cases hid'
        | some userId =>
          cases htitle : newTitle data with
          | none =>
            refine iff_of_true (hrefused _) fun _ _ _ _ htitle' => ?_
            cases htitle'
          | some title =>
            dsimp only
            rw [Prog.perform_bind, Server.finishes_call (respond_userGetById scanner () w userId)]
            cases huser : w.db.userGetById userId with
            | none =>
              refine iff_of_true (Server.finishes_ret.2 (answersWell_error hmissing))
                fun _ _ _ hid' _ huser' => ?_
              cases hid'
              rw [huser] at huser'
              cases huser'
            | some user =>
              have huser' : (w.db.userGetById userId).isSome = true := by rw [huser]; rfl
              cases hrequested : requestedShortCode data with
              | none =>
                refine iff_of_true (hrefused _) fun _ _ _ _ _ _ hrequested' => ?_
                cases hrequested'
              | some requested =>
                refine (insertChosen_answersWell hfuel huser' _ rng requested).trans ?_
                constructor
                · intro h userId' title' requested' hid' htitle' _ hrequested'
                  cases hid'
                  cases htitle'
                  cases hrequested'
                  exact h
                · exact fun h => h userId title requested rfl rfl huser' rfl
    · have hmissing' : (!data.has "original_url" || !data.has "user_id") = true := by
        rw [Bool.or_eq_true, Bool.not_eq_true',
          Bool.not_eq_true', ← Bool.not_eq_true, ← Bool.not_eq_true]
        exact not_and_or.1 hfields
      rw [if_pos hmissing']
      refine iff_of_true (hrefused _) fun data' hbody hhas hhas' => ?_
      cases hbody
      exact absurd ⟨hhas, hhas'⟩ hfields

end Create

end Handlers

end PeHackathon.UrlShortener
