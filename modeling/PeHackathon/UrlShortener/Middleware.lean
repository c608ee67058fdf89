import PeHackathon.UrlShortener.BanList
import PeHackathon.UrlShortener.SlidingWindow

/-!
# Before a request

What `create_app` registers to run before a request, in the order of registration: the check of
`flask_limiter`, `_db_connect` of `app/database.py`, and `_check_ip_ban` and `_track_active_user` of
`app/middleware.py`, each with the handler of what it raises. `_start_timer` sets only the start and
the id of the request. `flask_limiter` is a parameter. `banned_blocked_iff`: a banned client is
turned away before anything else has happened just on the requests that `flask_limiter` exempts and
`_db_connect` skips.
-/

namespace PeHackathon.UrlShortener

open Lib

/-! ## Requests -/

/-- `request.endpoint`: the views of `create_app`, the static files, and the views of the
blueprints. -/
inductive Endpoint
  | favicon
  | index
  | health
  | live
  | ready
  | metrics
  | instanceStats
  | static
  | view (name : String)
  deriving DecidableEq

/-- What is read of a request. A request that no route matches has no endpoint. -/
structure HttpRequest where
  path : String
  method : String
  endpoint : Option Endpoint
  loadTestBypass : Option String
  remoteAddr : String

/-- `is_load_test_bypass_request`, where `token` is `LOAD_TEST_BYPASS_TOKEN`. -/
def isLoadTestBypassRequest (token : Option String) (request : HttpRequest) : Bool :=
  let token := pyStrip (token.getD "")
  if token = "" then false else decide (pyStrip (request.loadTestBypass.getD "") = token)

/-- The paths that are exempt from the check for a ban. -/
def HttpRequest.exemptPath (request : HttpRequest) : Bool :=
  decide (request.path ∈ ["/health", "/live", "/ready", "/metrics"]) ||
    "/admin/".toList.isPrefixOf request.path.toList

/-! ## The application -/

inductive HitResult
  | allowed
  | exceeded
  /-- The storage raised. -/
  | raised

/-- `flask_limiter`: whether requests for an endpoint are checked, which they are for every view
that is not marked as exempt, and what a hit does to the storage. -/
structure RateLimiter (σ : Type) where
  checks : Option Endpoint → Bool
  checks_view : ∀ e, e ≠ .static → checks (some e) = true
  hit : σ → String → HitResult × σ

/-- The views with `@limiter.exempt`. -/
def limiterExempt : List (Option Endpoint) :=
  [some .favicon, some .health, some .live, some .ready, some .metrics, some .instanceStats]

/-- The endpoints that `_db_connect` skips. -/
def dbConnectSkips : List (Option Endpoint) :=
  [some .index, some .health, some .metrics, some .instanceStats, some .live, some .ready]

inductive ConnectResult
  | connected
  /-- `OperationalError`, with its text. -/
  | operationalError (detail : String)
  /-- Any other exception. -/
  | raised

/-- What is fixed when the application is created: the limiter, `LOAD_TEST_BYPASS_TOKEN`, the bans,
whether `SKIP_PG_SEQUENCE_SYNC` is set, and how the clock is written. -/
structure FlaskApp (σ : Type) where
  limiter : RateLimiter σ
  bypassToken : Option String
  bans : IpBan
  skipSequenceSync : Bool
  clock : ClockText

/-- What a request can do to the outside before its view runs. -/
inductive Effect
  | rateLimitHit (key : String)
  | dbConnect
  | sequenceSync
  | activeUser (ip : String)
  deriving DecidableEq

/-- The storage of the limiter, the flag `_pg_serial_sequences_synced`, Redis, and what has been
done. -/
structure AppState (σ : Type) where
  limits : σ
  sequencesSynced : Bool
  bans : BanWorld
  users : ActivitySets
  done : List Effect

/-- A function that runs before a request: its answer, if it has one, or that of the handler of what
it raises. -/
abbrev Hook (σ : Type) := AppState σ → Option Response × AppState σ

/-- The run of a call on Redis, none of whose commands raises. -/
def BanWorld.call {α : Type} (w : BanWorld) : BanProg α → α × BanWorld
  | .ret a => (a, w)
  | .call q k => (banServe w q).2.call (k (.ok (banServe w q).1))

/-! ## The hooks -/

section Hooks

variable {σ : Type} (app : FlaskApp σ) (request : HttpRequest)

def AppState.record (s : AppState σ) (e : Effect) : AppState σ := { s with done := s.done ++ [e] }

/-- `_default_limits_exempt_when`. -/
def defaultLimitsExemptWhen : Bool :=
  if request.method = "OPTIONS" then true else isLoadTestBypassRequest app.bypassToken request

/-- Whether the check counts the request. -/
def countsRequest : Bool :=
  app.limiter.checks request.endpoint && !decide (request.endpoint ∈ limiterExempt) &&
    !defaultLimitsExemptWhen app request

/-- `_rate_limited`, less its header. -/
def rateLimited (s : AppState σ) : Response × AppState σ :=
  let error : String × Json := ("error", .str "Rate limit exceeded.")
  if isLoadTestBypassRequest app.bypassToken request then (jsonResponse 429 (.obj [error]), s)
  else
    let (result, bans) := s.bans.call (recordViolation app.bans request.remoteAddr)
    let s := { s with bans }
    match result.action with
    | .warning =>
      (jsonResponse 429 (.obj [error,
        ("warning",
          .str "This is your first rate limit violation. Continued abuse will result in a ban."),
        ("strikes", .int result.strikes)]), s)
    | .hourBan =>
      (jsonResponse 429 (.obj [error,
        ("message", .str ("You have been banned for 1 hour (ban #" ++ toString result.hourBans ++
          " of " ++
          toString maxHourBans ++
          "). Further abuse after this ban expires will result in escalating penalties.")),
        ("ban_type", .str "temporary"),
          ("ban_remaining_s", (result.banRemaining.map Json.int).getD .null)]), s)
    | .permanentBan =>
      (jsonResponse 429 (.obj [error,
        ("message", .str ("You have been permanently banned due to repeated rate limit abuse. " ++
          "Contact an administrator to request removal.")),
        ("ban_type", .str "permanent")]), s)
    | _ => (jsonResponse 429 (.obj [error]), s)

/-- The check that `Limiter(app=app)` registers. -/
def checkRequestLimit : Hook σ := fun s =>
  if countsRequest app request then
    let (result, limits) := app.limiter.hit s.limits request.remoteAddr
    let s := { s with limits }.record (.rateLimitHit request.remoteAddr)
    match result with
    | .allowed => (none, s)
    | .exceeded =>
      let (response, s) := rateLimited app request s
      (some response, s)
    | .raised => (some serverError, s)
  else (none, s)

/-- `_database_unavailable`. -/
def databaseUnavailable (detail : String) : Response :=
  jsonResponse 503 (.obj [("error", .str "Database not reachable"), ("detail", .str detail),
    ("hint", .str "Start Postgres first. From the repo root: docker compose up db")])

/-- `_db_connect`, where `connect` is what `db.connect` does. -/
def dbConnect (connect : ConnectResult) : Hook σ := fun s =>
  if request.endpoint ∈ dbConnectSkips then (none, s)
  else
    let s := s.record .dbConnect
    match connect with
    | .connected =>
      if s.sequencesSynced then (none, s)
      else
        let s := if app.skipSequenceSync then s else s.record .sequenceSync
        (none, { s with sequencesSynced := true })
    | .operationalError detail => (some (databaseUnavailable detail), s)
    | .raised => (some serverError, s)

/-- `is_banned`, with the dictionary it returns. -/
def isBannedInfo (bans : IpBan) (ip : String) : BanProg (Bool × IpStatus) :=
  if !bans.enabled then .ret (false, .unknown)
  else do
    let status ← getIpStatus bans ip
    return (status.banned, status)

/-- The answer to a banned client. -/
def banAnswer (info : IpStatus) : Response :=
  let error : String × Json :=
    ("error", .str "Your IP has been banned due to repeated rate limit abuse.")
  if info.permanent then
    jsonResponse 403 (.obj [error, ("ban_type", .str "permanent"),
      ("message", .str "This is a permanent ban. Contact an administrator to request removal.")])
  else
    let remaining := info.banRemaining.getD 0
    let minutes := (remaining + 59) / 60
    jsonResponse 403 (.obj [error, ("ban_type", .str "temporary"),
      ("ban_remaining_s", .int remaining),
      ("message", .str ("You are temporarily banned. Try again in " ++ toString minutes ++
        " minute(s)."))])

/-- `_check_ip_ban`. -/
def checkIpBan : Hook σ := fun s =>
  if request.exemptPath then (none, s)
  else if isLoadTestBypassRequest app.bypassToken request then (none, s)
  else
    let (banned, bans) := s.bans.call (isBannedInfo app.bans request.remoteAddr)
    let s := { s with bans }
    if banned.1 then (some (banAnswer banned.2), s) else (none, s)

/-- `_track_active_user`, at `now`. -/
def trackActiveUser (now : Rat) : Hook σ := fun s =>
  (none, { s with users := recordRequest app.clock request.remoteAddr now s.users }.record
    (.activeUser request.remoteAddr))

/-- Functions run in their order, until one answers. -/
def preprocess : List (Hook σ) → Hook σ
  | [], s => (none, s)
  | hook :: hooks, s =>
    match hook s with
    | (some response, s) => (some response, s)
    | (none, s) => preprocess hooks s

/-- The functions in the order in which `create_app` registers them. -/
def beforeRequest (connect : ConnectResult) (now : Rat) : List (Hook σ) :=
  [checkRequestLimit app request, dbConnect app request connect, checkIpBan app request,
    trackActiveUser app request now]

end Hooks

/-! ## A banned client -/

section Banned

variable {σ : Type} {app : FlaskApp σ} {request : HttpRequest} {connect : ConnectResult} {now : Rat}
  {s : AppState σ}

/-- The client is answered that it is banned, and nothing is done for the request. -/
def BlockedFirst (app : FlaskApp σ) (request : HttpRequest) (connect : ConnectResult) (now : Rat)
    (s : AppState σ) :
    Prop :=
  ∃ info s', preprocess (beforeRequest app request connect now) s = (some (banAnswer info), s') ∧
    s'.done = s.done

/-- `is_banned` reports the client as banned. -/
def ReportedBanned (app : FlaskApp σ) (request : HttpRequest) (s : AppState σ) : Prop :=
  ((banServer Unit).eval () .answers (isBanned app.bans request.remoteAddr) s.bans).map
    (·.1) = some true

theorem eval_eq_call {α : Type} (p : BanProg α) (w : BanWorld) :
    (banServer Unit).eval () .answers p w = some (w.call p) := by
  induction p generalizing w with
  | ret a => rfl
  | call q k ih => exact ih _ _

theorem call_bind {α β : Type} (p : BanProg α) (f : α → BanProg β) (w : BanWorld) :
    w.call (p >>= f) = (w.call p).2.call (f (w.call p).1) := by
  induction p generalizing w with
  | ret a => rfl
  | call q k ih => exact ih _ _

/-- The flag of `is_banned` is the first part of its answer. -/
theorem call_isBannedInfo (bans : IpBan) (ip : String) (w : BanWorld) :
    (w.call (isBannedInfo bans ip)).1.1 = (w.call (isBanned bans ip)).1 := by
  unfold isBannedInfo isBanned
  split
  · rfl
  · rw [call_bind, call_bind]
    rfl

/-- The check for a ban turns the client away. -/
theorem checkIpBan_banned (h : ReportedBanned app request s) (hpath : request.exemptPath = false)
    (hbypass : isLoadTestBypassRequest app.bypassToken request = false) :
    ∃ info s', checkIpBan app request s = (some (banAnswer info), s') ∧ s'.done = s.done := by
  unfold ReportedBanned at h
  rw [eval_eq_call, Option.map_some, Option.some.injEq, ← call_isBannedInfo] at h
  unfold checkIpBan
  rw [hpath, hbypass]
  generalize s.bans.call (isBannedInfo app.bans request.remoteAddr) = r at h
  obtain ⟨⟨banned, info⟩, bans⟩ := r
  cases h
  exact ⟨info, { s with bans }, rfl, rfl⟩

theorem rateLimited_done (app : FlaskApp σ) (request : HttpRequest) (s : AppState σ) :
    (rateLimited app request s).2.done = s.done := by
  unfold rateLimited
  dsimp only
  split
  · rfl
  · split <;> rfl

/-- A request that is counted leaves a hit. -/
theorem checkRequestLimit_done (app : FlaskApp σ) (request : HttpRequest) (s : AppState σ) :
    (checkRequestLimit app request s).2.done =
      if countsRequest app request then s.done ++ [.rateLimitHit request.remoteAddr]
        else s.done := by
  unfold checkRequestLimit
  dsimp only
  split
  · split
    · rfl
    · exact rateLimited_done app request _
    · rfl
  · rfl

/-- A connection that is not skipped is tried. -/
theorem dbConnect_done (app : FlaskApp σ) (request : HttpRequest) (connect : ConnectResult)
    (s : AppState σ) :
    if request.endpoint ∈ dbConnectSkips then (dbConnect app request connect s).2.done = s.done
    else s.done ++ [.dbConnect] <+: (dbConnect app request connect s).2.done := by
  unfold dbConnect
  dsimp only
  by_cases hskip : request.endpoint ∈ dbConnectSkips
  · rw [if_pos hskip, if_pos hskip]
  · rw [if_neg hskip, if_neg hskip]
    split
    · split
      · exact List.prefix_refl _
      · dsimp only
        split
        · exact List.prefix_refl _
        · exact List.prefix_append _ _
    · exact List.prefix_refl _
    · exact List.prefix_refl _

theorem checkIpBan_done (app : FlaskApp σ) (request : HttpRequest) (s : AppState σ) :
    (checkIpBan app request s).2.done = s.done := by
  unfold checkIpBan
  dsimp only
  split
  · rfl
  · split
    · rfl
    · split <;> rfl

/-- No function takes back what has been done. -/
theorem beforeRequest_mono :
    ∀ hook ∈ beforeRequest app request connect now, ∀ s, s.done <+: (hook s).2.done := by
  intro hook hhook s
  simp only [beforeRequest, List.mem_cons, List.not_mem_nil, or_false] at hhook
  rcases hhook with rfl | rfl | rfl | rfl
  · rw [checkRequestLimit_done]
    split
    · exact List.prefix_append _ _
    · exact List.prefix_refl _
  · have hdone := dbConnect_done app request connect s
    split at hdone
    · rw [hdone]
    · exact (List.prefix_append _ _).trans hdone
  · rw [checkIpBan_done]
  · exact List.prefix_append _ _

/-- Nothing that the first function does is taken back by those after it. -/
theorem preprocess_done {hook : Hook σ} {hooks : List (Hook σ)}
    (h : ∀ hook ∈ hooks, ∀ s, s.done <+: (hook s).2.done) (s : AppState σ) :
    (hook s).2.done <+: (preprocess (hook :: hooks) s).2.done := by
  induction hooks generalizing hook s with
  | nil =>
    unfold preprocess
    rcases hook s with ⟨_ | response, s'⟩
    · exact List.prefix_refl _
    · exact List.prefix_refl _
  | cons hook' hooks ih =>
    obtain ⟨hhook, hhooks⟩ := List.forall_mem_cons.1 h
    unfold preprocess
    rcases hook s with ⟨_ | response, s'⟩
    · exact (hhook s').trans (ih hhooks s')
    · exact List.prefix_refl _

/-- A function that does not answer leaves the request to those after it. -/
theorem preprocess_none {hook : Hook σ} {hooks : List (Hook σ)} {s s' : AppState σ}
    (h : hook s = (none, s')) :
    preprocess (hook :: hooks) s = preprocess hooks s' := by
  rw [preprocess, h]

theorem checkRequestLimit_exempt (h : countsRequest app request = false) :
    checkRequestLimit app request s = (none, s) := by
  rw [checkRequestLimit, h]
  rfl

/-- The requests that the limiter does not count, among those that `_db_connect` skips. -/
theorem countsRequest_of_skips (hbypass : isLoadTestBypassRequest app.bypassToken request = false)
    (hskip : request.endpoint ∈ dbConnectSkips) :
    countsRequest app request = false ↔
      request.endpoint = some .index → request.method = "OPTIONS" := by
  unfold countsRequest defaultLimitsExemptWhen
  rw [hbypass]
  by_cases hindex : request.endpoint = some .index
  · rw [hindex, app.limiter.checks_view .index (by decide)]
    by_cases hmethod : request.method = "OPTIONS"
    · simp [hmethod]
    · simp [hmethod, limiterExempt]
  · have hexempt : request.endpoint ∈ limiterExempt := by
      simp only [dbConnectSkips, List.mem_cons, List.not_mem_nil, or_false] at hskip
      rcases hskip with h | h | h | h | h | h
      · exact absurd h hindex
      all_goals simp [h, limiterExempt]
    simp [hexempt, hindex]

/-- **A banned client is turned away before anything else** if and only if `_db_connect` skips the
view, and the limiter does not count the request: the view is not the index, or the method is
`OPTIONS`. -/
theorem banned_blocked_iff (app : FlaskApp σ) (request : HttpRequest) (connect : ConnectResult)
    (now : Rat) (s : AppState σ) (hbanned : ReportedBanned app request s)
    (hpath : request.exemptPath = false)
    (hbypass : isLoadTestBypassRequest app.bypassToken request = false) :
    BlockedFirst app request connect now s ↔
      request.endpoint ∈ dbConnectSkips ∧
        (request.endpoint = some .index → request.method = "OPTIONS") := by
  have hmono := @beforeRequest_mono σ app request connect now
  have hrest :
      ∀ hook ∈ [dbConnect app request connect, checkIpBan app request,
        trackActiveUser app request now],
      ∀ s, s.done <+: (hook s).2.done := fun hook hhook => hmono hook (List.mem_cons_of_mem _ hhook)
  constructor
  · rintro ⟨info, s', hrun, hdone⟩
    have hfirst : (checkRequestLimit app request s).2.done <+: s'.done := by
      have := @preprocess_done σ (checkRequestLimit app request) _ hrest s
      rwa [← beforeRequest, hrun] at this
    have hcounts : countsRequest app request = false := by
      by_contra hcounts
      rw [Bool.not_eq_false] at hcounts
      rw [checkRequestLimit_done, if_pos hcounts, hdone] at hfirst
      have hlen := hfirst.length_le
      rw [List.length_append, List.length_singleton] at hlen
      omega
    have hskip : request.endpoint ∈ dbConnectSkips := by
      by_contra hskip
      have hsecond := dbConnect_done app request connect s
      rw [if_neg hskip] at hsecond
      have := hsecond.trans (preprocess_done
        (fun hook hhook => hrest hook (List.mem_cons_of_mem _ hhook)) s)
      rw [← preprocess_none (checkRequestLimit_exempt hcounts), ← beforeRequest, hrun, hdone]
        at this
      have hlen := this.length_le
      rw [List.length_append, List.length_singleton] at hlen
      omega
    exact ⟨hskip, (countsRequest_of_skips hbypass hskip).1 hcounts⟩
  · rintro ⟨hskip, hindex⟩
    obtain ⟨info, s', hban, hdone⟩ := checkIpBan_banned hbanned hpath hbypass
    have hcounts := (countsRequest_of_skips hbypass hskip).2 hindex
    have hconnect : dbConnect app request connect s = (none, s) := by rw [dbConnect, if_pos hskip]
    refine ⟨info, s', ?_, hdone⟩
    rw [beforeRequest, preprocess_none (checkRequestLimit_exempt hcounts), preprocess_none hconnect,
      preprocess, hban]

end Banned

/-! ## An IP that is banned for good -/

/-- A limiter that answers every hit alike. -/
def RateLimiter.always (result : HitResult) : RateLimiter Unit where
  checks _ := true
  checks_view _ _ := rfl
  hit _ _ := (result, ())

def sampleFlaskApp (result : HitResult) : FlaskApp Unit :=
  ⟨.always result, none, .on, false, sampleClock⟩

def expelledState : AppState Unit := ⟨(), false, expelled, .empty, []⟩

/-- A request of the IP. -/
def expelledRequest (path : String) (endpoint : Endpoint) : HttpRequest :=
  ⟨path, "GET", some endpoint, none, "1.2.3.4"⟩

theorem expelled_reported (result : HitResult) (path : String) (endpoint : Endpoint) :
    ReportedBanned (sampleFlaskApp result) (expelledRequest path endpoint) expelledState := by
  change ((banServer Unit).eval () .answers (isBanned .on "1.2.3.4") expelled).map (·.1) = some true
  decide +kernel

theorem banned_blocked_sample :
    BlockedFirst (sampleFlaskApp .exceeded) (expelledRequest "/api/instance-stats" .instanceStats)
      .connected 0 expelledState ↔
    (expelledRequest "/api/instance-stats" .instanceStats).endpoint ∈ dbConnectSkips ∧
      ((expelledRequest "/api/instance-stats" .instanceStats).endpoint = some .index →
        (expelledRequest "/api/instance-stats" .instanceStats).method = "OPTIONS") :=
  banned_blocked_iff _ _ _ _ _ (expelled_reported _ _ _) (by decide) (by decide)

/-- A redirect that a banned client asks for is counted by the limiter, and connects to the
database: it is answered 429 where the limit is exceeded, and 503 where the database cannot be
reached. -/
theorem banned_client_processed :
    ¬ BlockedFirst (sampleFlaskApp .allowed) (expelledRequest "/abc" (.view "urls.redirect_short"))
      .connected 0 expelledState ∧
    (preprocess (beforeRequest (sampleFlaskApp .allowed)
      (expelledRequest "/abc" (.view "urls.redirect_short")) .connected 0)
      expelledState).2.done = [.rateLimitHit "1.2.3.4", .dbConnect, .sequenceSync] ∧
    (preprocess (beforeRequest (sampleFlaskApp .exceeded)
      (expelledRequest "/abc" (.view "urls.redirect_short")) .connected 0)
      expelledState).1.map (·.status) = some 429 ∧
    (preprocess (beforeRequest (sampleFlaskApp .allowed)
      (expelledRequest "/abc" (.view "urls.redirect_short"))
      (.operationalError "refused") 0) expelledState).1.map (·.status) = some 503 := by
  have hdone :
      (preprocess (beforeRequest (sampleFlaskApp .allowed)
        (expelledRequest "/abc" (.view "urls.redirect_short"))
      .connected 0) expelledState).2.done = [.rateLimitHit "1.2.3.4", .dbConnect,
        .sequenceSync] := by
    decide +kernel
  refine ⟨?_, hdone, by decide +kernel, by decide +kernel⟩
  rintro ⟨info, s', hrun, hs'⟩
  rw [hrun, hs'] at hdone
  cases hdone

end PeHackathon.UrlShortener
