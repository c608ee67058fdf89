import Mathlib.Algebra.Order.Ring.Rat
import Mathlib.Data.Rat.Defs
import PeHackathon.Lib.ScoredSet
import PeHackathon.Python.Float
import PeHackathon.Python.JsonText
import PeHackathon.UrlShortener.Routes.Urls

/-!
# The dynamic rate limit

`app/dynamic_rate_limit.py`, and the route of `app/routes/admin.py` that stores its configuration. A
reading of the clock is a rational number of seconds; how `str` writes one is a `ClockText`.
-/

namespace PeHackathon.UrlShortener

open Lib

/-! ## The configuration -/

/-- A tier as the code writes it. -/
def tierJson (maxUsers rateLimit : Int) : Json :=
  .obj [("max_users", .int maxUsers), ("rate_limit", .int rateLimit)]

/-- `DEFAULT_TIERS`: default tier thresholds and limits. -/
def defaultTiers : Json :=
  .arr [tierJson 50 5000, tierJson 200 2000, tierJson 500 500, tierJson 999999 200]

def defaultConfig : JsonObject := [("enabled", .bool true), ("tiers", defaultTiers)]

/-- Whether there is a Redis client, and the text under `dynamic_rl:config`. -/
structure ConfigStore where
  client : Bool
  config : Option String

/-- `get_config`, when its `GET` raises (`fails`) or not. -/
def getConfig (store : ConfigStore) (fails : Bool) : Json :=
  if !store.client || fails then .obj defaultConfig
  else
    match store.config with
    | none => .obj defaultConfig
    | some data =>
      if data = "" then .obj defaultConfig else (jsonLoads data).getD (.obj defaultConfig)

/-- `set_config`, when its `SET` raises (`fails`) or not. -/
def setConfig (store : ConfigStore) (fails : Bool) (config : Json) : Bool × ConfigStore :=
  if !store.client then (false, store)
  else
    match config.dumps with
    | none => (false, store)
    | some data => if fails then (false, store) else (true, { store with config := some data })

/-! ## PUT /admin/rate-limit/config -/

/-- The check of every tier. -/
def checkTiers : List Json → Except Response Unit
  | [] => .ok ()
  | t :: rest =>
    match pyContains t "max_users" with
    | none => .error serverError
    | some false => .error (errorResponse 400 "Each tier must have max_users and rate_limit")
    | some true =>
      match pyContains t "rate_limit" with
      | none => .error serverError
      | some false => .error (errorResponse 400 "Each tier must have max_users and rate_limit")
      | some true => checkTiers rest

/-- The `enabled` of the body. -/
def enabledUpdate (data : Json) : Except Response JsonObject :=
  match pyContains data "enabled" with
  | none => .error serverError
  | some false => .ok []
  | some true =>
    match pyItem data "enabled" with
    | none => .error serverError
    | some x => .ok [("enabled", .bool (pyTruthy x))]

/-- The `tiers` of the body. -/
def tiersUpdate (data : Json) : Except Response JsonObject :=
  match pyContains data "tiers" with
  | none => .error serverError
  | some false => .ok []
  | some true =>
    match pyItem data "tiers" with
    | none => .error serverError
    | some (.arr tiers) =>
      if tiers.length = 0 then .error (errorResponse 400 "tiers must be a non-empty list")
      else (checkTiers tiers).map fun _ => [("tiers", .arr tiers)]
    | some _ => .error (errorResponse 400 "tiers must be a non-empty list")

/-- Which Redis commands of a request raise. -/
structure ConfigFaults where
  get : Bool
  set : Bool

/-- `update_rate_limit_config`. A body that is not JSON is answered by the handler of all
exceptions. -/
def updateRateLimitConfig (store : ConfigStore) (faults : ConfigFaults) :
    Body → Response × ConfigStore
  | .notJson => (serverError, store)
  | .malformed =>
    (jsonResponse 400 (.obj [("error", .str "Bad request"),
      ("detail",
        .str "The browser (or proxy) sent a request that this server could not understand.")]),
        store)
  | .json data =>
    if !pyTruthy data then (errorResponse 400 "No data provided", store)
    else
      match enabledUpdate data, tiersUpdate data with
      | .error err, _ => (err, store)
      | .ok _, .error err => (err, store)
      | .ok enabled, .ok tiers =>
        -- Merge with existing config
        match getConfig store faults.get with
        | .obj current =>
          let current := JsonObject.update current (enabled ++ tiers)
          match setConfig store faults.set (.obj current) with
          | (true, store) =>
            (jsonResponse 200 (.obj [("message", .str "Rate limit config updated"),
              ("config", .obj current)]), store)
          | (false, store) =>
            (errorResponse 500 "Failed to update config — Redis may be unavailable", store)
        | _ => (serverError, store)

/-! ## Active users -/

def ACTIVE_WINDOW_SECONDS : Rat := 60

def REQUESTS_PER_USER : Nat := 100

/-- How a reading of the clock is written: `float(str(t)) == t`, and there is no colon in the
text. -/
structure ClockText where
  str : Rat → String
  injective : ∀ s t, str s = str t → s = t
  noColon : ∀ t, ':' ∉ (str t).toList

/-- The two sorted sets, each member with its score. -/
structure ActivitySets where
  activeUsers : Dict String Rat
  requestLog : Dict String Rat

def ActivitySets.empty : ActivitySets := ⟨.empty, .empty⟩

/-- The member of `request_log` for a request. -/
def ClockText.logMember (clock : ClockText) (ip : String) (now : Rat) : String :=
  ip ++ ":" ++ clock.str now

/-- `record_request` at `now`. -/
def recordRequest (clock : ClockText) (ip : String) (now : Rat) (sets : ActivitySets) :
    ActivitySets where
  activeUsers := sets.activeUsers.set ip now
  requestLog := sets.requestLog.set (clock.logMember ip now) now

/-- What `get_active_user_count` answers. -/
structure ActiveUsers where
  uniqueIps : Nat
  requestVolume : Nat
  estimatedFromVolume : Nat
  effectiveUsers : Nat
  deriving DecidableEq

/-- `r.zremrangebyscore(key, "-inf", cutoff)`. -/
def zremrangebyscore (set : Dict String Rat) (cutoff : Rat) : Dict String Rat :=
  set.pruneUpTo cutoff

/-- `get_active_user_count` at `now`. -/
def getActiveUserCount (now : Rat) (sets : ActivitySets) : ActiveUsers × ActivitySets :=
  let cutoff := now - ACTIVE_WINDOW_SECONDS
  -- Prune expired entries from both sets
  let sets : ActivitySets :=
    ⟨zremrangebyscore sets.activeUsers cutoff, zremrangebyscore sets.requestLog cutoff⟩
  let uniqueIps := sets.activeUsers.keys.length
  let requestVolume := sets.requestLog.keys.length
  let estimatedFromVolume := requestVolume / REQUESTS_PER_USER
  ({ uniqueIps, requestVolume, estimatedFromVolume,
     effectiveUsers := max uniqueIps estimatedFromVolume }, sets)

/-! ## The current limit -/

/-- `i <= f` in Python, which compares exactly. -/
def pyIntLeFloat (i : Int) (f : Float) : Bool :=
  let bits := f.toBits.toNat
  let negative := decide (2 ^ 63 ≤ bits)
  let bits := bits % 2 ^ 63
  if f.isNaN then false
  else if bits / 2 ^ 52 = 2047 then !negative
  else
    let parts := FloatParts.ofBits bits
    let num : Int := (if negative then -1 else 1) * (parts.mant * 2 ^ parts.exp.toNat : Nat)
    decide (i * (2 ^ (-parts.exp).toNat : Nat) ≤ num)

/-- `i <= x`; `none` if it raises. -/
def pyIntLe (i : Int) : Json → Option Bool
  | .int j => some (decide (i ≤ j))
  | .bool b => some (decide (i ≤ if b then 1 else 0))
  | .float f => some (pyIntLeFloat i f)
  | _ => none

/-- What `for x in x` goes through; `none` if it raises. -/
def pyIter : Json → Option (List Json)
  | .arr l => some l
  | .obj fields => some (fields.map fun kv => .str kv.1)
  | .str s => some (s.toList.map fun c => .str (String.ofList [c]))
  | _ => none

/-- What `get_current_rate_limit` answers. -/
structure RateLimitInfo where
  rateLimit : Json
  activeUsers : Nat
  uniqueIps : Nat
  requestVolume : Nat
  tierIndex : Int
  enabled : Bool

/-- The tier of a number of users among `tiers`, and its index from `i` on: the first whose
`max_users` is not below, or the last; `none` if the code raises. -/
def selectTier (activeUsers : Nat) : Nat → List Json → Option (Json × Int)
  | _, [] => none
  | i, tier :: rest =>
    match tier with
    | .obj fields =>
      match pyIntLe activeUsers ((JsonObject.get? fields "max_users").getD (.int 999999)) with
      | none => none
      | some true => (JsonObject.get? fields "rate_limit").map fun limit => (limit, (i : Int))
      | some false =>
        -- Fallback to most restrictive
        if rest.isEmpty then (JsonObject.get? fields "rate_limit").map fun limit =>
          (limit, (i : Int))
        else selectTier activeUsers (i + 1) rest
    | _ => none

/-- `get_current_rate_limit` for a configuration and a count of the users, where `rateLimitDefault`
is the environment variable `RATE_LIMIT_DEFAULT`; `none` if it raises. -/
def getCurrentRateLimit (rateLimitDefault : String) (config : Json) (userInfo : ActiveUsers) :
    Option RateLimitInfo :=
  match config with
  | .obj config =>
    if !pyTruthy ((JsonObject.get? config "enabled").getD (.bool true)) then
      match (pyFirstWord rateLimitDefault).map pyIntOfStr with
      | some (.ok base) =>
        some { rateLimit := .int base, activeUsers := userInfo.effectiveUsers,
               uniqueIps := userInfo.uniqueIps, requestVolume :=
                 userInfo.requestVolume, tierIndex := -1, enabled := false }
      | _ => none
    else
      match pyIter ((JsonObject.get? config "tiers").getD defaultTiers) with
      | none => none
      | some [] =>
        some { rateLimit := .int 200, activeUsers := userInfo.effectiveUsers,
               uniqueIps := userInfo.uniqueIps, requestVolume :=
                 userInfo.requestVolume, tierIndex := -1, enabled := true }
      | some (tier :: rest) =>
        (selectTier userInfo.effectiveUsers 0 (tier :: rest)).map fun selected =>
          { rateLimit := selected.1, activeUsers := userInfo.effectiveUsers,
            uniqueIps := userInfo.uniqueIps, requestVolume := userInfo.requestVolume, tierIndex :=
              selected.2, enabled := true }
  | _ => none

end PeHackathon.UrlShortener
