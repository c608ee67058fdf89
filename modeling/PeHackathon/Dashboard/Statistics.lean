import PeHackathon.Dashboard.LogCache
import PeHackathon.Lib.Counter
import PeHackathon.Lib.Except
import PeHackathon.Python.Float

/-!
# The rolling statistics

`cache.py` again, now with `_update_stats`, which `add` calls last. The update converts the fields
of an entry one after the other and counts in between, so an exception leaves behind what was
counted so far. What arrives over Kafka need not be a `dict`.

What a complete update counts is said apart, by `InstanceStats.recorded`: `add` is atomic exactly if
every field it reads can be converted.
-/

namespace PeHackathon.Dashboard

open Lib

/-! ## The update -/

/-- Rolling aggregates for a single app instance. -/
structure InstanceStats where
  requestCount : Nat
  /-- 4xx + 5xx -/
  errorCount : Nat
  totalDurationMs : Float
  statusCodes : Dict String Nat
  levels : Dict HashKey Nat
  firstSeen : Int
  lastSeen : Int

namespace InstanceStats

def new (now : Int) : InstanceStats where
  requestCount := 0
  errorCount := 0
  totalDurationMs := 0
  statusCodes := .empty
  levels := .empty
  firstSeen := now
  lastSeen := now

/-- What follows when the status code has been read: the statistics, and what was raised. -/
def updateDuration (fields : JsonObject) (stats : InstanceStats) : InstanceStats × Option PyError :=
  match fields.get? "duration_ms" with
  | none => (stats, none)
  | some value =>
    match pyFloat value with
    | .error e => (stats, some e)
    | .ok ms => ({ stats with totalDurationMs := stats.totalDurationMs + ms }, none)

/-- Only count as a request if it has HTTP fields. -/
def updateRequest (fields : JsonObject) (stats : InstanceStats) : InstanceStats × Option PyError :=
  match fields.get? "status_code" with
  | none => (stats, none)
  | some value =>
    let stats := { stats with requestCount := stats.requestCount + 1 }
    match pyInt value with
    | .error e => (stats, some e)
    | .ok code =>
      updateDuration fields
        { stats with
          statusCodes := stats.statusCodes.bump (toString code)
          errorCount := if 400 ≤ code then stats.errorCount + 1 else stats.errorCount }

/-- `entry.get("level", "UNKNOWN")`. -/
def levelOf (fields : JsonObject) : Json := (fields.get? "level").getD (.str "UNKNOWN")

/-- The part of `_update_stats` after `stats = self._stats[instance_id]`. -/
def update (now : Int) (fields : JsonObject) (stats : InstanceStats) :
    InstanceStats × Option PyError :=
  let stats := { stats with lastSeen := now }
  match (levelOf fields).hashKey with
  | .error e => (stats, some e)
  | .ok level => updateRequest fields { stats with levels := stats.levels.bump level }

end InstanceStats

/-- `LogCache` with its statistics. -/
structure StatsCache where
  maxEntries : Nat
  logs : List Json
  stats : Dict String InstanceStats
  totalIngested : Nat
  pendingFlush : List Json

namespace StatsCache

def new (maxEntries : Nat) : StatsCache where
  maxEntries := maxEntries
  logs := []
  stats := .empty
  totalIngested := 0
  pendingFlush := []

/-- `_update_stats`. -/
def updateStats (now : Int) (entry : Json) (cache : StatsCache) : StatsCache × Option PyError :=
  match entry with
  | .obj fields =>
    let stats := (cache.stats.get (instanceIdText fields)).getD (.new now)
    let (stats, raised) := stats.update now fields
    ({ cache with stats := cache.stats.set (instanceIdText fields) stats }, raised)
  | _ => (cache, some .attributeError)

/-- The part of `add` before `_update_stats`. -/
def ingest (entry : Json) (cache : StatsCache) : StatsCache :=
  { cache with
    logs := dequeAppend cache.maxEntries cache.logs entry
    pendingFlush := cache.pendingFlush ++ [entry]
    totalIngested := cache.totalIngested + 1 }

/-- `add`: the cache after it, and what was raised. -/
def add (now : Int) (entry : Json) (cache : StatsCache) : StatsCache × Option PyError :=
  (cache.ingest entry).updateStats now entry

def clear (cache : StatsCache) : StatsCache :=
  { cache with logs := [], stats := .empty, pendingFlush := [], totalIngested := 0 }

end StatsCache

/-! ## What an entry says -/

/-- What `_update_stats` reads of an entry. A request has its status code, and maybe a duration. -/
structure Reading where
  level : HashKey
  request : Option (Int × Option Float)

/-- The fields of an entry, converted in the order of `_update_stats`. -/
def reading (fields : JsonObject) : Except PyError Reading := do
  let level ← (InstanceStats.levelOf fields).hashKey
  match fields.get? "status_code" with
  | none => return { level, request := none }
  | some value =>
    let code ← pyInt value
    match fields.get? "duration_ms" with
    | none => return { level, request := some (code, none) }
    | some value =>
      let ms ← pyFloat value
      return { level, request := some (code, some ms) }

/-- An entry all of whose fields can be converted: its level is hashable, `int` accepts its status
code, and then `float` accepts its duration. -/
def Readable (fields : JsonObject) : Prop := ∃ r, reading fields = .ok r

namespace InstanceStats

/-- What a complete update makes of the statistics. -/
def recorded (now : Int) (r : Reading) (stats : InstanceStats) : InstanceStats :=
  let stats := { stats with lastSeen := now, levels := stats.levels.bump r.level }
  match r.request with
  | none => stats
  | some (code, ms) =>
    { stats with
      requestCount := stats.requestCount + 1
      statusCodes := stats.statusCodes.bump (toString code)
      errorCount := if 400 ≤ code then stats.errorCount + 1 else stats.errorCount
      totalDurationMs := match ms with
        | none => stats.totalDurationMs
        | some ms => stats.totalDurationMs + ms }

/-- **The update is complete** if the entry can be read. -/
theorem update_of_reading {fields : JsonObject} {r : Reading} (h : reading fields = .ok r)
    (now : Int) (stats : InstanceStats) :
    stats.update now fields = (stats.recorded now r, none) := by
  unfold reading at h
  obtain ⟨level, hlevel, h⟩ := bind_ok.1 h
  unfold update updateRequest
  simp only [hlevel]
  cases hcode : fields.get? "status_code" with
  | none =>
    rw [hcode] at h
    cases h
    rfl
  | some value =>
    rw [hcode] at h
    obtain ⟨code, hint, h⟩ := bind_ok.1 h
    unfold updateDuration
    simp only [hint]
    cases hms : fields.get? "duration_ms" with
    | none =>
      rw [hms] at h
      cases h
      rfl
    | some value =>
      rw [hms] at h
      obtain ⟨ms, hfloat, h⟩ := bind_ok.1 h
      cases h
      simp only [hfloat]
      rfl

/-- An update that raises nothing read the entry. -/
theorem reading_of_update {now : Int} {fields : JsonObject} {stats : InstanceStats}
    (h : (stats.update now fields).2 = none) : Readable fields := by
  unfold Readable reading
  unfold update updateRequest updateDuration at h
  cases hlevel : (levelOf fields).hashKey with
  | error e => simp [hlevel] at h
  | ok level =>
    cases hcode : fields.get? "status_code" with
    | none => exact ⟨_, rfl⟩
    | some value =>
      cases hint : pyInt value with
      | error e => simp [hlevel, hcode, hint] at h
      | ok code =>
        cases hms : fields.get? "duration_ms" with
        | none => exact ⟨{ level, request := some (code, none) }, by simp only [hint]; rfl⟩
        | some value =>
          cases hfloat : pyFloat value with
          | error e => simp [hlevel, hcode, hint, hms, hfloat] at h
          | ok ms =>
            exact ⟨{ level, request := some (code, some ms) }, by simp only [hint, hfloat]; rfl⟩

end InstanceStats

namespace StatsCache

variable {now : Int} {fields : JsonObject} {cache : StatsCache}

/-- The statistics `add` continues for an entry. -/
def statsFor (now : Int) (fields : JsonObject) (cache : StatsCache) : InstanceStats :=
  (cache.stats.get (instanceIdText fields)).getD (.new now)

/-- `add` applied completely. -/
def applied (now : Int) (fields : JsonObject) (r : Reading) (cache : StatsCache) : StatsCache :=
  { cache.ingest (.obj fields) with
    stats := cache.stats.set (instanceIdText fields) ((cache.statsFor now fields).recorded now r) }

theorem add_obj : cache.add now (.obj fields) =
    ({ cache.ingest (.obj fields) with
        stats := cache.stats.set (instanceIdText fields)
          ((cache.statsFor now fields).update now fields).1 },
      ((cache.statsFor now fields).update now fields).2) := rfl

theorem add_of_reading {r : Reading} (h : reading fields = .ok r) (now : Int) (cache : StatsCache) :
    cache.add now (.obj fields) = (cache.applied now fields r, none) := by
  rw [add_obj, InstanceStats.update_of_reading h]
  rfl

/-- `add` raises exactly if the entry cannot be read. -/
theorem add_returns : (cache.add now (.obj fields)).2 = none ↔ Readable fields :=
  ⟨InstanceStats.reading_of_update, fun ⟨_, hr⟩ => congrArg Prod.snd (add_of_reading hr now cache)⟩

end StatsCache

end PeHackathon.Dashboard
