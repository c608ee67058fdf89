import PeHackathon.Dashboard.MergedLogs
import PeHackathon.Lib.Dict
import PeHackathon.Python.Datetime

/-!
# Minute buckets

`GET /api/errors` and `GET /api/logs/insights`: the requests of the last minutes, counted minute by
minute, from the table `kafka_logs` or, if that fails, from the ring in memory.

Times are in microseconds. The two clocks, `time.time()` and `NOW()`, read the same time. The rates
of a bucket and of the summary are left out: they are floats computed from the counts.
-/

namespace PeHackathon.Dashboard

open Lib

/-! ## The clock -/

def minuteUs : Int := 60000000

/-- The calendar minute of a time. -/
def minuteOf (t : Int) : Int := t / minuteUs

/-- `%H:%M`. -/
structure Clock where
  hour : Nat
  minute : Nat
  deriving DecidableEq, Repr

/-- What a clock shows in a minute. -/
def clockOf (m : Int) : Clock := ⟨(m / 60 % 24).toNat, (m % 60).toNat⟩

/-- `datetime.fromtimestamp(t, tz=timezone.utc).strftime("%H:%M")`. -/
def strftime (t : Int) : Except PyError Clock :=
  if InYears t then .ok (clockOf (minuteOf t)) else .error .valueError

/-- How `Postgres.timestamptz` gives the time `infinity`. -/
def pgInfinity : Int := 2 ^ 63 - 1 + 946684800000000

/-- `to_char(.., 'HH24:MI')` of a minute. Of `infinity` it is `NULL`. -/
def toChar (m : Int) : Option Clock := if m = minuteOf pgInfinity then none else some (clockOf m)

/-! ## Buckets -/

structure Bucket where
  minute : Option Clock
  timestamp : Int
  total : Nat
  errors : Nat
  statusBreakdown : Dict String Nat

def Bucket.empty (key : Clock) (timestamp : Int) : Bucket := ⟨some key, timestamp, 0, 0, .empty⟩

/-- Count a request. -/
def Bucket.count (b : Bucket) (code : Int) : Bucket :=
  if 400 ≤ code then
    { b with
      total := b.total + 1
      errors := b.errors + 1
      statusBreakdown := b.statusBreakdown.set (toString code)
        ((b.statusBreakdown.get (toString code)).getD 0 + 1) }
  else { b with total := b.total + 1 }

abbrev BucketMap := Dict (Option Clock) Bucket

/-- The moments `window_start + i * 60`. -/
def windowMoments (now : Int) (windowMinutes : Nat) : List Int :=
  (List.range (windowMinutes + 1)).map fun (i : Nat) => now - windowMinutes * minuteUs +
    i * minuteUs

/-- Give every moment an empty bucket: of two with one key, the later stays. -/
def setWindow (moments : List Int) (buckets : BucketMap) : Except PyError BucketMap :=
  moments.foldlM (fun buckets t => do
    let key ← strftime t
    return buckets.set (some key) (.empty key t)) buckets

/-- Fill in empty minute slots for the full window. -/
def fillWindow (moments : List Int) (buckets : BucketMap) : Except PyError BucketMap :=
  moments.foldlM (fun buckets t => do
    let key ← strftime t
    return buckets.fill (some key) (.empty key t)) buckets

/-- The answer of both endpoints. -/
structure BucketReport where
  buckets : List Bucket
  logs : List JsonObject
  totalErrors : Nat
  totalRequests : Nat
  peakErrors : Nat

def bucketReport (buckets : BucketMap) (logs : List JsonObject) : BucketReport :=
  let sortedBuckets := buckets.values.insertionSort fun a b => a.timestamp ≤ b.timestamp
  { buckets := sortedBuckets
    logs
    totalErrors := (sortedBuckets.map (·.errors)).sum
    totalRequests := (sortedBuckets.map (·.total)).sum
    peakErrors := (sortedBuckets.map (·.errors)).foldr max 0 }

/-! ## In memory -/

/-- By the text of the timestamp, newest first. -/
def byTimestamp (entries : List JsonObject) : List JsonObject :=
  entries.insertionSort fun a b => entryText b "timestamp" ≤ entryText a "timestamp"

section Memory

variable (fromIso : String → Option Int)

/-- The time of an entry that has one, and a status code. What is no text has no `replace`.
`fromIso s` is `datetime.fromisoformat(s.replace("Z", "+00:00")).timestamp()`, where `none` is a
`ValueError`. -/
def requestTime (entry : JsonObject) : Option Int :=
  if !pyTruthy (entry.getNone "timestamp") then none
  else
    match entry.getNone "status_code", entry.getNone "timestamp" with
    | .null, _ => none
    | _, .str s => fromIso s
    | _, _ => none

/-- One turn of the loop: the buckets, and the entries that are errors. -/
def countEntry (windowStart : Int) (state : BucketMap × List JsonObject) (entry : JsonObject) :
    Except PyError (BucketMap × List JsonObject) :=
  match requestTime fromIso entry with
  | none => .ok state
  | some ts =>
    if ts < windowStart then .ok state
    else do
      let key ← strftime ts
      match state.1.get (some key) with
      | none => .ok state
      | some bucket => do
        let code ← pyInt (entry.getNone "status_code")
        let buckets := state.1.set (some key) (bucket.count code)
        return (buckets, if 400 ≤ code then state.2 ++ [entry] else state.2)

/-- The buckets of the window and the entries counted as errors. -/
def countLogs (now : Int) (windowMinutes : Nat) (logs : List JsonObject) :
    Except PyError (BucketMap × List JsonObject) := do
  let buckets ← setWindow (windowMoments now windowMinutes) .empty
  logs.foldlM (countEntry fromIso (now - windowMinutes * minuteUs)) (buckets, [])

/-- `LogCache.get_error_buckets`: server-side per-minute error bucketing over the full cache. -/
def LogCache.getErrorBuckets (cache : LogCache) (now : Int) (windowMinutes logLimit : Nat) :
    Except PyError BucketReport := do
  let (buckets, errorLogs) ← countLogs fromIso now windowMinutes (cache.logs.map (·.fields))
  return bucketReport buckets ((byTimestamp errorLogs).take logLimit)

/-- `LogCache.get_log_insights`: filtered per-minute buckets and recent matching log entries. -/
def LogCache.getLogInsights (py : PyCase) (cache : LogCache) (now : Int)
    (windowMinutes logLimit : Nat) (f : LogFilters) : Except PyError BucketReport := do
  let filtered ← selectLogs py f cache.logs
  let entries := filtered.map (·.fields)
  let (buckets, _) ← countLogs fromIso now windowMinutes entries
  return bucketReport buckets ((byTimestamp entries).take logLimit)

end Memory

/-! ## In the database -/

/-- A row that is selected, by what the buckets are made of. -/
structure RequestRow where
  time : Int
  code : Int

/-- `timestamp` and `status_code`, where neither is `NULL`. -/
def requestRow (row : KafkaLog) : Option RequestRow := do
  let time ← row.timestamp
  let code ← row.statusCode
  return { time, code }

/-- The rows with a status code of which the conditions are true. -/
def requestRows (conditions : List SqlCondition) (table : List StoredLog) : List RequestRow :=
  (table.filter fun s => conditions.all fun condition => condition s.row == some true).filterMap
    fun s => requestRow s.row

/-- Those with `timestamp >= NOW() - '.. minutes'`. -/
def selectRows (windowStart : Int) (conditions : List SqlCondition) (table : List StoredLog) :
    List RequestRow :=
  (requestRows conditions table).filter fun r => windowStart ≤ r.time

section Rows

variable (rows : List RequestRow)

/-- The minutes the rows are grouped by, in order. -/
def rowMinutes : List Int := (rows.map fun r => minuteOf r.time).dedup.insertionSort (· ≤ ·)

/-- The bucket of a group. -/
def groupBucket (m : Int) : Bucket where
  minute := toChar m
  timestamp := m * minuteUs
  total := rows.countP fun r => minuteOf r.time = m
  errors := rows.countP fun r => minuteOf r.time = m ∧ 400 ≤ r.code
  statusBreakdown := .empty

/-- The groups of the errors, by minute and status code. -/
def errorGroups : List (Int × Int) :=
  ((rows.filter fun r => 400 ≤ r.code).map fun r => (minuteOf r.time, r.code)).dedup.insertionSort
    fun a b => a.1 ≤ b.1

/-- Put the count of a group in the breakdown of its bucket. -/
def addBreakdown (buckets : BucketMap) (group : Int × Int) : BucketMap :=
  match buckets.get (toChar group.1) with
  | none => buckets
  | some bucket =>
    buckets.set (toChar group.1)
      { bucket with
        statusBreakdown := bucket.statusBreakdown.set (toString group.2)
          (rows.countP fun r => minuteOf r.time = group.1 ∧ r.code = group.2) }

/-- `buckets_map`. -/
def queryBuckets : BucketMap :=
  (errorGroups rows).foldl (addBreakdown rows)
    (Dict.setAll toChar (groupBucket rows) .empty (rowMinutes rows))

end Rows

/-- `query_error_buckets`, where `none` is a query that failed. -/
def queryErrorBuckets (reachable : Bool) (table : List StoredLog) (now : Int)
    (windowMinutes logLimit : Nat) : Option (BucketMap × List JsonObject) :=
  if reachable then
    let windowStart := now - windowMinutes * minuteUs
    let errors := table.filter fun s =>
      s.row.timestamp.any (windowStart ≤ ·) && s.row.statusCode.any (400 ≤ ·)
    let errorLogs :=
      (errors.insertionSort fun a b => b.row.timestamp.getD 0 ≤ a.row.timestamp.getD 0)
    some (queryBuckets (selectRows windowStart [] table),
      (errorLogs.take logLimit).map fun s => s.row.rawJson)
  else none

/-- `query_log_insights`. -/
def queryLogInsights (pg : PgCase) (reachable : Bool) (table : List StoredLog) (now : Int)
    (windowMinutes : Nat) (f : LogFilters) : Option BucketMap :=
  if reachable then
    match sqlConditions pg f with
    | .error _ => none
    | .ok conditions =>
      some (queryBuckets (selectRows (now - windowMinutes * minuteUs) conditions table))
  else none

/-! ## The endpoints -/

section Endpoints

variable (fromIso : String → Option Int) (reachable : Bool) (cache : LogCache)
  (table : List StoredLog) (now : Int) (windowMinutes logLimit : Nat)

/-- `GET /api/errors`. -/
def getErrors : Except PyError BucketReport :=
  match queryErrorBuckets reachable table now windowMinutes logLimit with
  | some (bucketsMap, errorLogs) => do
    let buckets ← fillWindow (windowMoments now windowMinutes) bucketsMap
    return bucketReport buckets errorLogs
  | none => cache.getErrorBuckets fromIso now windowMinutes logLimit

/-- `GET /api/logs/insights`. -/
def getLogsInsights (py : PyCase) (pg : PgCase) (f : LogFilters) : Except PyError BucketReport :=
  match queryLogInsights pg reachable table now windowMinutes f with
  | some bucketsMap => do
    let buckets ← fillWindow (windowMoments now windowMinutes) bucketsMap
    let mem ← cache.getLogs py f (min 2000 cache.maxEntries)
    let dbLogs := fetchLogsFromDb pg f reachable table (min 2000 (max (logLimit * 3) 100))
    return bucketReport buckets (mergeLogs (mem.map (·.fields)) dbLogs logLimit)
  | none => cache.getLogInsights fromIso py now windowMinutes logLimit f

end Endpoints

end PeHackathon.Dashboard
