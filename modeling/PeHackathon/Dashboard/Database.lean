import PeHackathon.Postgres.Text
import PeHackathon.Python.Repr

/-!
# The table of the logs

`db.py`: the columns of `kafka_logs`, what psycopg2 and PostgreSQL make of an entry that arrived as
JSON, and the transactions of `flush_logs` and `clear_logs`. A transaction stores all its rows or
none. The index `id` and the indexes are left out, since nothing reads them, and so are the
snapshots of the statistics (`instance_stats_snapshots`), which no claim about the logs depends on.
-/

namespace PeHackathon.Dashboard

/-- A log entry: a `dict`, and the reference to it. -/
structure LogEntry where
  ref : Nat
  fields : JsonObject

/-- What PostgreSQL reads and writes, where that takes more than a few lines to say. A text that is
not accepted is `none`. -/
structure Postgres where
  /-- Microseconds since 1970 of a `TIMESTAMPTZ` text; the infinite ones are the ends of the
  range. -/
  timestamptz : String → Option Int
  /-- The `INTEGER` of a text. -/
  integer : String → Option Int
  /-- The `INTEGER` a float rounds to. -/
  integerOfFloat : Float → Option Int
  /-- The `DOUBLE PRECISION` of a text. -/
  double : String → Option Float
  /-- The text of a float literal. -/
  textOfFloat : Float → String
  /-- The text of a list, which psycopg2 writes as an array. -/
  textOfArray : List Json → Option String
  /-- What comes back from a `JSONB` column for the text of an object. -/
  jsonb : JsonObject → Option JsonObject

/-- A row of `kafka_logs`. -/
structure KafkaLog where
  timestamp : Option Int
  level : Option String
  logger : Option String
  message : Option String
  instanceId : Option String
  requestId : Option String
  traceId : Option String
  method : Option String
  path : Option String
  statusCode : Option Int
  durationMs : Option Float
  rawJson : JsonObject
  ingestedAt : Int

/-! ## Columns -/

section Columns

variable (pg : Postgres)

/-- The text of a value in a text column; an object cannot be adapted. -/
def columnText : Json → Option (Option String)
  | .null => some none
  | .bool b => some (some (if b then "true" else "false"))
  | .int i => some (some (toString i))
  | .float f => some (some (pg.textOfFloat f))
  | .str s => some (some s)
  | .arr l => (pg.textOfArray l).map some
  | .obj _ => none

/-- A `VARCHAR(n)` column. -/
def varcharColumn (n : Nat) (v : Json) : Option (Option String) := do
  match ← columnText pg v with
  | none => some none
  | some s => (varchar n s).map some

/-- A `TEXT` column. -/
def textValueColumn (v : Json) : Option (Option String) := do
  match ← columnText pg v with
  | none => some none
  | some s => (textColumn s).map some

/-- The `timestamp` column. -/
def timestampColumn : Json → Option (Option Int)
  | .null => some none
  | .str s => if sendable s then (pg.timestamptz s).map some else none
  | _ => none

/-- An `INTEGER` column. A `bool` is not cast to it. -/
def integerColumn : Json → Option (Option Int)
  | .null => some none
  | .int i => if -(2 ^ 31) ≤ i ∧ i < 2 ^ 31 then some (some i) else none
  | .float f => (pg.integerOfFloat f).map some
  | .str s => if sendable s then (pg.integer s).map some else none
  | _ => none

/-- A `DOUBLE PRECISION` column. From `2^1024 - 2^970` on an integer is out of range. -/
def doubleColumn : Json → Option (Option Float)
  | .null => some none
  | .int i => if i.natAbs < 2 ^ 1024 - 2 ^ 970 then some (some (Float.ofInt i)) else none
  | .float f => some (some f)
  | .str s => if sendable s then (pg.double s).map some else none
  | _ => none

/-- `str(entry.get("instance_id", "unknown"))`. -/
def instanceIdText (entry : JsonObject) : String :=
  ((entry.get? "instance_id").getD (.str "unknown")).pyStr

/-- The row `flush_logs` builds for an entry, as it is stored. -/
def rowOf (now : Int) (entry : JsonObject) : Option KafkaLog := do
  let timestamp ← timestampColumn pg (entry.getNone "timestamp")
  let level ← varcharColumn pg 16 (entry.getNone "level")
  let logger ← varcharColumn pg 128 (entry.getNone "logger")
  let message ← textValueColumn pg (entry.getNone "message")
  let instanceId ← varcharColumn pg 32 (.str (instanceIdText entry))
  let requestId ← varcharColumn pg 128 (entry.getNone "request_id")
  let traceId ← varcharColumn pg 128 (entry.getNone "trace_id")
  let method ← varcharColumn pg 8 (entry.getNone "method")
  let path ← varcharColumn pg 512 (entry.getNone "path")
  let statusCode ← integerColumn pg (entry.getNone "status_code")
  let durationMs ← doubleColumn pg (entry.getNone "duration_ms")
  let rawJson ← pg.jsonb entry
  some
    { timestamp, level, logger, message, instanceId, requestId, traceId, method, path, statusCode,
      durationMs, rawJson, ingestedAt := now }

end Columns

/-! ## Transactions -/

/-- A row and the entry it was written from. -/
structure StoredLog where
  entry : LogEntry
  row : KafkaLog

/-- The rows of a batch, if every entry has one. -/
def rowsOf (pg : Postgres) (now : Int) (logs : List LogEntry) : Option (List StoredLog) :=
  logs.mapM fun entry => (rowOf pg now entry.fields).map fun row => { entry, row }

/-- `flush_logs`: the count inserted, and the table after. -/
def flushLogs (pg : Postgres) (reachable : Bool) (now : Int) (logs : List LogEntry)
    (table : List StoredLog) : Nat × List StoredLog :=
  if logs.isEmpty then (0, table)
  else if reachable then
    match rowsOf pg now logs with
    | some rows => (rows.length, table ++ rows)
    | none => (0, table)
  else (0, table)

/-- `clear_logs`: the count deleted, and the table after. -/
def clearLogs (reachable : Bool) (table : List StoredLog) : Nat × List StoredLog :=
  if reachable then (table.length, []) else (0, table)

theorem rowsOf_entries {pg : Postgres} {now : Int} {logs : List LogEntry} {rows : List StoredLog}
    (h : rowsOf pg now logs = some rows) : rows.map (·.entry) = logs := by
  induction logs generalizing rows with
  | nil =>
    cases h
    rfl
  | cons entry logs ih =>
    unfold rowsOf at h
    rw [List.mapM_cons] at h
    obtain ⟨stored, hstored, h⟩ := Option.bind_eq_some_iff.1 h
    obtain ⟨rest, hrest, h⟩ := Option.bind_eq_some_iff.1 h
    obtain ⟨row, -, rfl⟩ := Option.map_eq_some_iff.1 hstored
    cases h
    rw [List.map_cons, ih hrest]

/-- A flush commits the whole batch and answers its length, or commits nothing and answers zero. -/
theorem flushLogs_cases (pg : Postgres) (reachable : Bool) (now : Int) (logs : List LogEntry)
    (table : List StoredLog) :
    (flushLogs pg reachable now logs table).1 = 0 ∧
        (flushLogs pg reachable now logs table).2 = table ∨
      logs ≠ [] ∧ (flushLogs pg reachable now logs table).1 = logs.length ∧
        (flushLogs pg reachable now logs table).2.map (·.entry) = table.map (·.entry) ++ logs := by
  unfold flushLogs
  split
  · exact .inl ⟨rfl, rfl⟩
  · rename_i hne
    split
    · split
      · rename_i rows hrows
        have hentries := rowsOf_entries hrows
        refine .inr ⟨fun h => hne (by simp [h]), ?_, ?_⟩
        · rw [← hentries, List.length_map]
        · rw [List.map_append, hentries]
      · exact .inl ⟨rfl, rfl⟩
    · exact .inl ⟨rfl, rfl⟩

/-! ## Sample data -/

/-- Stores what is plain text, and reads no other text. -/
def samplePostgres : Postgres where
  timestamptz _ := none
  integer _ := none
  integerOfFloat _ := none
  double _ := none
  textOfFloat _ := ""
  textOfArray _ := none
  jsonb fields := some fields

/-- An entry with a message. -/
def sampleLog (message : String) : JsonObject := [("level", .str "INFO"), ("message", .str message)]

end PeHackathon.Dashboard
