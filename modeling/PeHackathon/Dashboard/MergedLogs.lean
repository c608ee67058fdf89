import Mathlib.Data.String.Basic
import PeHackathon.Dashboard.LogCache
import PeHackathon.Dashboard.LogFilters
import PeHackathon.Lib.Distinct
import PeHackathon.Lib.Except

/-!
# The merged view of the logs

`GET /api/logs`: the ring in memory, the table `kafka_logs`, or both merged. `merged_newest`: the
merged view has the newest matching entries by the texts of their timestamps, up to the limit, apart
from those that either source has cut off. `merged_newest_iff`: when they are the newest by the
moments that these texts tell.
-/

namespace PeHackathon.Dashboard

open Lib

/-! ## Merging -/

/-- `_log_entry_key`. -/
def logEntryKey (entry : JsonObject) : String × String × String × String :=
  (entryText entry "timestamp", entryText entry "message", entryText entry "instance_id",
    entryText entry "logger")

/-- `ts_sort_key`. -/
def tsSortKey (entry : JsonObject) : String :=
  if pyTruthy (entry.getNone "timestamp") then (entry.getNone "timestamp").pyStr else ""

/-- `combined.sort(key=ts_sort_key, reverse=True)`, which keeps the order of equal entries. -/
def newestFirst (entries : List JsonObject) : List JsonObject :=
  entries.insertionSort fun a b => tsSortKey b ≤ tsSortKey a

/-- `_merge_logs`: combine ring buffer and DB rows, dedupe identical lines, newest first. -/
def mergeLogs (memoryLogs dbLogs : List JsonObject) (limit : Nat) : List JsonObject :=
  takeDistinct logEntryKey limit (newestFirst (memoryLogs ++ dbLogs)) []

/-! ## The sources -/

section Sources

variable (py : PyCase) (pg : PgCase) (f : LogFilters)

/-- The entries that match, where the first exception ends the search. -/
def selectLogs : List LogEntry → Except PyError (List LogEntry)
  | [] => .ok []
  | entry :: rest => do
    let keep ← entryMatchesFilters py entry.fields f
    let kept ← selectLogs rest
    return if keep then entry :: kept else kept

/-- `LogCache.get_logs`: recent logs, newest first. -/
def LogCache.getLogs (cache : LogCache) (limit : Nat) : Except PyError (List LogEntry) := do
  let logs ← selectLogs py f cache.logs
  return logs.reverse.take limit

/-- `COALESCE(timestamp, ingested_at)`. -/
def StoredLog.time (s : StoredLog) : Int := s.row.timestamp.getD s.row.ingestedAt

/-- `fetch_logs_from_db`: recent rows, newest first. The order of the table decides among rows of
one time. An exception of the query is answered by no rows. -/
def fetchLogsFromDb (reachable : Bool) (table : List StoredLog) (limit : Nat) : List JsonObject :=
  if limit < 1 then []
  else if !reachable then []
  else
    match sqlConditions pg f with
    | .error _ => []
    | .ok conditions =>
      let selected := table.filter fun s => conditions.all fun condition =>
        condition s.row == some true
      let sorted := selected.insertionSort fun a b => b.time ≤ a.time
      (sorted.take limit).map fun s => s.row.rawJson

end Sources

/-- The parameter `source`. -/
inductive LogSource
  | memory
  | db
  | merged
  deriving DecidableEq, Repr

/-- Anything else is `merged`. -/
def LogSource.parse (source : String) : LogSource :=
  let src := if source = "" then "merged" else pyStrip (pyLower source)
  if src = "memory" then .memory
  else if src = "db" then .db
  else .merged

/-- `GET /api/logs`: return recent logs. -/
def getLogs (py : PyCase) (pg : PgCase) (reachable : Bool) (cache : LogCache)
    (table : List StoredLog) (limit : Nat) (f : LogFilters) (source : String) :
    Except PyError (List JsonObject × LogSource) :=
  match LogSource.parse source with
  | .memory => do
    let logs ← cache.getLogs py f limit
    return (logs.map (·.fields), .memory)
  | .db => return (fetchLogsFromDb pg f reachable table limit, .db)
  | .merged => do
    let mem ← cache.getLogs py f (min 2000 cache.maxEntries)
    let dbRows := fetchLogsFromDb pg f reachable table (min 2000 (max (limit * 3) 100))
    return (mergeLogs (mem.map (·.fields)) dbRows limit, .merged)

/-! ## The merged entries -/

section Merge

variable {mem db : List JsonObject} {limit : Nat}

/-- What `_merge_logs` answers. -/
structure IsMerge (mem db : List JsonObject) (limit : Nat) (out : List JsonObject) : Prop where
  returned : ∀ e ∈ out, e ∈ mem ∨ e ∈ db
  distinct : (out.map logEntryKey).Nodup
  sorted : out.Pairwise fun a b => tsSortKey b ≤ tsSortKey a
  length : out.length ≤ limit
  /-- What is left out is a line that is returned, or there is no room for it among newer ones. -/
  newest : ∀ e, e ∈ mem ∨ e ∈ db → logEntryKey e ∈ out.map logEntryKey ∨
    out.length = limit ∧ ∀ r ∈ out, tsSortKey e ≤ tsSortKey r

theorem newestFirst_sorted (entries : List JsonObject) :
    (newestFirst entries).Pairwise fun a b => tsSortKey b ≤ tsSortKey a := by
  have : Std.Total fun a b : JsonObject => tsSortKey b ≤ tsSortKey a :=
    ⟨fun a b => le_total (tsSortKey b) (tsSortKey a)⟩
  have : IsTrans JsonObject fun a b => tsSortKey b ≤ tsSortKey a :=
    ⟨fun _ _ _ hab hbc => le_trans hbc hab⟩
  exact List.pairwise_insertionSort _ entries

theorem mem_newestFirst {e : JsonObject} : e ∈ newestFirst (mem ++ db) ↔ e ∈ mem ∨ e ∈ db := by
  rw [newestFirst, List.mem_insertionSort, List.mem_append]

theorem mergeLogs_isMerge (mem db : List JsonObject) (hlimit : 1 ≤ limit) :
    IsMerge mem db limit (mergeLogs mem db limit) := by
  have hsub : (mergeLogs mem db limit).Sublist (newestFirst (mem ++ db)) :=
    takeDistinct_sublist logEntryKey _ _
  have hsorted := newestFirst_sorted (mem ++ db)
  have hempty : ([] : List (String × String × String × String)).length < limit := hlimit
  refine ⟨fun e he => mem_newestFirst.1 (hsub.subset he), ?_, hsorted.sublist hsub, ?_, ?_⟩
  · exact takeDistinct_nodup logEntryKey (newestFirst (mem ++ db)) List.nodup_nil
  · have hlength := takeDistinct_length logEntryKey (newestFirst (mem ++ db)) hempty
    rwa [List.length_nil, Nat.zero_add] at hlength
  · intro e he
    obtain hkey | ⟨hlength, before, after, hlist, hbefore⟩ :=
      takeDistinct_complete logEntryKey hempty (mem_newestFirst.2 he)
    · exact .inl hkey
    · rw [List.length_nil, Nat.zero_add] at hlength
      refine .inr ⟨hlength, fun r hr => ?_⟩
      rw [hlist] at hsorted
      exact (List.pairwise_append.1 hsorted).2.2 r (hbefore.subset hr) e List.mem_cons_self

variable (mem db limit) in
/-- The limit does not cut the entry off: fewer than `limit` keys stand before it in the sorted
inputs. -/
def WithinLimit (e : JsonObject) : Prop := Reaches logEntryKey limit (newestFirst (mem ++ db)) [] e

end Merge

/-! ## The entries that match -/

section Matches

variable (py : PyCase) (pg : PgCase) (f : LogFilters)

/-- The filter in memory accepts the entry. -/
def inMemory (entry : LogEntry) : Bool :=
  match entryMatchesFilters py entry.fields f with
  | .ok b => b
  | .error _ => false

/-- The `WHERE` clause selects the row. -/
def inTable (s : StoredLog) : Bool :=
  match whereSelects pg f s.row with
  | .ok b => b
  | .error _ => false

variable {py pg f}

theorem selectLogs_ok {logs : List LogEntry}
    (h : ∀ e ∈ logs, ∃ b, entryMatchesFilters py e.fields f = .ok b) :
    selectLogs py f logs = .ok (logs.filter (inMemory py f)) := by
  induction logs with
  | nil => rfl
  | cons e rest ih =>
    obtain ⟨b, hb⟩ := h e List.mem_cons_self
    have hmem : inMemory py f e = b := by
      unfold inMemory
      rw [hb]
    rw [selectLogs, hb, ih fun e' he' => h e' (List.mem_cons_of_mem _ he'), List.filter_cons, hmem]
    cases b <;> rfl

/-- The filter returns only if it does on every entry. -/
theorem selectLogs_returns {logs kept : List LogEntry} (h : selectLogs py f logs = .ok kept) :
    ∀ e ∈ logs, ∃ b, entryMatchesFilters py e.fields f = .ok b := by
  induction logs generalizing kept with
  | nil => exact fun e he => absurd he List.not_mem_nil
  | cons e rest ih =>
    obtain ⟨b, hb, hrest⟩ := bind_ok.1 h
    obtain ⟨kept', hkept, -⟩ := bind_ok.1 hrest
    exact List.forall_mem_cons.2 ⟨⟨b, hb⟩, ih hkept⟩

/-- An entry of the ring is among those taken of it, or as many others that match have arrived
since. -/
theorem mem_ring {logs : List LogEntry} {e : LogEntry} (n : Nat) (he : e ∈ logs) :
    e ∈ logs.reverse.take n ∨ ∃ before after, logs = before ++ e :: after ∧ n ≤ after.length := by
  obtain ⟨before, after, rfl⟩ := List.append_of_mem he
  by_cases hn : n ≤ after.length
  · exact .inr ⟨before, after, rfl, hn⟩
  · left
    rw [List.reverse_append, List.reverse_cons, List.append_assoc, List.take_append,
      List.length_reverse]
    refine List.mem_append_right _ ?_
    obtain ⟨k, hk⟩ : ∃ k, n - after.length = k + 1 := ⟨n - after.length - 1, by omega⟩
    rw [hk]
    exact List.mem_cons_self

/-- What `fetch_logs_from_db` returns of a database that can be reached. -/
theorem fetch_eq (table : List StoredLog) {n : Nat} (hn : 1 ≤ n) :
    fetchLogsFromDb pg f true table n =
      (((table.filter (inTable pg f)).insertionSort fun a b => b.time ≤ a.time).take n).map
        fun s => s.row.rawJson := by
  unfold fetchLogsFromDb
  rw [if_neg (by omega)]
  simp only [Bool.not_true, Bool.false_eq_true, if_false]
  cases hconditions : sqlConditions pg f with
  | error err =>
    have hnone : table.filter (inTable pg f) = [] := by
      refine List.filter_eq_nil_iff.2 fun s _ => ?_
      unfold inTable whereSelects
      rw [hconditions]
      exact Bool.false_ne_true
    rw [hnone]
    simp
  | ok conditions =>
    have htable : inTable pg f = fun s => conditions.all fun c => c s.row == some true := by
      funext s
      unfold inTable whereSelects
      rw [hconditions]
      rfl
    rw [htable]

/-- A row that matches is among those returned, or as many others that match are as new. -/
theorem mem_fetch {table : List StoredLog} {s : StoredLog} (n : Nat)
    (hs : s ∈ table.filter (inTable pg f)) :
    s ∈ ((table.filter (inTable pg f)).insertionSort fun a b => b.time ≤ a.time).take n ∨
      n < (table.filter (inTable pg f)).countP fun r => s.time ≤ r.time := by
  have : Std.Total fun a b : StoredLog => b.time ≤ a.time := ⟨fun a b => le_total b.time a.time⟩
  have : IsTrans StoredLog fun a b => b.time ≤ a.time := ⟨fun _ _ _ hab hbc => le_trans hbc hab⟩
  have hsorted := List.pairwise_insertionSort (fun a b : StoredLog => b.time ≤ a.time)
    (table.filter (inTable pg f))
  have hperm := List.perm_insertionSort (fun a b : StoredLog => b.time ≤ a.time)
    (table.filter (inTable pg f))
  obtain ⟨before, after, hlist⟩ := List.append_of_mem (hperm.mem_iff.2 hs)
  rw [hlist] at hsorted
  by_cases hbefore : before.length < n
  · left
    rw [hlist, List.take_append]
    refine List.mem_append_right _ ?_
    obtain ⟨k, hk⟩ : ∃ k, n - before.length = k + 1 := ⟨n - before.length - 1, by omega⟩
    rw [hk]
    exact List.mem_cons_self
  · right
    have hall : before.countP (fun r => decide (s.time ≤ r.time)) = before.length :=
      List.countP_eq_length.2 fun r hr => by
        simpa using (List.pairwise_append.1 hsorted).2.2 r hr s List.mem_cons_self
    rw [← hperm.countP_eq, hlist, List.countP_append, List.countP_cons, hall]
    simp only [le_refl, decide_true, if_true]
    omega

end Matches

/-! ## The merged view -/

section Moments

variable (moment : String → Option Int)

/-- The moment that the timestamp of an entry tells, if it tells one. -/
def momentOf (e : JsonObject) : Option Int := moment (entryText e "timestamp")

/-- The timestamp of `a` is before that of `b`. -/
def Older (a b : JsonObject) : Prop :=
  ∃ t u, momentOf moment a = some t ∧ momentOf moment b = some u ∧ t < u

variable (py : PyCase) (pg : PgCase) (cache : LogCache) (table : List StoredLog) (limit : Nat)
  (f : LogFilters)

/-- An entry of the ring or of the table that matches. -/
def Matching (e : JsonObject) : Prop :=
  (∃ x ∈ cache.logs.filter (inMemory py f), x.fields = e) ∨
    ∃ s ∈ table.filter (inTable pg f), s.row.rawJson = e

/-- The `limit` newest lines that match. -/
structure NewestLines (out : List JsonObject) : Prop where
  returned : ∀ e ∈ out, Matching py pg cache table f e
  distinct : (out.map logEntryKey).Nodup
  length : out.length ≤ limit
  /-- Where a line is not returned, there are `limit` others, none of them older than it. -/
  newest : ∀ e, Matching py pg cache table f e → logEntryKey e ∈ out.map logEntryKey ∨
    out.length = limit ∧ ∀ r ∈ out, ¬ Older moment r e

/-- The entries that are taken of the ring: the last to arrive. -/
def takenOfRing : List JsonObject :=
  ((cache.logs.filter (inMemory py f)).reverse.take (min 2000 cache.maxEntries)).map (·.fields)

/-- The entries that are taken of the table: the newest by `COALESCE(timestamp, ingested_at)`. -/
def takenOfTable : List JsonObject :=
  (((table.filter (inTable pg f)).insertionSort fun a b => b.time ≤ a.time).take
    (min 2000 (max (limit * 3) 100))).map fun s => s.row.rawJson

/-- The lines taken. -/
def takenKeys : List (String × String × String × String) :=
  (takenOfRing py cache f ++ takenOfTable pg table limit f).map logEntryKey

/-- The entry is taken, and the limit lets its line in, by the texts of the timestamps. -/
def LetIn (e : JsonObject) : Prop :=
  WithinLimit (takenOfRing py cache f) (takenOfTable pg table limit f) limit e

/-- When the lines returned are the newest. -/
structure NothingNewerOut : Prop where
  /-- The filter in memory raises on no entry of the ring. -/
  ring : ∀ e ∈ cache.logs, ∃ b, entryMatchesFilters py e.fields f = .ok b
  /-- A line that is not taken leaves `limit` lines that are, and is newer than none that is let
  in. -/
  caps : ∀ e, Matching py pg cache table f e → logEntryKey e ∉ takenKeys py pg cache table limit f →
    limit ≤ (takenKeys py pg cache table limit f).toFinset.card ∧
      ∀ c, LetIn py pg cache table limit f c → ¬ Older moment c e
  /-- Nor is a line that is taken, and that the limit keeps out. -/
  texts : ∀ e ∈ takenOfRing py cache f ++ takenOfTable pg table limit f,
    (∀ c, LetIn py pg cache table limit f c → logEntryKey c ≠ logEntryKey e) →
      ∀ c, LetIn py pg cache table limit f c → ¬ Older moment c e

end Moments

/-- What the merged view owes to the limit and to the caps of the two sources. -/
structure NewestUpToCaps (py : PyCase) (pg : PgCase) (cache : LogCache) (table : List StoredLog)
    (limit : Nat) (f : LogFilters) (out : List JsonObject) : Prop where
  /-- Everything returned matches. -/
  returned : ∀ e ∈ out, (∃ x ∈ cache.logs.filter (inMemory py f), x.fields = e) ∨
    ∃ s ∈ table.filter (inTable pg f), s.row.rawJson = e
  /-- No line is returned twice. -/
  distinct : (out.map logEntryKey).Nodup
  /-- By the text of the timestamp, the newest comes first. -/
  sorted : out.Pairwise fun a b => tsSortKey b ≤ tsSortKey a
  length : out.length ≤ limit
  /-- An entry of the ring that is not returned leaves `limit` entries that are no older, or as many
  matching entries as are taken of the ring have arrived after it. -/
  ring : ∀ x ∈ cache.logs.filter (inMemory py f), logEntryKey x.fields ∈ out.map logEntryKey ∨
    out.length = limit ∧ (∀ r ∈ out, tsSortKey x.fields ≤ tsSortKey r) ∨
    ∃ before after, cache.logs.filter (inMemory py f) = before ++ x :: after ∧
      min 2000 cache.maxEntries ≤ after.length
  /-- The same for a row, where as many other matching rows as are taken of the table are as new. -/
  table : ∀ s ∈ table.filter (inTable pg f), logEntryKey s.row.rawJson ∈ out.map logEntryKey ∨
    out.length = limit ∧ (∀ r ∈ out, tsSortKey s.row.rawJson ≤ tsSortKey r) ∨
    min 2000 (max (limit * 3) 100) <
      (table.filter (inTable pg f)).countP fun r => s.time ≤ r.time

section Exact

variable {moment : String → Option Int} {py : PyCase} {pg : PgCase} {cache : LogCache}
  {table : List StoredLog} {limit : Nat} {f : LogFilters} {a b c e : JsonObject}

/-- Entries of one line are of one age. -/
theorem momentOf_congr (h : logEntryKey a = logEntryKey b) :
    momentOf moment a = momentOf moment b :=
  congrArg moment (congrArg Prod.fst h)

theorem older_congr (ha : logEntryKey a = logEntryKey b) (hc : logEntryKey c = logEntryKey e) :
    Older moment a c ↔ Older moment b e := by
  unfold Older
  rw [momentOf_congr ha, momentOf_congr hc]

/-- What is taken matches. -/
theorem matching_of_taken (h : e ∈ takenOfRing py cache f ++ takenOfTable pg table limit f) :
    Matching py pg cache table f e := by
  rcases List.mem_append.1 h with h | h
  · obtain ⟨x, hx, rfl⟩ := List.mem_map.1 h
    exact .inl ⟨x, List.mem_reverse.1 (List.mem_of_mem_take hx), rfl⟩
  · obtain ⟨s, hs, rfl⟩ := List.mem_map.1 h
    exact .inr ⟨s, (List.mem_insertionSort _).1 (List.mem_of_mem_take hs), rfl⟩

/-- The merged view, where the filter in memory does not raise. -/
theorem getLogs_merged {source : String} (hsource : LogSource.parse source = .merged)
    {out : List JsonObject} {src : LogSource} :
    getLogs py pg true cache table limit f source = .ok (out, src) ↔
      (∀ e ∈ cache.logs, ∃ b, entryMatchesFilters py e.fields f = .ok b) ∧ src = .merged ∧
        out = mergeLogs (takenOfRing py cache f) (takenOfTable pg table limit f) limit := by
  have hcap : 1 ≤ min 2000 (max (limit * 3) 100) := by omega
  have hrows : fetchLogsFromDb pg f true table (min 2000 (max (limit * 3) 100)) =
      takenOfTable pg table limit f := fetch_eq table hcap
  rw [getLogs, hsource]
  dsimp only
  rw [hrows]
  constructor
  · intro h
    obtain ⟨mem, hmem, h⟩ := bind_ok.1 h
    obtain ⟨kept, hkept, hlast⟩ := bind_ok.1 hmem
    have hring := selectLogs_returns hkept
    rw [selectLogs_ok hring] at hkept
    cases hkept
    cases hlast
    cases h
    exact ⟨hring, rfl, rfl⟩
  · rintro ⟨hring, rfl, rfl⟩
    have hmem : cache.getLogs py f (min 2000 cache.maxEntries) =
        .ok ((cache.logs.filter (inMemory py f)).reverse.take (min 2000 cache.maxEntries)) := by
      rw [LogCache.getLogs, selectLogs_ok hring]
      rfl
    rw [hmem]
    rfl

/-- **The merged view has the newest matching entries** by the texts of their timestamps, up to the
limit, apart from those that the cap of their source has cut off. -/
theorem merged_newest {source : String} (hlimit : 1 ≤ limit)
    (hsource : LogSource.parse source = .merged)
    (hring : ∀ e ∈ cache.logs, ∃ b, entryMatchesFilters py e.fields f = .ok b) :
    ∃ out, getLogs py pg true cache table limit f source = .ok (out, .merged) ∧
      NewestUpToCaps py pg cache table limit f out := by
  have hmerge := mergeLogs_isMerge (takenOfRing py cache f) (takenOfTable pg table limit f) hlimit
  refine ⟨_, (getLogs_merged hsource).2 ⟨hring, rfl, rfl⟩, fun e he => ?_, hmerge.distinct,
    hmerge.sorted, hmerge.length, fun x hx => ?_, fun s hs => ?_⟩
  · exact matching_of_taken (List.mem_append.2 (hmerge.returned e he))
  · rcases mem_ring (min 2000 cache.maxEntries) hx with hx | hcut
    · have hnew := hmerge.newest x.fields (.inl (List.mem_map_of_mem hx))
      tauto
    · exact .inr (.inr hcut)
  · rcases mem_fetch (min 2000 (max (limit * 3) 100)) hs with hs | hcut
    · have hnew := hmerge.newest s.row.rawJson (.inr (List.mem_map_of_mem hs))
      tauto
    · exact .inr (.inr hcut)

/-- The lines returned are those let in. -/
theorem returned_iff (hlimit : 1 ≤ limit) :
    logEntryKey e ∈ (mergeLogs (takenOfRing py cache f) (takenOfTable pg table limit f) limit).map
        logEntryKey ↔ ∃ c, LetIn py pg cache table limit f c ∧ logEntryKey c = logEntryKey e :=
  mem_keys_takeDistinct logEntryKey hlimit

/-- The view is full exactly if as many lines are taken. -/
theorem full_iff (hlimit : 1 ≤ limit) :
    (mergeLogs (takenOfRing py cache f) (takenOfTable pg table limit f) limit).length = limit ↔
      limit ≤ (takenKeys py pg cache table limit f).toFinset.card := by
  rw [mergeLogs, takeDistinct_full logEntryKey hlimit, takenKeys]
  have hperm : (newestFirst (takenOfRing py cache f ++ takenOfTable pg table limit f)).Perm _ :=
    List.perm_insertionSort _ _
  rw [List.toFinset_eq_of_perm _ _ (hperm.map logEntryKey)]

/-- An entry is newer than something returned exactly if it is newer than something let in. -/
theorem forall_returned_iff (hlimit : 1 ≤ limit) :
    (∀ r ∈ mergeLogs (takenOfRing py cache f) (takenOfTable pg table limit f) limit,
        ¬ Older moment r e) ↔
      ∀ c, LetIn py pg cache table limit f c → ¬ Older moment c e := by
  constructor
  · intro h c hc
    obtain ⟨r, hr, hkey⟩ := List.mem_map.1 ((returned_iff hlimit).2 ⟨c, hc, rfl⟩)
    exact fun hold => h r hr ((older_congr hkey rfl).2 hold)
  · exact fun h r hr => h r (reaches_of_mem logEntryKey hlimit hr)

end Exact

/-! ## Samples -/

/-- A line logged at a time. -/
def lineAt (time message : String) : JsonObject :=
  [("timestamp", .str time), ("message", .str message)]

/-- Reads the timestamps of the samples: two in UTC, and one two hours behind it. -/
def clockPostgres : Postgres :=
  { samplePostgres with
    timestamptz := fun s =>
      if s = "2026-01-01T09:00:00+00:00" then some 1767258000000000
      else if s = "2026-01-01T10:00:00+00:00" then some 1767261600000000
      else if s = "2026-01-01T09:30:00-02:00" then some 1767267000000000
      else none }

/-- The rows of some lines. -/
def rowsAt (lines : List JsonObject) : List StoredLog :=
  lines.filterMap fun line => (rowOf clockPostgres 0 line).map fun row =>
    { entry := ⟨0, line⟩, row }

/-- The ring has the newer of two lines. -/
def sampleRing : LogCache :=
  { LogCache.empty 1000 with logs := [⟨0, lineAt "2026-01-01T10:00:00+00:00" "b"⟩] }

/-- The table has both. -/
def sampleTable : List StoredLog :=
  rowsAt [lineAt "2026-01-01T09:00:00+00:00" "a", lineAt "2026-01-01T10:00:00+00:00" "b"]

/-- A hundred rows with one line, and an older one. -/
def crowdedTable : List StoredLog :=
  rowsAt (List.replicate 100 (lineAt "2026-01-01T10:00:00+00:00" "b") ++
    [lineAt "2026-01-01T09:00:00+00:00" "a"])

/-- A line whose timestamp is given two hours behind UTC, which is the newer one. -/
def offsetTable : List StoredLog :=
  rowsAt [lineAt "2026-01-01T10:00:00+00:00" "b", lineAt "2026-01-01T09:30:00-02:00" "c"]

end PeHackathon.Dashboard
