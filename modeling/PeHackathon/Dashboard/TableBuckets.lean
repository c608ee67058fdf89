import Mathlib.Data.List.Dedup
import PeHackathon.Dashboard.MemoryBuckets

/-!
# The buckets of the table

When the groups of the rows and the slots that fill the window count by minute, and the law for
every path of the two endpoints: `buckets_counted`.
-/

namespace PeHackathon.Dashboard

open Lib

def RequestRow.entry (r : RequestRow) : HttpEntry := ⟨r.time, 400 ≤ r.code⟩

/-! ## The groups -/

section Groups

variable {rows : List RequestRow}

theorem mem_rowMinutes {m : Int} : m ∈ rowMinutes rows ↔ ∃ r ∈ rows, minuteOf r.time = m := by
  unfold rowMinutes
  rw [List.mem_insertionSort, List.mem_dedup, List.mem_map]

/-- The breakdown changes no count. -/
theorem addBreakdown_counts (buckets : BucketMap) (group : Int × Int) (k : Option Clock) :
    ((addBreakdown rows buckets group).get k).map Bucket.counts =
      (buckets.get k).map Bucket.counts := by
  unfold addBreakdown
  split
  · rfl
  · rename_i bucket hbucket
    by_cases hk : k = toChar group.1
    · subst hk
      rw [Dict.get_set_self, hbucket]
      rfl
    · rw [Dict.get_set_ne _ _ hk]

theorem addBreakdowns_counts (buckets : BucketMap) (groups : List (Int × Int)) (k : Option Clock) :
    ((groups.foldl (addBreakdown rows) buckets).get k).map Bucket.counts =
      (buckets.get k).map Bucket.counts := by
  induction groups generalizing buckets with
  | nil => rfl
  | cons group groups ih =>
    rw [List.foldl_cons, ih, addBreakdown_counts]

variable (rows) in
theorem queryBuckets_counts (k : Option Clock) :
    ((queryBuckets rows).get k).map Bucket.counts =
      (((Dict.empty : BucketMap).setAll toChar (groupBucket rows) (rowMinutes rows)).get k).map
        Bucket.counts :=
  addBreakdowns_counts _ (errorGroups rows) k

/-- A bucket of the query is that of a group. -/
theorem queryBuckets_cases {k : Option Clock} {b : Bucket}
    (h : (queryBuckets rows).get k = some b) :
    ∃ r ∈ rows, toChar (minuteOf r.time) = k ∧
      b.counts = (groupBucket rows (minuteOf r.time)).counts := by
  have hcounts := queryBuckets_counts rows k
  rw [h] at hcounts
  obtain ⟨group, hgroup, hb⟩ := Option.map_eq_some_iff.1 hcounts.symm
  rcases Dict.get_setAll_cases _ _ hgroup with hnone | ⟨m, hm, hkey, rfl⟩
  · rw [Dict.get_empty] at hnone
    cases hnone
  · obtain ⟨r, hr, rfl⟩ := mem_rowMinutes.1 hm
    exact ⟨r, hr, hkey, hb.symm⟩

theorem queryBuckets_isSome {r : RequestRow} (hr : r ∈ rows) :
    ((queryBuckets rows).get (toChar (minuteOf r.time))).isSome := by
  have hcounts := congrArg Option.isSome
    (queryBuckets_counts rows (toChar (minuteOf r.time)))
  rw [Option.isSome_map, Option.isSome_map,
    Dict.get_setAll_some _ (mem_rowMinutes.2 ⟨r, hr, rfl⟩)] at hcounts
  exact hcounts

/-- The group of the last minute has its bucket, whatever the other labels are. -/
theorem queryBuckets_last (hne : rows ≠ []) :
    ∃ r ∈ rows, (∀ s ∈ rows, minuteOf s.time ≤ minuteOf r.time) ∧
    ∃ b, (queryBuckets rows).get (toChar (minuteOf r.time)) = some b ∧
      b.counts = (groupBucket rows (minuteOf r.time)).counts := by
  obtain ⟨r₀, hr₀⟩ := List.exists_mem_of_ne_nil rows hne
  have hminutes : rowMinutes rows ≠ [] := List.ne_nil_of_mem (mem_rowMinutes.2 ⟨r₀, hr₀, rfl⟩)
  have hsplit := List.dropLast_concat_getLast hminutes
  generalize hlast : (rowMinutes rows).getLast hminutes = m at hsplit
  have hm : m ∈ rowMinutes rows := hlast ▸ List.getLast_mem hminutes
  obtain ⟨r, hr, rfl⟩ := mem_rowMinutes.1 hm
  have hsorted : (rowMinutes rows).Pairwise (· ≤ ·) := List.pairwise_insertionSort _ _
  rw [← hsplit] at hsorted
  refine ⟨r, hr, fun s hs => ?_, ?_⟩
  · have hs := mem_rowMinutes.2 ⟨s, hs, rfl⟩
    rw [← hsplit, List.mem_append] at hs
    rcases hs with hs | hs
    · exact (List.pairwise_append.1 hsorted).2.2 _ hs _ (List.mem_singleton_self _)
    · exact (List.mem_singleton.1 hs).le
  · have hcounts := queryBuckets_counts rows (toChar (minuteOf r.time))
    have hgroup : ((Dict.empty : BucketMap).setAll toChar (groupBucket rows)
        ((rowMinutes rows).dropLast ++ [minuteOf r.time])).get (toChar (minuteOf r.time)) =
          some (groupBucket rows (minuteOf r.time)) :=
      Dict.get_setAll_last _ _ fun m hm => absurd hm List.not_mem_nil
    rw [← hsplit, hgroup] at hcounts
    obtain ⟨b, hb, hbcounts⟩ := Option.map_eq_some_iff.1 hcounts
    exact ⟨b, hb, hbcounts⟩

end Groups

/-! ## The law -/

section Law

variable {all : List RequestRow} {now : Int} {windowMinutes : Nat} {buckets : BucketMap}

/-- The rows not older than the window, of those that are selected. -/
abbrev windowRows (all : List RequestRow) (now : Int) (windowMinutes : Nat) : List RequestRow :=
  all.filter fun r => now - windowMinutes * minuteUs ≤ r.time

/-- A bucket of the answer is that of a group, or an empty slot of a minute without rows. -/
theorem filled_cases
    (h : fillWindow (windowMoments now windowMinutes)
      (queryBuckets (windowRows all now windowMinutes)) = .ok buckets)
    {k : Option Clock} {b : Bucket} (hb : buckets.get k = some b) :
    (∃ r ∈ windowRows all now windowMinutes, toChar (minuteOf r.time) = k ∧
        b.counts = (groupBucket (windowRows all now windowMinutes) (minuteOf r.time)).counts) ∨
      ∃ t ∈ windowMoments now windowMinutes, slotKey t = k ∧ b = slotBucket t ∧
        ∀ r ∈ windowRows all now windowMinutes, toChar (minuteOf r.time) ≠ k := by
  obtain ⟨-, rfl⟩ := fillWindow_ok.1 h
  cases hquery : (queryBuckets (windowRows all now windowMinutes)).get k with
  | some b' =>
    rw [Dict.get_fillAll_old _ hquery] at hb
    cases hb
    exact .inl (queryBuckets_cases hquery)
  | none =>
    rcases Dict.get_fillAll_cases hb with hold | ⟨t, ht, hkey, rfl⟩
    · rw [hquery] at hold
      cases hold
    · refine .inr ⟨t, ht, hkey, rfl, fun r hr hk => ?_⟩
      have hsome := queryBuckets_isSome hr
      rw [hk, hquery] at hsome
      cases hsome

theorem mem_windowRows {r : RequestRow} : r ∈ windowRows all now windowMinutes ↔
    r ∈ all ∧ now - windowMinutes * minuteUs ≤ r.time := by
  simp

/-- The count of a group, by all the rows. -/
theorem groupBucket_total (m : Int) : (groupBucket (windowRows all now windowMinutes) m).total =
    (all.map RequestRow.entry).countP
      fun e => now - windowMinutes * minuteUs ≤ e.time ∧ minuteOf e.time = m := by
  change ((windowRows all now windowMinutes).countP fun r => minuteOf r.time = m) = _
  rw [List.countP_filter, List.countP_map]
  refine List.countP_congr fun r _ => ?_
  rw [Bool.and_eq_true, decide_eq_true_eq, decide_eq_true_eq, Function.comp_apply,
    decide_eq_true_eq]
  exact and_comm

theorem groupBucket_errors (m : Int) : (groupBucket (windowRows all now windowMinutes) m).errors =
    (all.map RequestRow.entry).countP
      fun e => now - windowMinutes * minuteUs ≤ e.time ∧ e.error ∧ minuteOf e.time = m := by
  change ((windowRows all now windowMinutes).countP fun r =>
    minuteOf r.time = m ∧ 400 ≤ r.code) = _
  rw [List.countP_filter, List.countP_map]
  refine List.countP_congr fun r _ => ?_
  simp only [RequestRow.entry, Function.comp_apply, Bool.and_eq_true, decide_eq_true_eq]
  tauto

/-- Without rows in the future the answer is filled by minute. -/
theorem fillWindow_filled
    (h : fillWindow (windowMoments now windowMinutes)
      (queryBuckets (windowRows all now windowMinutes)) = .ok buckets)
    (hwindow : ShortWindow now windowMinutes) (hnow : ∀ r ∈ all, r.time ≤ now) :
    FilledByMinute (all.map RequestRow.entry) (now - windowMinutes * minuteUs) now buckets := by
  obtain ⟨-, hmax, hday⟩ := hwindow
  have hlast := minuteOf_now now windowMinutes
  have hentry : ∀ e ∈ all.map RequestRow.entry, e.time ≤ now := by
    rintro _ he
    obtain ⟨r, hr, rfl⟩ := List.mem_map.1 he
    exact hnow r hr
  have hlabel : ∀ r ∈ windowRows all now windowMinutes,
      toChar (minuteOf r.time) = some (clockOf (minuteOf r.time)) := fun r hr =>
    toChar_eq (minuteOf_le ((hnow r (mem_windowRows.1 hr).1).trans hmax.le))
  -- A slot is left empty only if no row is of its minute.
  have hslot : ∀ t, (∀ r ∈ windowRows all now windowMinutes, toChar (minuteOf r.time) ≠ slotKey t) →
      ∀ e ∈ all.map RequestRow.entry, now - windowMinutes * minuteUs ≤ e.time →
        minuteOf e.time ≠ minuteOf t := by
    rintro t hnone _ he hlo hminute
    obtain ⟨r, hr, rfl⟩ := List.mem_map.1 he
    have hr := mem_windowRows.2 ⟨hr, hlo⟩
    refine hnone r hr ((hlabel r hr).trans ?_)
    exact congrArg (fun m => some (clockOf m)) hminute
  have hminutes : ∀ k b, buckets.get k = some b → k = some (clockOf (minuteOf b.timestamp)) ∧
      b.minute = k ∧ minuteOf (now - windowMinutes * minuteUs) ≤ minuteOf b.timestamp ∧
        minuteOf b.timestamp ≤ minuteOf now := by
    intro k b hb
    rcases filled_cases h hb with ⟨r, hr, rfl, hcounts⟩ | ⟨t, ht, rfl, rfl, -⟩
    · obtain ⟨hminute, htime, -⟩ := BucketCounts.mk.inj hcounts
      have htime : b.timestamp = minuteOf r.time * minuteUs := htime
      obtain ⟨hr', hlo⟩ := mem_windowRows.1 hr
      rw [htime, minuteOf_mul]
      exact ⟨hlabel r hr, hminute, minuteOf_le hlo, minuteOf_le (hnow r hr')⟩
    · exact ⟨rfl, rfl, windowMoments_minute.1 ⟨t, ht, rfl⟩⟩
  refine ⟨fun k b hb => ⟨(hminutes k b hb).1, (hminutes k b hb).2.1⟩, fun k b hb => ?_,
    fun k b hb => ?_, fun m hlo hhi => ?_⟩
  · rcases filled_cases h hb with ⟨r, hr, rfl, hcounts⟩ | ⟨t, ht, rfl, rfl, hnone⟩
    · obtain ⟨-, htime, htotal, -⟩ := BucketCounts.mk.inj hcounts
      have htime : b.timestamp = minuteOf r.time * minuteUs := htime
      rw [htotal, groupBucket_total, htime, minuteOf_mul, windowTotal]
      refine List.countP_congr fun e he => ?_
      simp [hentry e he]
    · refine (List.countP_eq_zero.2 fun e he => ?_).symm
      rw [decide_eq_true_eq]
      exact fun hin => hslot t hnone e he hin.1.1 hin.2
  · rcases filled_cases h hb with ⟨r, hr, rfl, hcounts⟩ | ⟨t, ht, rfl, rfl, hnone⟩
    · obtain ⟨-, htime, -, herrors⟩ := BucketCounts.mk.inj hcounts
      have htime : b.timestamp = minuteOf r.time * minuteUs := htime
      rw [herrors, groupBucket_errors, htime, minuteOf_mul, windowErrors]
      refine List.countP_congr fun e he => ?_
      simp [hentry e he]
    · refine (List.countP_eq_zero.2 fun e he => ?_).symm
      rw [decide_eq_true_eq]
      exact fun hin => hslot t hnone e he hin.1.1 hin.2.2
  · obtain ⟨t, ht, rfl⟩ := windowMoments_minute.2 ⟨hlo, hhi⟩
    have hsome : (buckets.get (slotKey t)).isSome := by
      obtain ⟨-, rfl⟩ := fillWindow_ok.1 h
      exact Dict.get_fillAll_some _ ht
    obtain ⟨b, hb⟩ := Option.isSome_iff_exists.1 hsome
    obtain ⟨hkey, -, hlo', hhi'⟩ := hminutes _ b hb
    refine ⟨slotKey t, b, hb, ?_⟩
    exact clockOf_inj hday ⟨hlo', by omega⟩ ⟨hlo, by omega⟩ (Option.some.inj hkey).symm

/-- **The table is counted by minute** exactly if the window is short and no row is in the
future. -/
theorem fillWindow_law (logs : List JsonObject) :
    (∃ buckets, fillWindow (windowMoments now windowMinutes)
        (queryBuckets (windowRows all now windowMinutes)) = .ok buckets ∧
      CountedByMinute (all.map RequestRow.entry) (now - windowMinutes * minuteUs) now
        (bucketReport buckets logs)) ↔
      ShortWindow now windowMinutes ∧ ∀ r ∈ all, r.time ≤ now := by
  constructor
  · rintro ⟨buckets, h, hlaw⟩
    obtain ⟨hyears, hbuckets⟩ := fillWindow_ok.1 h
    obtain ⟨hmin, hmax⟩ := windowMoments_years.1 hyears
    have hkey : ∀ k b, buckets.get k = some b → minuteOf b.timestamp ≤ minuteOf now →
        k = some (clockOf (minuteOf b.timestamp)) := by
      intro k b hb hle
      rcases filled_cases h hb with ⟨r, -, rfl, hcounts⟩ | ⟨t, -, rfl, rfl, -⟩
      · obtain ⟨-, htime, -⟩ := BucketCounts.mk.inj hcounts
        have htime : b.timestamp = minuteOf r.time * minuteUs := htime
        rw [htime, minuteOf_mul] at hle ⊢
        exact toChar_eq (hle.trans (minuteOf_le hmax.le))
      · rfl
    refine ⟨⟨hmin, hmax, window_lt_day hkey hlaw⟩, fun r hr => ?_⟩
    by_contra hfuture
    have hr : r ∈ windowRows all now windowMinutes :=
      mem_windowRows.2 ⟨hr, by unfold minuteUs; omega⟩
    obtain ⟨last, hmem, hlast, b, hb, hcounts⟩ := queryBuckets_last (List.ne_nil_of_mem hr)
    obtain ⟨-, htime, htotal, -⟩ := BucketCounts.mk.inj hcounts
    have htime : b.timestamp = minuteOf last.time * minuteUs := htime
    have hb : buckets.get (toChar (minuteOf last.time)) = some b := by
      rw [← hbuckets]
      exact Dict.get_fillAll_old _ hb
    -- The last group counts only rows up to now, so the row in the future is of a later minute.
    have hlawtotal := hlaw.total b (mem_report.2 ⟨_, hb⟩)
    rw [htotal, groupBucket_total, htime, minuteOf_mul, windowTotal] at hlawtotal
    have hin : ∀ s ∈ windowRows all now windowMinutes, minuteOf s.time = minuteOf last.time →
        s.time ≤ now := by
      intro s hs hminute
      obtain ⟨hs, hlo⟩ := mem_windowRows.1 hs
      have hcounted := forall_of_countP_eq (fun e _ he => by
        simp only [decide_eq_true_eq] at he ⊢
        exact ⟨he.1.1, he.2⟩) hlawtotal s.entry (List.mem_map.2 ⟨s, hs, rfl⟩) (by
          simp [RequestRow.entry, hlo, hminute])
      simp only [decide_eq_true_eq] at hcounted
      exact hcounted.1.2
    have hle := hlast r hr
    have hlastnow := minuteOf_le (hin last hmem rfl)
    have hnowr := minuteOf_le (not_le.1 hfuture).le
    exact hfuture (hin r hr (by omega))
  · rintro ⟨hwindow, hnow⟩
    obtain ⟨buckets, hok⟩ : ∃ buckets, fillWindow (windowMoments now windowMinutes)
        (queryBuckets (windowRows all now windowMinutes)) = .ok buckets :=
      ⟨_, fillWindow_ok.2 ⟨windowMoments_years.2 ⟨hwindow.1, hwindow.2.1⟩, rfl⟩⟩
    exact ⟨buckets, hok, report_law (fillWindow_filled hok hwindow hnow) logs⟩

end Law

/-! ## Every path -/

section Paths

variable (fromIso : String → Option Int) (cache : LogCache) (table : List StoredLog) (now : Int)
  (windowMinutes logLimit : Nat)

/-- The law of a path. -/
def CountsByMinute (entries : List HttpEntry) (answer : Except PyError BucketReport) : Prop :=
  ∃ r, answer = .ok r ∧ CountedByMinute entries (now - windowMinutes * minuteUs) now r

/-- The requests of some entries. -/
def entryRequests (logs : List LogEntry) : List HttpEntry :=
  (logs.map (·.fields)).filterMap (httpEntry fromIso)

/-- The requests of the rows of which the conditions are true. -/
def rowRequests (conditions : List SqlCondition) : List HttpEntry :=
  (requestRows conditions table).map RequestRow.entry

variable {fromIso cache table now windowMinutes logLimit}

/-- A path that counts the entries in memory. -/
theorem countLogs_path {logs : List LogEntry} {answer : Except PyError BucketReport}
    (lines : BucketMap × List JsonObject → List JsonObject)
    (h : answer = do
      let state ← countLogs fromIso now windowMinutes (logs.map (·.fields))
      return bucketReport state.1 (lines state)) :
    CountsByMinute now windowMinutes (entryRequests fromIso logs) answer ↔
      ShortWindow now windowMinutes ∧
        ∀ e ∈ logs, RightlyCounted fromIso now windowMinutes e.fields := by
  subst h
  have hlaw : _ ↔ ShortWindow now windowMinutes ∧
      ∀ entry ∈ logs.map (·.fields), RightlyCounted fromIso now windowMinutes entry :=
    countLogs_law lines
  rw [List.forall_mem_map] at hlaw
  refine Iff.trans ?_ hlaw
  constructor
  · rintro ⟨r, h, hr⟩
    obtain ⟨state, hstate, h⟩ := bind_ok.1 h
    cases h
    exact ⟨state, hstate, hr⟩
  · rintro ⟨state, hstate, hr⟩
    exact ⟨_, bind_ok.2 ⟨state, hstate, rfl⟩, hr⟩

theorem errorBuckets_law :
    CountsByMinute now windowMinutes (entryRequests fromIso cache.logs)
        (cache.getErrorBuckets fromIso now windowMinutes logLimit) ↔
      ShortWindow now windowMinutes ∧
        ∀ e ∈ cache.logs, RightlyCounted fromIso now windowMinutes e.fields :=
  countLogs_path (fun state => (byTimestamp state.2).take logLimit) rfl

/-- The filter accepts or rejects every entry. -/
def FilterReturns (py : PyCase) (f : LogFilters) (logs : List LogEntry) : Prop :=
  ∀ e ∈ logs, ∃ b, entryMatchesFilters py e.fields f = .ok b

theorem logInsights_law {py : PyCase} {f : LogFilters} :
    CountsByMinute now windowMinutes (entryRequests fromIso (cache.logs.filter (inMemory py f)))
        (cache.getLogInsights fromIso py now windowMinutes logLimit f) ↔
      FilterReturns py f cache.logs ∧ ShortWindow now windowMinutes ∧
        ∀ e ∈ cache.logs.filter (inMemory py f),
          RightlyCounted fromIso now windowMinutes e.fields := by
  by_cases hfilter : FilterReturns py f cache.logs
  · rw [and_iff_right hfilter]
    refine countLogs_path
      (fun _ => (byTimestamp ((cache.logs.filter (inMemory py f)).map (·.fields))).take logLimit) ?_
    rw [LogCache.getLogInsights, selectLogs_ok hfilter]
    rfl
  · refine ⟨fun hlaw => ?_, fun h => absurd h.1 hfilter⟩
    obtain ⟨r, h, -⟩ := hlaw
    obtain ⟨kept, hkept, -⟩ := bind_ok.1 h
    exact absurd (selectLogs_returns hkept) hfilter

/-- A path that counts the rows of the table. -/
theorem fillWindow_path {conditions : List SqlCondition} (lines : List JsonObject) :
    CountsByMinute now windowMinutes (rowRequests table conditions) (do
        let buckets ← fillWindow (windowMoments now windowMinutes)
          (queryBuckets (selectRows (now - windowMinutes * minuteUs) conditions table))
        return bucketReport buckets lines) ↔
      ShortWindow now windowMinutes ∧ ∀ r ∈ requestRows conditions table, r.time ≤ now := by
  refine Iff.trans ?_ (fillWindow_law lines)
  constructor
  · rintro ⟨r, h, hr⟩
    obtain ⟨buckets, hbuckets, h⟩ := bind_ok.1 h
    cases h
    exact ⟨buckets, hbuckets, hr⟩
  · rintro ⟨buckets, hbuckets, hr⟩
    exact ⟨_, bind_ok.2 ⟨buckets, hbuckets, rfl⟩, hr⟩

theorem getErrors_law :
    CountsByMinute now windowMinutes (rowRequests table [])
        (getErrors fromIso true cache table now windowMinutes logLimit) ↔
      ShortWindow now windowMinutes ∧ ∀ r ∈ requestRows [] table, r.time ≤ now :=
  fillWindow_path _

theorem getLogsInsights_law {py : PyCase} {pg : PgCase} {f : LogFilters}
    {conditions : List SqlCondition} (hconditions : sqlConditions pg f = .ok conditions) :
    CountsByMinute now windowMinutes (rowRequests table conditions)
        (getLogsInsights fromIso true cache table now windowMinutes logLimit py pg f) ↔
      FilterReturns py f cache.logs ∧ ShortWindow now windowMinutes ∧
        ∀ r ∈ requestRows conditions table, r.time ≤ now := by
  have hquery : queryLogInsights pg true table now windowMinutes f =
      some (queryBuckets (selectRows (now - windowMinutes * minuteUs) conditions table)) := by
    rw [queryLogInsights, hconditions]
    rfl
  unfold getLogsInsights
  rw [hquery]
  by_cases hfilter : FilterReturns py f cache.logs
  · rw [and_iff_right hfilter]
    have hmem : cache.getLogs py f (min 2000 cache.maxEntries) =
        .ok ((cache.logs.filter (inMemory py f)).reverse.take (min 2000 cache.maxEntries)) := by
      rw [LogCache.getLogs, selectLogs_ok hfilter]
      rfl
    dsimp only
    rw [hmem]
    exact fillWindow_path _
  · refine ⟨fun hlaw => ?_, fun h => absurd h.1 hfilter⟩
    obtain ⟨r, h, -⟩ := hlaw
    obtain ⟨buckets, -, h⟩ := bind_ok.1 h
    obtain ⟨mem, hmem, -⟩ := bind_ok.1 h
    obtain ⟨kept, hkept, -⟩ := bind_ok.1 hmem
    exact absurd (selectLogs_returns hkept) hfilter

/-- **Every path counts by minute** exactly if the window is shorter than a day, within the years 1
to 9999, and no request that it reads from the start of the window on is miscounted: in the table
none is in the future, and in memory none that is has a label of the window or a time after those
years, and the status codes of the others are numbers. The filter in memory must not raise. -/
theorem buckets_counted (py : PyCase) (pg : PgCase) (f : LogFilters) :
    (CountsByMinute now windowMinutes (entryRequests fromIso cache.logs)
        (cache.getErrorBuckets fromIso now windowMinutes logLimit) ↔
      ShortWindow now windowMinutes ∧
        ∀ e ∈ cache.logs, RightlyCounted fromIso now windowMinutes e.fields) ∧
    (CountsByMinute now windowMinutes (entryRequests fromIso (cache.logs.filter (inMemory py f)))
        (cache.getLogInsights fromIso py now windowMinutes logLimit f) ↔
      FilterReturns py f cache.logs ∧ ShortWindow now windowMinutes ∧
        ∀ e ∈ cache.logs.filter (inMemory py f),
          RightlyCounted fromIso now windowMinutes e.fields) ∧
    (CountsByMinute now windowMinutes (rowRequests table [])
        (getErrors fromIso true cache table now windowMinutes logLimit) ↔
      ShortWindow now windowMinutes ∧ ∀ r ∈ requestRows [] table, r.time ≤ now) ∧
    ∀ conditions, sqlConditions pg f = .ok conditions →
      (CountsByMinute now windowMinutes (rowRequests table conditions)
          (getLogsInsights fromIso true cache table now windowMinutes logLimit py pg f) ↔
        FilterReturns py f cache.logs ∧ ShortWindow now windowMinutes ∧
          ∀ r ∈ requestRows conditions table, r.time ≤ now) :=
  ⟨errorBuckets_law, logInsights_law, getErrors_law, fun _ hconditions =>
    getLogsInsights_law hconditions⟩

end Paths

/-! ## Samples -/

/-- Reads the one time of the samples, forty-five seconds after 1970. -/
def sampleIso (s : String) : Option Int :=
  if s = "1970-01-01T00:00:45+00:00" then some 45000000 else none

/-- A failed request at that time. -/
def failedRequest : LogEntry :=
  ⟨0, [("timestamp", .str "1970-01-01T00:00:45+00:00"), ("status_code", .int 500)]⟩

def failedCache : LogCache := { LogCache.empty 1000 with logs := [failedRequest] }

/-- A request of the table. -/
def storedRequest (time : Int) (level : String) (code : Int) : StoredLog where
  entry := ⟨0, [("level", .str level), ("status_code", .int code)]⟩
  row :=
    { timestamp := some time, level := some level, logger := none, message := none
      instanceId := some "1", requestId := none, traceId := none, method := none, path := none
      statusCode := some code, durationMs := none
      rawJson := [("level", .str level), ("status_code", .int code)], ingestedAt := time }

/-- Two errors, in two minutes, and a line that is none. -/
def requestTable : List StoredLog :=
  [storedRequest 45000000 "ERROR" 500, storedRequest 50000000 "INFO" 200,
    storedRequest 75000000 "error" 404]

def errorFilters : LogFilters := ⟨some "error ", none, none, none⟩

/-- The errors are counted, each in its minute. -/
theorem buckets_counted_sample :
    rowRequests requestTable [levelCondition samplePgCase "error "] =
        [⟨45000000, true⟩, ⟨75000000, true⟩] ∧
      CountsByMinute 90000000 1 (rowRequests requestTable [levelCondition samplePgCase "error "])
        (getLogsInsights sampleIso true failedCache requestTable 90000000 1 200 samplePyCase
          samplePgCase errorFilters) := by
  have hconditions : sqlConditions samplePgCase errorFilters =
      .ok [levelCondition samplePgCase "error "] := rfl
  have hrequests : requestRows [levelCondition samplePgCase "error "] requestTable =
      [⟨45000000, 500⟩, ⟨75000000, 404⟩] := rfl
  refine ⟨rfl, ((buckets_counted samplePyCase samplePgCase errorFilters).2.2.2 _ hconditions).2
    ⟨fun e he => ?_, ?_, ?_⟩⟩
  · obtain rfl := List.mem_singleton.1 he
    exact ⟨false, rfl⟩
  · exact ⟨by decide, by decide, by decide⟩
  · rw [hrequests]
    decide

/-- Fifteen seconds before its time the request is counted. And a window of a whole day has no
bucket of its own for its first minute, without any request. -/
theorem buckets_not_counted :
    ¬ CountsByMinute 30000000 1 (entryRequests sampleIso failedCache.logs)
        (failedCache.getErrorBuckets sampleIso 30000000 1 200) ∧
      ¬ CountsByMinute 0 1440 [] ((LogCache.empty 1000).getErrorBuckets sampleIso 0 1440 200) := by
  constructor
  · rintro ⟨r, h, hlaw⟩
    cases h
    exact absurd hlaw.totalRequests (by decide +kernel)
  · intro h
    have hwindow : ShortWindow 0 1440 := (errorBuckets_law.1 h).1
    exact absurd hwindow.2.2 (by decide)

end PeHackathon.Dashboard
