import PeHackathon.Dashboard.BucketLaw

/-!
# The buckets of the ring

When the loop over the entries in memory counts by minute. `countLogs_law`: exactly if the window is
shorter than a day and every request in it that is not older than its start is counted rightly.
-/

namespace PeHackathon.Dashboard

open Lib

/-! ## One turn of the loop -/

/-- What the law says of a bucket. -/
structure BucketCounts where
  minute : Option Clock
  timestamp : Int
  total : Nat
  errors : Nat

def Bucket.counts (b : Bucket) : BucketCounts := ⟨b.minute, b.timestamp, b.total, b.errors⟩

/-- The loop counts a request in the bucket with this key. -/
def countedAt (windowStart : Int) (k : Option Clock) (e : HttpEntry) : Bool :=
  windowStart ≤ e.time && slotKey e.time == k

/-- A bucket after some more requests. -/
def BucketCounts.add (windowStart : Int) (k : Option Clock) (l : List HttpEntry)
    (b : BucketCounts) :
    BucketCounts :=
  { b with
    total := b.total + l.countP (countedAt windowStart k)
    errors := b.errors + l.countP fun e => countedAt windowStart k e && e.error }

theorem BucketCounts.add_append (windowStart : Int) (k : Option Clock) (l l' : List HttpEntry)
    (b : BucketCounts) :
    b.add windowStart k (l ++ l') = (b.add windowStart k l).add windowStart k l' := by
  simp only [BucketCounts.add, List.countP_append, Nat.add_assoc]

theorem BucketCounts.add_other {windowStart : Int} {k : Option Clock} {l : List HttpEntry}
    (h : ∀ e ∈ l, countedAt windowStart k e = false) (b : BucketCounts) :
    b.add windowStart k l = b := by
  have htotal : l.countP (countedAt windowStart k) = 0 :=
    List.countP_eq_zero.2 fun e he => by simp [h e he]
  have herrors : (l.countP fun e => countedAt windowStart k e && e.error) = 0 :=
    List.countP_eq_zero.2 fun e he => by simp [h e he]
  rw [BucketCounts.add, htotal, herrors]
  rfl

section Loop

variable (fromIso : String → Option Int) (windowStart : Int)

/-- Whether a status code is one of an error. -/
def isErrorCode (status : Json) : Bool :=
  match pyInt status with
  | .ok code => 400 ≤ code
  | .error _ => false

/-- The request an entry was logged for. -/
def httpEntry (entry : JsonObject) : Option HttpEntry :=
  (requestTime fromIso entry).map fun time =>
    { time, error := isErrorCode (entry.getNone "status_code") }

variable {fromIso windowStart}

/-- **A turn counts the request** in the bucket with its key. -/
theorem countEntry_counts {state state' : BucketMap × List JsonObject} {entry : JsonObject}
    (h : countEntry fromIso windowStart state entry = .ok state') (k : Option Clock) :
    (state'.1.get k).map Bucket.counts =
      (state.1.get k).map fun b => b.counts.add windowStart k (httpEntry fromIso entry).toList := by
  unfold countEntry at h
  have hsame : (∀ e ∈ (httpEntry fromIso entry).toList, countedAt windowStart k e = false) →
      (state.1.get k).map Bucket.counts =
        (state.1.get k).map fun b => b.counts.add windowStart k
          (httpEntry fromIso entry).toList := by
    intro hother
    simp only [BucketCounts.add_other hother]
  cases hts : requestTime fromIso entry with
  | none =>
    rw [hts] at h
    cases h
    exact hsame (by simp [httpEntry, hts])
  | some ts =>
    have hentry : (httpEntry fromIso entry).toList =
        [⟨ts, isErrorCode (entry.getNone "status_code")⟩] := by
      rw [httpEntry, hts]
      rfl
    rw [hts] at h
    dsimp only at h
    split at h
    · rename_i hold
      cases h
      exact hsame (by simp [hentry, countedAt, hold])
    · rename_i hwindow
      obtain ⟨key, hkey, h⟩ := bind_ok.1 h
      obtain ⟨-, rfl⟩ := strftime_ok hkey
      have hother : slotKey ts ≠ k → ∀ e ∈ (httpEntry fromIso entry).toList,
          countedAt windowStart k e = false := by
        intro hne
        simp [hentry, countedAt, hne]
      cases hbucket : state.1.get (some (clockOf (minuteOf ts))) with
      | none =>
        rw [hbucket] at h
        cases h
        by_cases hk : slotKey ts = k
        · subst hk
          rw [slotKey, hbucket]
          rfl
        · exact hsame (hother hk)
      | some bucket =>
        rw [hbucket] at h
        obtain ⟨code, hcode, h⟩ := bind_ok.1 h
        cases h
        dsimp only
        by_cases hk : slotKey ts = k
        · subst hk
          have herror : isErrorCode (entry.getNone "status_code") = decide (400 ≤ code) := by
            rw [isErrorCode, hcode]
          rw [hentry, herror, slotKey, hbucket, Dict.get_set_self]
          simp only [Option.map_some, Option.some.injEq, BucketCounts.add, Bucket.counts,
            Bucket.count, countedAt, slotKey, List.countP_singleton]
          by_cases hcode400 : 400 ≤ code <;> simp [hcode400, not_lt.1 hwindow]
        · have hne : k ≠ some (clockOf (minuteOf ts)) := Ne.symm hk
          rw [Dict.get_set_ne state.1 (bucket.count code) hne]
          exact hsame (hother hk)

theorem countEntry_isSome {state state' : BucketMap × List JsonObject} {entry : JsonObject}
    (h : countEntry fromIso windowStart state entry = .ok state') (k : Option Clock) :
    (state'.1.get k).isSome = (state.1.get k).isSome := by
  have hcounts := congrArg Option.isSome (countEntry_counts h k)
  rwa [Option.isSome_map, Option.isSome_map] at hcounts

/-- A turn returns unless it cannot label the time, or cannot convert the status code of a request
that has a bucket. -/
theorem countEntry_returns {state : BucketMap × List JsonObject} {entry : JsonObject} :
    (∃ state', countEntry fromIso windowStart state entry = .ok state') ↔
      ∀ ts, requestTime fromIso entry = some ts → windowStart ≤ ts →
        InYears ts ∧ ((state.1.get (slotKey ts)).isSome →
          ∃ code, pyInt (entry.getNone "status_code") = .ok code) := by
  unfold countEntry
  cases hts : requestTime fromIso entry with
  | none => simp
  | some ts =>
    simp only [Option.some.injEq, forall_eq']
    by_cases hold : ts < windowStart
    · simp [hold]
    · rw [if_neg hold]
      simp only [not_lt.1 hold, forall_const]
      constructor
      · rintro ⟨state', h⟩
        obtain ⟨key, hkey, h⟩ := bind_ok.1 h
        obtain ⟨hyears, rfl⟩ := strftime_ok hkey
        refine ⟨hyears, fun hsome => ?_⟩
        obtain ⟨bucket, hbucket⟩ := Option.isSome_iff_exists.1 hsome
        rw [slotKey] at hbucket
        rw [hbucket] at h
        obtain ⟨code, hcode, -⟩ := bind_ok.1 h
        exact ⟨code, hcode⟩
      · rintro ⟨hyears, hcode⟩
        rw [strftime_eq hyears]
        simp only [bind, Except.bind]
        unfold slotKey at hcode
        cases hbucket : state.1.get (some (clockOf (minuteOf ts))) with
        | none => exact ⟨state, rfl⟩
        | some bucket =>
          obtain ⟨code, hcode⟩ := hcode (by rw [hbucket]; rfl)
          simp only [hcode]
          exact ⟨_, rfl⟩

/-! ## The loop -/

/-- What the loop has counted in the bucket of a key. -/
theorem countEntries_counts {entries : List JsonObject} {state state' : BucketMap × List JsonObject}
    (h : entries.foldlM (countEntry fromIso windowStart) state = .ok state') (k : Option Clock) :
    (state'.1.get k).map Bucket.counts = (state.1.get k).map fun b =>
      b.counts.add windowStart k (entries.filterMap (httpEntry fromIso)) := by
  induction entries generalizing state with
  | nil =>
    cases h
    rfl
  | cons entry entries ih =>
    rw [List.foldlM_cons] at h
    obtain ⟨next, hnext, hrest⟩ := bind_ok.1 h
    have hsplit : (entry :: entries).filterMap (httpEntry fromIso) =
        (httpEntry fromIso entry).toList ++ entries.filterMap (httpEntry fromIso) := by
      rw [List.filterMap_cons]
      cases httpEntry fromIso entry <;> rfl
    have hfirst := congrArg
      (Option.map (BucketCounts.add windowStart k (entries.filterMap (httpEntry fromIso))))
      (countEntry_counts hnext k)
    rw [Option.map_map, Option.map_map] at hfirst
    simp only [hsplit, BucketCounts.add_append]
    exact (ih hrest).trans hfirst

theorem countEntries_returns {entries : List JsonObject} {state : BucketMap × List JsonObject} :
    (∃ state', entries.foldlM (countEntry fromIso windowStart) state = .ok state') ↔
      ∀ entry ∈ entries, ∀ ts, requestTime fromIso entry = some ts → windowStart ≤ ts →
        InYears ts ∧ ((state.1.get (slotKey ts)).isSome →
          ∃ code, pyInt (entry.getNone "status_code") = .ok code) := by
  refine foldlM_returns (I := fun s => ∀ k, (s.1.get k).isSome = (state.1.get k).isSome) ?_ ?_
    fun k => rfl
  · intro s entry hs
    rw [countEntry_returns]
    simp only [hs]
  · intro s entry s' hs h k
    rw [countEntry_isSome h, hs]

end Loop

/-! ## The law -/

section Law

variable (fromIso : String → Option Int) (now : Int) (windowMinutes : Nat)

/-- The years 1 to 9999 hold the window, and it is shorter than a day. -/
def ShortWindow : Prop :=
  minTime ≤ now - windowMinutes * minuteUs ∧ now < maxTime ∧ windowMinutes ≤ 1439

/-- A request that is not older than the window is counted rightly: its status code is a number and
it is not in the future, or it is but has no label of the window. -/
def RightlyCounted (entry : JsonObject) : Prop :=
  ∀ ts, requestTime fromIso entry = some ts → now - windowMinutes * minuteUs ≤ ts →
    ts ≤ now ∧ (∃ code, pyInt (entry.getNone "status_code") = .ok code) ∨
      now < ts ∧ ts < maxTime ∧ ∀ m, minuteOf (now - windowMinutes * minuteUs) ≤ m →
        m ≤ minuteOf now → clockOf (minuteOf ts) ≠ clockOf m

variable {fromIso now windowMinutes}

/-- The keys of the map are the labels of the window. -/
theorem window_isSome {m : Int} :
    (((Dict.empty : BucketMap).setAll slotKey slotBucket (windowMoments now windowMinutes)).get
        (some (clockOf m))).isSome ↔
      ∃ m', minuteOf (now - windowMinutes * minuteUs) ≤ m' ∧ m' ≤ minuteOf now ∧
        clockOf m = clockOf m' := by
  constructor
  · intro h
    obtain ⟨b, hb⟩ := Option.isSome_iff_exists.1 h
    rcases Dict.get_setAll_cases _ _ hb with hnone | ⟨t, ht, hkey, -⟩
    · rw [Dict.get_empty] at hnone
      cases hnone
    · obtain ⟨hlo, hhi⟩ := windowMoments_minute.1 ⟨t, ht, rfl⟩
      exact ⟨minuteOf t, hlo, hhi, (Option.some.inj hkey).symm⟩
  · rintro ⟨m', hlo, hhi, hclock⟩
    obtain ⟨t, ht, rfl⟩ := windowMoments_minute.2 ⟨hlo, hhi⟩
    rw [hclock]
    exact Dict.get_setAll_some _ ht

/-- A bucket of the window, after the loop. -/
theorem countLogs_bucket {entries : List JsonObject} {state : BucketMap × List JsonObject}
    (h : countLogs fromIso now windowMinutes entries = .ok state) {k : Option Clock} {b : Bucket}
    (hb : state.1.get k = some b) :
    ∃ t ∈ windowMoments now windowMinutes, slotKey t = k ∧ b.counts =
      (slotBucket t).counts.add (now - windowMinutes * minuteUs) k
        (entries.filterMap (httpEntry fromIso)) := by
  obtain ⟨slots, hslots, hloop⟩ := bind_ok.1 h
  obtain ⟨-, rfl⟩ := setWindow_ok.1 hslots
  have hcounts := countEntries_counts hloop k
  rw [hb] at hcounts
  obtain ⟨slot, hslot, hadd⟩ := Option.map_eq_some_iff.1 hcounts.symm
  rcases Dict.get_setAll_cases _ _ hslot with hnone | ⟨t, ht, hkey, rfl⟩
  · rw [Dict.get_empty] at hnone
    cases hnone
  · exact ⟨t, ht, hkey, hadd.symm⟩

theorem countLogs_returns {entries : List JsonObject} :
    (∃ state, countLogs fromIso now windowMinutes entries = .ok state) ↔
      (minTime ≤ now - windowMinutes * minuteUs ∧ now < maxTime) ∧
        ∀ entry ∈ entries, ∀ ts, requestTime fromIso entry = some ts →
          now - windowMinutes * minuteUs ≤ ts →
          InYears ts ∧ ((∃ m, minuteOf (now - windowMinutes * minuteUs) ≤ m ∧ m ≤ minuteOf now ∧
            clockOf (minuteOf ts) = clockOf m) →
              ∃ code, pyInt (entry.getNone "status_code") = .ok code) := by
  constructor
  · rintro ⟨state, h⟩
    obtain ⟨slots, hslots, hloop⟩ := bind_ok.1 h
    obtain ⟨hyears, rfl⟩ := setWindow_ok.1 hslots
    refine ⟨windowMoments_years.1 hyears, fun entry hentry ts hts hwindow => ?_⟩
    have hturn := countEntries_returns.1 ⟨state, hloop⟩ entry hentry ts hts hwindow
    exact ⟨hturn.1, fun hlabel => hturn.2 (window_isSome.2 hlabel)⟩
  · rintro ⟨hyears, hentries⟩
    obtain ⟨state, hloop⟩ : ∃ state, entries.foldlM
        (countEntry fromIso (now - windowMinutes * minuteUs))
        (Dict.empty.setAll slotKey slotBucket (windowMoments now windowMinutes), []) = .ok state :=
      countEntries_returns.2 fun entry hentry ts hts hwindow =>
        have hturn := hentries entry hentry ts hts hwindow
        ⟨hturn.1, fun hsome => hturn.2 (window_isSome.1 hsome)⟩
    exact ⟨state, bind_ok.2
      ⟨_, setWindow_ok.2 ⟨windowMoments_years.2 hyears, rfl⟩, hloop⟩⟩

/-- Rightly counted requests fill the map by minute. -/
theorem countLogs_filled {entries : List JsonObject} {state : BucketMap × List JsonObject}
    (h : countLogs fromIso now windowMinutes entries = .ok state) (hday : windowMinutes ≤ 1439)
    (hright : ∀ entry ∈ entries, RightlyCounted fromIso now windowMinutes entry) :
    FilledByMinute (entries.filterMap (httpEntry fromIso)) (now - windowMinutes * minuteUs) now
      state.1 := by
  have hcounted : ∀ e ∈ entries.filterMap (httpEntry fromIso),
      ∀ t ∈ windowMoments now windowMinutes,
        countedAt (now - windowMinutes * minuteUs) (slotKey t) e ↔
          (now - windowMinutes * minuteUs ≤ e.time ∧ e.time ≤ now) ∧
            minuteOf e.time = minuteOf t := by
    intro e he t ht
    obtain ⟨entry, hentry, he⟩ := List.mem_filterMap.1 he
    obtain ⟨ts, hts, rfl⟩ := Option.map_eq_some_iff.1 he
    obtain ⟨hlo, hhi⟩ := windowMoments_minute.1 ⟨t, ht, rfl⟩
    simp only [countedAt, slotKey, Bool.and_eq_true, decide_eq_true_eq, beq_iff_eq,
      Option.some.injEq]
    constructor
    · rintro ⟨hwindow, hclock⟩
      rcases hright entry hentry ts hts hwindow with ⟨hnow, -⟩ | ⟨-, -, hlabel⟩
      · have hlast := minuteOf_now now windowMinutes
        have hts := minuteOf_le hwindow
        have htsnow := minuteOf_le hnow
        exact ⟨⟨hwindow, hnow⟩, clockOf_inj hday ⟨hts, by omega⟩ ⟨hlo, by omega⟩ hclock⟩
      · exact absurd hclock (hlabel _ hlo hhi)
    · rintro ⟨⟨hwindow, -⟩, hminute⟩
      exact ⟨hwindow, by rw [hminute]⟩
  refine ⟨fun k b hb => ?_, fun k b hb => ?_, fun k b hb => ?_, fun m hlo hhi => ?_⟩
  · obtain ⟨t, -, rfl, hcounts⟩ := countLogs_bucket h hb
    obtain ⟨hminute, htime, -⟩ := BucketCounts.mk.inj hcounts
    have htime : b.timestamp = t := htime
    rw [htime]
    exact ⟨rfl, hminute⟩
  · obtain ⟨t, ht, rfl, hcounts⟩ := countLogs_bucket h hb
    obtain ⟨-, htime, htotal, -⟩ := BucketCounts.mk.inj hcounts
    have htime : b.timestamp = t := htime
    have htotal : b.total = 0 + _ := htotal
    rw [htotal, Nat.zero_add, htime, windowTotal]
    exact List.countP_congr fun e he => by simpa using hcounted e he t ht
  · obtain ⟨t, ht, rfl, hcounts⟩ := countLogs_bucket h hb
    obtain ⟨-, htime, -, herrors⟩ := BucketCounts.mk.inj hcounts
    have htime : b.timestamp = t := htime
    have herrors : b.errors = 0 + _ := herrors
    rw [herrors, Nat.zero_add, htime, windowErrors]
    refine List.countP_congr fun e he => ?_
    rw [Bool.and_eq_true, hcounted e he t ht, decide_eq_true_eq]
    tauto
  · obtain ⟨t, ht, rfl⟩ := windowMoments_minute.2 ⟨hlo, hhi⟩
    obtain ⟨slots, hslots, hloop⟩ := bind_ok.1 h
    obtain ⟨-, rfl⟩ := setWindow_ok.1 hslots
    have hsome := congrArg Option.isSome (countEntries_counts hloop (slotKey t))
    rw [Option.isSome_map, Option.isSome_map, Dict.get_setAll_some _ ht] at hsome
    obtain ⟨b, hb⟩ := Option.isSome_iff_exists.1 hsome
    refine ⟨slotKey t, b, hb, ?_⟩
    obtain ⟨t', ht', hkey, hcounts⟩ := countLogs_bucket h hb
    obtain ⟨-, htime, -⟩ := BucketCounts.mk.inj hcounts
    have htime : b.timestamp = t' := htime
    obtain ⟨hlo', hhi'⟩ := windowMoments_minute.1 ⟨t', ht', rfl⟩
    have hlast := minuteOf_now now windowMinutes
    rw [htime]
    exact clockOf_inj hday ⟨hlo', by omega⟩ ⟨hlo, by omega⟩ (Option.some.inj hkey)

/-- **The loop counts by minute** exactly if the window is short and every request is counted
rightly. -/
theorem countLogs_law {entries : List JsonObject}
    (logs : BucketMap × List JsonObject → List JsonObject) :
    (∃ state, countLogs fromIso now windowMinutes entries = .ok state ∧
      CountedByMinute (entries.filterMap (httpEntry fromIso)) (now - windowMinutes * minuteUs) now
        (bucketReport state.1 (logs state))) ↔
      ShortWindow now windowMinutes ∧
        ∀ entry ∈ entries, RightlyCounted fromIso now windowMinutes entry := by
  constructor
  · rintro ⟨state, h, hlaw⟩
    obtain ⟨⟨hmin, hmax⟩, hentries⟩ := countLogs_returns.1 ⟨state, h⟩
    have hkey : ∀ k b, state.1.get k = some b → k = some (clockOf (minuteOf b.timestamp)) := by
      intro k b hb
      obtain ⟨t, -, rfl, hcounts⟩ := countLogs_bucket h hb
      obtain ⟨-, htime, -⟩ := BucketCounts.mk.inj hcounts
      have htime : b.timestamp = t := htime
      rw [htime]
      rfl
    refine ⟨⟨hmin, hmax, window_lt_day (fun k b hb _ => hkey k b hb) hlaw⟩,
      fun entry hentry ts hts hwindow => ?_⟩
    obtain ⟨hyears, hcode⟩ := hentries entry hentry ts hts hwindow
    rcases le_or_gt ts now with hnow | hfuture
    · exact .inl ⟨hnow, hcode ⟨minuteOf ts, minuteOf_le hwindow, minuteOf_le hnow, rfl⟩⟩
    · refine .inr ⟨hfuture, hyears.2, fun m hlo hhi hclock => ?_⟩
      -- The bucket with this label counts the request, but the law excludes it.
      obtain ⟨slots, hslots, hloop⟩ := bind_ok.1 h
      obtain ⟨-, rfl⟩ := setWindow_ok.1 hslots
      have hsome :=
        congrArg Option.isSome (countEntries_counts hloop (some (clockOf (minuteOf ts))))
      rw [Option.isSome_map, Option.isSome_map, window_isSome.2 ⟨m, hlo, hhi, hclock⟩] at hsome
      obtain ⟨b, hb⟩ := Option.isSome_iff_exists.1 hsome
      obtain ⟨t, ht, ht', hcounts⟩ := countLogs_bucket h hb
      obtain ⟨-, htime, htotal, -⟩ := BucketCounts.mk.inj hcounts
      have htime : b.timestamp = t := htime
      have htotal : b.total = 0 + _ := htotal
      have hlawtotal := hlaw.total b (mem_report.2 ⟨_, hb⟩)
      rw [htotal, Nat.zero_add, htime, windowTotal] at hlawtotal
      have hmem : (⟨ts, isErrorCode (entry.getNone "status_code")⟩ : HttpEntry) ∈
          entries.filterMap (httpEntry fromIso) :=
        List.mem_filterMap.2 ⟨entry, hentry, by rw [httpEntry, hts]; rfl⟩
      have hin := forall_of_countP_eq (fun e _ he => ?_) hlawtotal _ hmem (by
        simp [countedAt, slotKey, hwindow])
      · simp only [decide_eq_true_eq] at hin
        omega
      · simp only [decide_eq_true_eq] at he
        rw [← ht']
        simp [countedAt, slotKey, he.1.1, he.2]
  · rintro ⟨⟨hmin, hmax, hday⟩, hright⟩
    obtain ⟨state, h⟩ := countLogs_returns.2 ⟨⟨hmin, hmax⟩, fun entry hentry ts hts hwindow => by
      rcases hright entry hentry ts hts hwindow with ⟨hnow, hcode⟩ | ⟨hfuture, hyears, hlabel⟩
      · exact ⟨⟨hmin.trans hwindow, by omega⟩, fun _ => hcode⟩
      · refine ⟨⟨hmin.trans hwindow, hyears⟩, fun hsome => ?_⟩
        obtain ⟨m, hlo, hhi, hclock⟩ := hsome
        exact absurd hclock (hlabel m hlo hhi)⟩
    exact ⟨state, h, report_law (countLogs_filled h hday hright) (logs state)⟩

end Law

end PeHackathon.Dashboard
