import PeHackathon.Dashboard.MinuteBuckets
import PeHackathon.Lib.Histogram

/-!
# What the minute buckets count

`CountedByMinute` says that a report counts the requests of the window, each in the bucket of its
own minute. `report_law`: it does if the map of the buckets has one for every minute of the window,
with the requests of that minute. A label does not tell two minutes apart that are a day apart.
-/

namespace PeHackathon.Dashboard

open Lib

/-! ## Minutes and labels -/

theorem minuteOf_add (t : Int) (i : Nat) : minuteOf (t + i * minuteUs) = minuteOf t + i :=
  Int.add_mul_ediv_right t i (by decide)

theorem minuteOf_mul (m : Int) : minuteOf (m * minuteUs) = m := Int.mul_ediv_cancel m (by decide)

theorem minuteOf_le {s t : Int} (h : s ≤ t) : minuteOf s ≤ minuteOf t :=
  Int.ediv_le_ediv (by decide) h

theorem clockOf_eq {m m' : Int} (h : clockOf m = clockOf m') : m % 1440 = m' % 1440 := by
  simp only [clockOf, Clock.mk.injEq] at h
  omega

/-- Within a day the label tells the minute. -/
theorem clockOf_inj {first m m' : Int} {n : Nat} (hn : n ≤ 1439) (hm : first ≤ m ∧ m ≤ first + n)
    (hm' : first ≤ m' ∧ m' ≤ first + n) (h : clockOf m = clockOf m') : m = m' := by
  have hmod := clockOf_eq h
  omega

theorem clockOf_day (m : Int) : clockOf (m + 1440) = clockOf m := by
  simp only [clockOf, Clock.mk.injEq]
  omega

theorem strftime_eq {t : Int} (h : InYears t) : strftime t = .ok (clockOf (minuteOf t)) := if_pos h

theorem strftime_ok {t : Int} {key : Clock} (h : strftime t = .ok key) :
    InYears t ∧ key = clockOf (minuteOf t) := by
  unfold strftime at h
  split at h
  · rename_i hyears
    exact ⟨hyears, (Except.ok.inj h).symm⟩
  · cases h

/-- To the end of the year 9999 both give the same label. -/
theorem toChar_eq {m : Int} (h : m ≤ minuteOf maxTime) : toChar m = some (clockOf m) := by
  refine if_neg fun heq => ?_
  rw [heq] at h
  exact absurd h (by decide)

/-! ## The window -/

section Window

variable {now : Int} {windowMinutes : Nat}

theorem mem_windowMoments {t : Int} : t ∈ windowMoments now windowMinutes ↔
    ∃ i : Nat, i ≤ windowMinutes ∧ t = now - windowMinutes * minuteUs + i * minuteUs := by
  unfold windowMoments
  rw [List.mem_map]
  constructor
  · rintro ⟨i, hi, rfl⟩
    exact ⟨i, Nat.le_of_lt_succ (List.mem_range.1 hi), rfl⟩
  · rintro ⟨i, hi, rfl⟩
    exact ⟨i, List.mem_range.2 (Nat.lt_succ_of_le hi), rfl⟩

variable (now windowMinutes) in
theorem minuteOf_now :
    minuteOf now = minuteOf (now - windowMinutes * minuteUs) + windowMinutes := by
  rw [← minuteOf_add, Int.sub_add_cancel]

/-- Every minute of the window has a moment, and every moment is in one. -/
theorem windowMoments_minute {m : Int} :
    (∃ t ∈ windowMoments now windowMinutes, minuteOf t = m) ↔
      minuteOf (now - windowMinutes * minuteUs) ≤ m ∧ m ≤ minuteOf now := by
  rw [minuteOf_now now windowMinutes]
  constructor
  · rintro ⟨t, ht, rfl⟩
    obtain ⟨i, hi, rfl⟩ := mem_windowMoments.1 ht
    rw [minuteOf_add]
    omega
  · rintro ⟨hfirst, hlast⟩
    refine ⟨_, mem_windowMoments.2
      ⟨(m - minuteOf (now - windowMinutes * minuteUs)).toNat, by omega, rfl⟩, ?_⟩
    rw [minuteOf_add]
    omega

theorem windowMoments_years : (∀ t ∈ windowMoments now windowMinutes, InYears t) ↔
    minTime ≤ now - windowMinutes * minuteUs ∧ now < maxTime := by
  constructor
  · intro h
    have hfirst := h _ (mem_windowMoments.2 ⟨0, Nat.zero_le _, rfl⟩)
    have hlast := h _ (mem_windowMoments.2 ⟨windowMinutes, le_refl _, rfl⟩)
    rw [Int.sub_add_cancel] at hlast
    refine ⟨?_, hlast.2⟩
    have hlo := hfirst.1
    rwa [Int.natCast_zero, Int.zero_mul, Int.add_zero] at hlo
  · rintro ⟨hlo, hhi⟩ t ht
    obtain ⟨i, hi, rfl⟩ := mem_windowMoments.1 ht
    unfold InYears minuteUs at *
    omega

end Window

/-- A loop over moments that labels each of them. -/
theorem foldlM_strftime (next : BucketMap → Clock → Int → BucketMap) (moments : List Int)
    (buckets result : BucketMap) :
    moments.foldlM (fun buckets t => do
        let key ← strftime t
        return next buckets key t) buckets = .ok result ↔
      (∀ t ∈ moments, InYears t) ∧
        moments.foldl (fun buckets t => next buckets (clockOf (minuteOf t)) t) buckets =
          result := by
  induction moments generalizing buckets with
  | nil => simp [pure, Except.pure]
  | cons t moments ih =>
    rw [List.foldlM_cons, List.foldl_cons, List.forall_mem_cons]
    by_cases hyears : InYears t
    · rw [strftime_eq hyears]
      exact (ih _).trans (by simp [hyears])
    · have herror : strftime t = .error .valueError := if_neg hyears
      rw [herror]
      simp [hyears, bind, Except.bind]

/-- The moment's own bucket. -/
def slotBucket (t : Int) : Bucket := .empty (clockOf (minuteOf t)) t

def slotKey (t : Int) : Option Clock := some (clockOf (minuteOf t))

theorem setWindow_ok {moments : List Int} {buckets result : BucketMap} :
    setWindow moments buckets = .ok result ↔
      (∀ t ∈ moments, InYears t) ∧ buckets.setAll slotKey slotBucket moments = result :=
  foldlM_strftime (fun buckets key t => buckets.set (some key) (.empty key t))
    moments buckets result

theorem fillWindow_ok {moments : List Int} {buckets result : BucketMap} :
    fillWindow moments buckets = .ok result ↔
      (∀ t ∈ moments, InYears t) ∧ buckets.fillAll slotKey slotBucket moments = result :=
  foldlM_strftime (fun buckets key t => buckets.fill (some key) (.empty key t))
    moments buckets result

/-! ## The law -/

/-- A request in the logs: its time, and whether its status code is at least 400. -/
structure HttpEntry where
  time : Int
  error : Bool

section Law

variable (entries : List HttpEntry) (windowStart now : Int)

def windowTotal (m : Int) : Nat :=
  entries.countP fun e => (windowStart ≤ e.time ∧ e.time ≤ now) ∧ minuteOf e.time = m

def windowErrors (m : Int) : Nat :=
  entries.countP fun e => (windowStart ≤ e.time ∧ e.time ≤ now) ∧ e.error ∧ minuteOf e.time = m

/-- The requests of the window are counted once, in the bucket of their minute, and no others
are. -/
structure CountedByMinute (r : BucketReport) : Prop where
  label : ∀ b ∈ r.buckets, b.minute = some (clockOf (minuteOf b.timestamp))
  total : ∀ b ∈ r.buckets, b.total = windowTotal entries windowStart now (minuteOf b.timestamp)
  errors : ∀ b ∈ r.buckets, b.errors = windowErrors entries windowStart now (minuteOf b.timestamp)
  /-- Distinct minutes have distinct buckets. -/
  distinct : (r.buckets.map fun b => minuteOf b.timestamp).Nodup
  present : ∀ m, minuteOf windowStart ≤ m → m ≤ minuteOf now →
    ∃ b ∈ r.buckets, minuteOf b.timestamp = m
  totalRequests : r.totalRequests = entries.countP fun e => windowStart ≤ e.time ∧ e.time ≤ now
  totalErrors : r.totalErrors =
    entries.countP fun e => (windowStart ≤ e.time ∧ e.time ≤ now) ∧ e.error

/-- What the law needs of the map of the buckets. -/
structure FilledByMinute (buckets : BucketMap) : Prop where
  key : ∀ k b, buckets.get k = some b → k = some (clockOf (minuteOf b.timestamp)) ∧ b.minute = k
  total : ∀ k b, buckets.get k = some b →
    b.total = windowTotal entries windowStart now (minuteOf b.timestamp)
  errors : ∀ k b, buckets.get k = some b →
    b.errors = windowErrors entries windowStart now (minuteOf b.timestamp)
  present : ∀ m, minuteOf windowStart ≤ m → m ≤ minuteOf now →
    ∃ k b, buckets.get k = some b ∧ minuteOf b.timestamp = m

variable {entries windowStart now}

theorem mem_report {buckets : BucketMap} {logs : List JsonObject} {b : Bucket} :
    b ∈ (bucketReport buckets logs).buckets ↔ ∃ k, buckets.get k = some b := by
  unfold bucketReport
  rw [List.mem_insertionSort, Dict.mem_values]

theorem report_sum (buckets : BucketMap) (logs : List JsonObject) (f : Bucket → Nat) :
    ((bucketReport buckets logs).buckets.map f).sum = (buckets.values.map f).sum :=
  ((List.perm_insertionSort _ buckets.values).map f).sum_eq

/-- **A map with the requests of every minute** makes a report that counts by minute. -/
theorem report_law {buckets : BucketMap} (h : FilledByMinute entries windowStart now buckets)
    (logs : List JsonObject) :
    CountedByMinute entries windowStart now (bucketReport buckets logs) := by
  have hlabels : (buckets.values.map fun b => some (clockOf (minuteOf b.timestamp))).Nodup :=
    Dict.values_nodup fun k b hb => (h.key k b hb).1.symm
  have hnodup : (buckets.values.map fun b => minuteOf b.timestamp).Nodup :=
    List.Nodup.of_map (fun m => some (clockOf m)) (by rwa [List.map_map])
  have hmem : ∀ e : HttpEntry, windowStart ≤ e.time → e.time ≤ now →
      minuteOf e.time ∈ buckets.values.map fun b => minuteOf b.timestamp := by
    intro e hlo hhi
    obtain ⟨k, b, hb, hm⟩ := h.present (minuteOf e.time) (minuteOf_le hlo) (minuteOf_le hhi)
    exact List.mem_map.2 ⟨b, Dict.mem_values.2 ⟨k, hb⟩, hm⟩
  -- The counts of distinct minutes add up to the count of the window.
  have hsum : ∀ (p : HttpEntry → Bool) (f : Bucket → Nat),
      (∀ e, p e → windowStart ≤ e.time ∧ e.time ≤ now) →
      (∀ k b, buckets.get k = some b →
        f b = entries.countP fun e => p e && minuteOf e.time == minuteOf b.timestamp) →
      ((bucketReport buckets logs).buckets.map f).sum = entries.countP p := by
    intro p f hp hf
    have hvalues : buckets.values.map f = (buckets.values.map fun b => minuteOf b.timestamp).map
        fun m => entries.countP fun e => p e && minuteOf e.time == m := by
      rw [List.map_map]
      refine List.map_congr_left fun b hb => ?_
      obtain ⟨k, hb⟩ := Dict.mem_values.1 hb
      exact hf k b hb
    rw [report_sum, hvalues, sum_countP_key (fun e : HttpEntry => minuteOf e.time) p entries hnodup]
    refine List.countP_congr fun e _ => ?_
    rw [Bool.and_eq_true, decide_eq_true_eq]
    exact ⟨fun he => he.1, fun he => ⟨he, hmem e (hp e he).1 (hp e he).2⟩⟩
  refine ⟨?_, ?_, ?_, ?_, ?_, ?_, ?_⟩
  · intro b hb
    obtain ⟨k, hb⟩ := mem_report.1 hb
    exact (h.key k b hb).2.trans (h.key k b hb).1
  · intro b hb
    obtain ⟨k, hb⟩ := mem_report.1 hb
    exact h.total k b hb
  · intro b hb
    obtain ⟨k, hb⟩ := mem_report.1 hb
    exact h.errors k b hb
  · exact ((List.perm_insertionSort _ buckets.values).map _).nodup_iff.2 hnodup
  · intro m hlo hhi
    obtain ⟨k, b, hb, hm⟩ := h.present m hlo hhi
    exact ⟨b, mem_report.2 ⟨k, hb⟩, hm⟩
  · refine hsum _ _ (fun e he => by simpa using he) fun k b hb => ?_
    rw [h.total k b hb, windowTotal]
    exact List.countP_congr fun e _ => by simp
  · refine hsum _ _ (fun e he => (by simpa using he : (_ ∧ _) ∧ _).1) fun k b hb => ?_
    rw [h.errors k b hb, windowErrors]
    exact List.countP_congr fun e _ => by simp [and_assoc]

/-- With a bucket for every minute, the window is shorter than a day, for two minutes that are a day
apart have one key. -/
theorem window_lt_day {windowMinutes : Nat} {buckets : BucketMap} {logs : List JsonObject}
    (hkey : ∀ k b, buckets.get k = some b → minuteOf b.timestamp ≤ minuteOf now →
      k = some (clockOf (minuteOf b.timestamp)))
    (h : CountedByMinute entries (now - windowMinutes * minuteUs) now (bucketReport buckets logs)) :
    windowMinutes ≤ 1439 := by
  by_contra hlong
  have hnow := minuteOf_now now windowMinutes
  obtain ⟨b, hb, hm⟩ := h.present _ (le_refl _) (by omega)
  obtain ⟨b', hb', hm'⟩ := h.present (minuteOf (now - windowMinutes * minuteUs) + 1440) (by omega)
    (by omega)
  obtain ⟨k, hb⟩ := mem_report.1 hb
  obtain ⟨k', hb'⟩ := mem_report.1 hb'
  have hk := hkey k b hb (by omega)
  have hk' := hkey k' b' hb' (by omega)
  rw [hm] at hk
  rw [hm', clockOf_day, ← hk] at hk'
  subst hk'
  rw [hb, Option.some.injEq] at hb'
  subst hb'
  omega

end Law

end PeHackathon.Dashboard
