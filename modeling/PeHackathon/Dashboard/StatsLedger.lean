import Mathlib
import PeHackathon.Dashboard.Statistics

/-!
# The statistics as a ledger

The counters of an instance agree with each other while every update was complete, and then the
levels count the entries. A field that cannot be converted is met after the entry is in the lists
and in some of the counts, so one such entry ends it.
-/

namespace PeHackathon.Dashboard

open Lib

/-! ## Atomic updates -/

namespace StatsCache

variable {now : Int} {fields : JsonObject} {cache : StatsCache}

/-- `add` either applies completely or, if it raises, changes nothing. -/
def Atomic (now : Int) (fields : JsonObject) (cache : StatsCache) : Prop :=
  match cache.add now (.obj fields) with
  | (after, none) => ∃ r, reading fields = .ok r ∧ after = cache.applied now fields r
  | (after, some _) => after = cache

/-- An entry that cannot be read stays in the ring, in the list and in the count. -/
theorem add_ingested (now : Int) (fields : JsonObject) (cache : StatsCache) :
    (cache.add now (.obj fields)).1.totalIngested = cache.totalIngested + 1 := rfl

theorem atomic_iff : cache.Atomic now fields ↔ Readable fields := by
  constructor
  · intro h
    cases hraised : (cache.add now (.obj fields)).2 with
    | none => exact add_returns.1 hraised
    | some e =>
      have hadd : cache.add now (.obj fields) = ((cache.add now (.obj fields)).1, some e) :=
        Prod.ext rfl hraised
      unfold Atomic at h
      rw [hadd] at h
      have hcount := add_ingested now fields cache
      rw [show (cache.add now (.obj fields)).1 = cache from h] at hcount
      omega
  · rintro ⟨r, hr⟩
    unfold Atomic
    rw [add_of_reading hr]
    exact ⟨r, hr, rfl⟩

end StatsCache

/-! ## The ledger -/

/-- Whether the text of a status code is one of an error. -/
def isErrorText (key : String) : Bool := key.toInt?.elim false fun code => 400 ≤ code

theorem isErrorText_toString (code : Int) : isErrorText (toString code) = decide (400 ≤ code) := by
  have htext : (toString code).toInt? = some code := Int.toInt?_repr code
  simp only [isErrorText, htext, Option.elim_some]

/-- The counters of an instance agree. -/
structure InstanceStats.Balanced (stats : InstanceStats) : Prop where
  requests : stats.requestCount = stats.statusCodes.total fun _ => true
  errors : stats.errorCount = stats.statusCodes.total isErrorText

/-- How many levels were counted. -/
def InstanceStats.levelCount (stats : InstanceStats) : Nat := stats.levels.total fun _ => true

/-- The statistics are a ledger of the log. -/
structure StatsCache.Ledger (cache : StatsCache) : Prop where
  instances : ∀ id stats, cache.stats.get id = some stats → stats.Balanced
  levels : (cache.stats.sumOver fun _ stats => stats.levelCount) = cache.totalIngested

namespace InstanceStats

variable {now : Int} {r : Reading} {stats : InstanceStats}

theorem Balanced.new (now : Int) : (new now).Balanced := ⟨rfl, rfl⟩

theorem Balanced.recorded (h : stats.Balanced) (now : Int) (r : Reading) :
    (stats.recorded now r).Balanced := by
  unfold InstanceStats.recorded
  cases r.request with
  | none => exact ⟨h.requests, h.errors⟩
  | some request =>
    obtain ⟨code, ms⟩ := request
    constructor
    · simp only [Dict.total_bump, ite_true, h.requests]
    · simp only [Dict.total_bump, isErrorText_toString, decide_eq_true_eq, ← h.errors]
      split <;> rfl

theorem levelCount_recorded : (stats.recorded now r).levelCount = stats.levelCount + 1 := by
  have hlevels : (stats.recorded now r).levels = stats.levels.bump r.level := by
    unfold InstanceStats.recorded
    cases r.request with
    | none => rfl
    | some request => rfl
  unfold levelCount
  rw [hlevels, Dict.total_bump]
  simp

end InstanceStats

namespace StatsCache

theorem Ledger.new (maxEntries : Nat) : (new maxEntries).Ledger := by
  constructor
  · intro id stats h
    simp [StatsCache.new] at h
  · rfl

theorem Ledger.clear (cache : StatsCache) : cache.clear.Ledger := by
  constructor
  · intro id stats h
    simp [StatsCache.clear] at h
  · rfl

theorem Ledger.applied {cache : StatsCache} (h : cache.Ledger) (now : Int) (fields : JsonObject)
    (r : Reading) : (cache.applied now fields r).Ledger := by
  have hfor : (cache.statsFor now fields).Balanced ∧ (cache.statsFor now fields).levelCount =
      (cache.stats.get (instanceIdText fields)).elim 0 fun stats => stats.levelCount := by
    unfold statsFor
    cases hget : cache.stats.get (instanceIdText fields) with
    | none => exact ⟨.new now, rfl⟩
    | some stats => exact ⟨h.instances _ stats hget, rfl⟩
  constructor
  · intro id stats hget
    unfold StatsCache.applied at hget
    simp only [Dict.get_set] at hget
    split at hget
    · cases hget
      exact hfor.1.recorded now r
    · exact h.instances id stats hget
  · have hsum :=
      Dict.sumOver_set cache.stats (fun _ stats => stats.levelCount) (instanceIdText fields)
      ((cache.statsFor now fields).recorded now r)
    have hcount : (cache.applied now fields r).totalIngested = cache.totalIngested + 1 := rfl
    have hlevels := h.levels
    rw [hcount]
    simp only [InstanceStats.levelCount_recorded, hfor.2] at hsum
    unfold StatsCache.applied
    simp only
    omega

end StatsCache

/-! ## Runs -/

inductive StatsCall
  | add (now : Int) (fields : JsonObject)
  | clear

/-- The cache after a call, whether or not it raised. -/
def StatsCall.run (cache : StatsCache) : StatsCall → StatsCache
  | .add now fields => (cache.add now (.obj fields)).1
  | .clear => cache.clear

def runCalls (calls : List StatsCall) (cache : StatsCache) : StatsCache :=
  calls.foldl StatsCall.run cache

/-- In a run from a new cache every `add` is atomic, and every state reached is a ledger. -/
structure LedgerRun (maxEntries : Nat) (calls : List StatsCall) : Prop where
  atomic : ∀ before now fields after, calls = before ++ .add now fields :: after →
    (runCalls before (.new maxEntries)).Atomic now fields
  ledger : ∀ before after, calls = before ++ after → (runCalls before (.new maxEntries)).Ledger

theorem runCalls_ledger {calls : List StatsCall} {cache : StatsCache} (hcache : cache.Ledger)
    (h : ∀ now fields, .add now fields ∈ calls → Readable fields) :
    (runCalls calls cache).Ledger := by
  induction calls generalizing cache with
  | nil => exact hcache
  | cons call calls ih =>
    have hrest := fun now fields hmem => h now fields (List.mem_cons_of_mem call hmem)
    cases call with
    | add now fields =>
      obtain ⟨r, hr⟩ := h now fields List.mem_cons_self
      have hledger : (cache.add now (.obj fields)).1.Ledger := by
        rw [StatsCache.add_of_reading hr]
        exact hcache.applied now fields r
      exact ih hledger hrest
    | clear => exact ih (StatsCache.Ledger.clear cache) hrest

/-- **`add` is atomic and the statistics stay a ledger** in exactly the runs all of whose entries
can be read. -/
theorem ledgerRun_iff (maxEntries : Nat) (calls : List StatsCall) :
    LedgerRun maxEntries calls ↔ ∀ now fields, .add now fields ∈ calls → Readable fields := by
  constructor
  · intro h now fields hmem
    obtain ⟨before, after, hcalls⟩ := List.append_of_mem hmem
    exact StatsCache.atomic_iff.1 (h.atomic before now fields after hcalls)
  · intro h
    constructor
    · intro before now fields after hcalls
      refine StatsCache.atomic_iff.2 (h now fields ?_)
      rw [hcalls]
      simp
    · intro before after hcalls
      refine runCalls_ledger (.new maxEntries) fun now fields hmem => h now fields ?_
      rw [hcalls]
      exact List.mem_append_left after hmem

/-- A status code that is null: the request is counted, and no status code is. -/
theorem null_status_unbalanced :
    ¬ LedgerRun 1000 [.add 0 [("status_code", .null)]] ∧
      ¬ (runCalls [.add 0 [("status_code", .null)]] (.new 1000)).Ledger := by
  have hledger : ¬ (runCalls [.add 0 [("status_code", .null)]] (.new 1000)).Ledger := by
    intro h
    have hrequests := (h.instances "unknown" _ rfl).requests
    exact absurd hrequests (by decide)
  exact ⟨fun h => hledger (h.ledger _ [] rfl), hledger⟩

end PeHackathon.Dashboard
