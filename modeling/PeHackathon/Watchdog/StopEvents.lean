import PeHackathon.Lib.Stretch
import PeHackathon.Watchdog.Rules
import PeHackathon.Watchdog.SequentialTicks

/-!
# Stop events

A tick reports that a service stopped when the row before looked like a live deployment and the row
now does not. `stops_exact`: in a run of ticks these reports are the ends of the stretches of active
rows exactly when no row is active in one of three statuses (`statusMissed`) right before a stopped
one, and none is active and stopped at once right after a live one. `removing` is a service that is
stopped through such a status.
-/

namespace PeHackathon.Watchdog

open Lib Js

/-! ## The reports of a run -/

/-- The text without the digits at its end. -/
def cutDigits (s : String) : List Char := (s.toList.reverse.dropWhile Char.isDigit).reverse

/-- The event is the report that `sid` stopped. -/
def WatchdogEvent.stops (sid : String) (event : WatchdogEvent) : Bool :=
  event.kind = .railwayStopped && cutDigits event.id = (sid ++ "-stopped-").toList

/-- The reports that `sid` stopped. -/
def stopsIn (sid : String) (events : List WatchdogEvent) : Nat := events.countP (·.stops sid)

/-- The reports of a run. -/
def stopEvents (sid : String) : List TickRecord → Nat
  | [] => 0
  | r :: recs => stopsIn sid r.payload.events + stopEvents sid recs

theorem WatchdogEvent.StopOf.stops_iff {sid sid' : String} {event : WatchdogEvent}
    (h : event.StopOf sid') : event.stops sid = true ↔ sid' = sid := by
  obtain ⟨hkind, time, hid⟩ := h
  have hdigits : ∀ c ∈ (toString time).toList, c.isDigit = true := by
    intro c hc
    rw [Nat.toString_eq_repr, Nat.toList_repr] at hc
    exact Nat.isDigit_of_mem_toDigits (by decide) (by decide) hc
  have hcut : cutDigits event.id = (sid' ++ "-stopped-").toList := by
    have htext : event.id.toList = (sid' ++ "-stopped-").toList ++ (toString time).toList := by
      rw [hid]
      exact String.toList_append
    rw [cutDigits, htext, List.reverse_append,
      List.dropWhile_append_of_pos (fun c hc => hdigits c (List.mem_reverse.1 hc))]
    simp [String.toList_append, Char.isDigit]
  rw [stops, hkind, hcut]
  simp [String.toList_append, String.toList_inj]

theorem stopsIn_append (sid : String) (l l' : List WatchdogEvent) :
    stopsIn sid (l ++ l') = stopsIn sid l + stopsIn sid l' := List.countP_append

theorem Grown.stopsIn {a b : TickTotals} (h : Grown a b) (sid : String) :
    stopsIn sid b.events = stopsIn sid a.events := by
  obtain ⟨events, he, hkinds⟩ := h
  have hnone : Watchdog.stopsIn sid events = 0 := by
    refine List.countP_eq_zero.2 fun ev hev => ?_
    simp [WatchdogEvent.stops, hkinds ev hev]
  rw [he, stopsIn_append, hnone, Nat.add_zero]

theorem Stopped.stopsIn {row : RailwayVisibilityRow} {before : Option WatchdogPrevEntry}
    {a b : TickTotals} (h : Stopped row before a b) (sid : String) :
    stopsIn sid b.events = stopsIn sid a.events +
      if row.railwayServiceId = sid ∧ stopsNow row before then 1 else 0 := by
  unfold Stopped at h
  by_cases hnow : stopsNow row before = true
  · rw [if_pos hnow] at h
    obtain ⟨event, he, hstop⟩ := h
    rw [he, stopsIn_append, Watchdog.stopsIn, Watchdog.stopsIn, List.countP_singleton]
    simp only [hstop.stops_iff, hnow, and_true]
  · rw [if_neg hnow] at h
    simp [h, hnow]

/-- The reports of one row. -/
theorem RowDone.stopsIn {t : TickLocals} {row : RailwayVisibilityRow} {w₀ w : World}
    {totals after : TickTotals} (h : RowDone t row w₀ totals after w) (sid : String) :
    stopsIn sid after.events = stopsIn sid totals.events +
      if row.railwayServiceId = sid ∧ stopsNow row (w₀.state.prev.get row.railwayServiceId) then 1
      else 0 := by
  obtain ⟨a, b, hgrown, hstopped, hgrown'⟩ := h.events
  rw [hgrown'.stopsIn, hstopped.stopsIn, hgrown.stopsIn]

/-! ## Row by row -/

/-- The reports over the rows of a service, the first of which follows `before`. -/
def stopsAlong (before : Option WatchdogPrevEntry) : List RailwayVisibilityRow → Nat
  | [] => 0
  | row :: rows => (if stopsNow row before then 1 else 0) + stopsAlong (some row.prevEntry) rows

/-- The entry that the rows of a service leave. -/
def entryAfter (before : Option WatchdogPrevEntry) :
    List RailwayVisibilityRow → Option WatchdogPrevEntry
  | [] => before
  | row :: rows => entryAfter (some row.prevEntry) rows

theorem stopsAlong_append (before : Option WatchdogPrevEntry) (l l' : List RailwayVisibilityRow) :
    stopsAlong before (l ++ l') = stopsAlong before l + stopsAlong (entryAfter before l) l' := by
  induction l generalizing before with
  | nil => simp [stopsAlong, entryAfter]
  | cons row l ih =>
    rw [List.cons_append, stopsAlong, stopsAlong, entryAfter, ih, Nat.add_assoc]

theorem entryAfter_append (before : Option WatchdogPrevEntry) (l l' : List RailwayVisibilityRow) :
    entryAfter before (l ++ l') = entryAfter (entryAfter before l) l' := by
  induction l generalizing before with
  | nil => rfl
  | cons row l ih => exact ih (some row.prevEntry)

/-- The loop over the rows, for one service. -/
theorem loop_stops {t : TickLocals} {rows : List RailwayVisibilityRow} {totals totals' : TickTotals}
    {w w' : World} (sid : String)
    (h : solo.Runs () (rows.foldlM (fun totals row => processRow t row totals) totals)
      w totals' w') :
    w'.state.prev.get sid = entryAfter (w.state.prev.get sid) (rowsOf sid rows) ∧
      stopsIn sid totals'.events =
        stopsIn sid totals.events + stopsAlong (w.state.prev.get sid) (rowsOf sid rows) := by
  have hloop :=
    Server.Triple.foldlM (S := solo) (i := ()) (g := fun totals row => processRow t row totals)
    (J := fun done totals₁ w₁ =>
      w₁.state.prev.get sid = entryAfter (w.state.prev.get sid) (rowsOf sid done) ∧
        stopsIn sid totals₁.events =
          stopsIn sid totals.events + stopsAlong (w.state.prev.get sid) (rowsOf sid done))
            rows ?_ totals
  · exact hloop w totals' w' ⟨rfl, rfl⟩ h
  · rintro done row rest b - w₁ a w₂ ⟨hprev, hstops⟩ hrun
    have hrow := processRow_done w₁ a w₂ rfl hrun
    rw [rowsOf_append_one, entryAfter_append, stopsAlong_append, hrow.stopsIn, hstops, hrow.prev,
      Dict.get_set]
    by_cases hsid : row.railwayServiceId = sid
    · subst hsid
      simp only [if_true, true_and, hprev]
      exact ⟨rfl, by rw [Nat.add_assoc]; rfl⟩
    · simp [hsid, Ne.symm hsid, hprev, entryAfter, stopsAlong]

/-- The rows of a service in a run. -/
def observations (sid : String) (recs : List TickRecord) : List RailwayVisibilityRow :=
  recs.flatMap (TickRecord.observations sid)

theorem observations_cons (sid : String) (r : TickRecord) (recs : List TickRecord) :
    observations sid (r :: recs) = r.observations sid ++ observations sid recs := List.flatMap_cons

/-- The pruning keeps the entries of the services that are there. -/
theorem forgetGone_prev {rows : List RailwayVisibilityRow} {s : WatchdogPersistentState}
    {sid : String} (h : sid ∈ rows.map (·.railwayServiceId)) :
    (forgetGone rows s).prev.get sid = s.prev.get sid := by
  have hget := s.prev.get_deleteAll_filter (· ∈ rows.map (·.railwayServiceId)) sid
  simp only [forgetGone, decide_not] at hget ⊢
  rw [hget, if_pos (by simpa using h)]

/-- One tick, for a service that is there. -/
theorem TickRecord.Ran.stops {r : TickRecord} (h : r.Ran) (hok : r.rows.errorText = none)
    {sid : String} (hsid : sid ∈ r.ids) (hfew : r.payload.events.length < 30) :
    r.after.state.prev.get sid = entryAfter (r.before.state.prev.get sid) (r.observations sid) ∧
      stopsIn sid r.payload.events = stopsAlong (r.before.state.prev.get sid)
        (r.observations sid) := by
  obtain ⟨time, ⟨herror, -⟩ | ⟨-, now, w, totals, w', hpoll, hloop, hevents, hend⟩⟩ := h.cases
  · exact absurd hok herror
  · obtain ⟨hprev, hstops⟩ := loop_stops sid hloop
    have hw : w.state.prev.get sid = r.before.state.prev.get sid :=
      (WatchdogPersistentState.entries_eq_iff.1 (hpoll.entries sid)).1
    have hall : r.payload.events = totals.events := by
      rw [hevents, List.length_take] at hfew
      rw [hevents, List.take_of_length_le (by omega)]
    rw [hw] at hprev hstops
    refine ⟨?_, ?_⟩
    · rw [(WatchdogPersistentState.entries_eq_iff.1 (hend.entries sid)).1]
      exact (forgetGone_prev hsid).trans hprev
    · rw [hall, hstops]
      exact Nat.zero_add _

/-- A run, for a service that is always there. -/
theorem Sequential.stops {recs : List TickRecord} {w w' : World} (h : Sequential w recs w')
    {sid : String} (hok : ∀ r ∈ recs, r.rows.errorText = none) (hsid : ∀ r ∈ recs, sid ∈ r.ids)
    (hfew : ∀ r ∈ recs, r.payload.events.length < 30) :
    stopEvents sid recs = stopsAlong (w.state.prev.get sid) (observations sid recs) := by
  induction h with
  | nil w => rfl
  | @cons r recs w hr _ ih =>
    obtain ⟨hprev, hstops⟩ := hr.stops (hok r List.mem_cons_self) (hsid r List.mem_cons_self)
      (hfew r List.mem_cons_self)
    have hrest := ih (fun r hr => hok r (List.mem_cons_of_mem _ hr))
      (fun r hr => hsid r (List.mem_cons_of_mem _ hr)) fun r hr =>
        hfew r (List.mem_cons_of_mem _ hr)
    rw [stopEvents, hstops, hrest, hprev, observations_cons, stopsAlong_append]

/-- Every front part of a run is a run. -/
theorem Sequential.take {recs : List TickRecord} {w w' : World} (h : Sequential w recs w')
    (k : Nat) :
    ∃ w₁, Sequential w (recs.take k) w₁ := by
  induction h generalizing k with
  | nil w => exact ⟨w, by rw [List.take_nil]; exact .nil w⟩
  | cons hr _ ih =>
    cases k with
    | zero => exact ⟨_, .nil _⟩
    | succ k =>
      obtain ⟨w₁, h₁⟩ := ih k
      exact ⟨w₁, .cons hr h₁⟩

/-! ## What a stop is -/

namespace RailwayVisibilityRow

variable (row : RailwayVisibilityRow)

/-- The row has a deployment that Railway shows as online or deploying. -/
def active : Bool :=
  trim row.depId != "" && deploymentStatusToRailwayUi row.deploymentStatus true ∈
    [.online, .deploying]

/-- Shown as deploying, but neither `isDeploying` nor `isHealthy`. -/
def statusMissed : Bool :=
  toUpperCase (trim (row.deploymentStatus.getD "")) ∈ ["NEEDS_APPROVAL", "REMOVING", "THROTTLED"]

/-- The statuses that are shown as online or deploying. -/
theorem shown_iff {status : Option String} {s : String}
    (hs : toUpperCase (trim (status.getD "")) = s) :
    deploymentStatusToRailwayUi status true ∈ [.online, .deploying] ↔
      s ∈ ["SUCCESS", "SLEEPING"] ∨
        s ∈ ["BUILDING", "DEPLOYING", "INITIALIZING", "QUEUED", "WAITING"] ∨
        s ∈ ["NEEDS_APPROVAL", "REMOVING", "THROTTLED"] := by
  unfold deploymentStatusToRailwayUi
  rw [hs, if_neg (by decide)]
  clear hs
  dsimp only
  constructor
  · intro h
    by_contra hn
    simp only [not_or] at hn
    obtain ⟨hlive, hrolling, hmissed⟩ := hn
    have hdeploying : s ∉ ["BUILDING", "DEPLOYING", "INITIALIZING", "NEEDS_APPROVAL", "QUEUED",
        "WAITING", "REMOVING", "THROTTLED"] := by
      intro hs
      simp only [List.mem_cons, List.not_mem_nil, or_false] at hs
      rcases hs with rfl | rfl | rfl | rfl | rfl | rfl | rfl | rfl <;>
        first | exact hrolling (by decide) | exact hmissed (by decide)
    rw [if_neg hlive, if_neg hdeploying] at h
    by_cases h₁ : s = "" ∨ s = "UNKNOWN"
    · rw [if_pos h₁] at h
      exact absurd h (by decide)
    by_cases h₂ : s ∈ ["FAILED", "CRASHED"]
    · rw [if_neg h₁, if_pos h₂] at h
      exact absurd h (by decide)
    by_cases h₃ : s ∈ ["REMOVED", "STOPPED", "CANCELED", "CANCELLED"]
    · rw [if_neg h₁, if_neg h₂, if_pos h₃] at h
      exact absurd h (by decide)
    rw [if_neg h₁, if_neg h₂, if_neg h₃] at h
    by_cases h₄ : s = "SKIPPED"
    · rw [if_pos h₄] at h
      exact absurd h (by decide)
    · rw [if_neg h₄] at h
      exact absurd h (by decide)
  · intro h
    simp only [List.mem_cons, List.not_mem_nil, or_false] at h
    rcases h with (rfl | rfl) | (rfl | rfl | rfl | rfl | rfl) | rfl | rfl | rfl <;> decide

/-- A row looks like a live deployment if it is active in a status that is not missed. -/
theorem wasActivelyDeployed_iff :
    wasActivelyDeployed row.prevEntry = true ↔ row.active = true ∧ row.statusMissed = false := by
  unfold wasActivelyDeployed active statusMissed isHealthy isDeploying prevEntry cur
  cases row.deploymentStatus with
  | none =>
    have hui : deploymentStatusToRailwayUi none true = .unknown := by decide
    have hcur : toUpperCase (trim "UNKNOWN") = "UNKNOWN" := by decide
    simp [hui, hcur]
  | some status =>
    have hshown := shown_iff (rfl : toUpperCase (trim ((some status).getD "")) = _)
    simp only [Option.getD_some, Bool.and_eq_true, Bool.or_eq_true, decide_eq_true_eq,
      decide_eq_false_iff_not, hshown]
    generalize toUpperCase (trim status) = s
    constructor
    · rintro ⟨hdep, hlive⟩
      refine ⟨⟨hdep, hlive.imp_right .inl⟩, fun hmissed => ?_⟩
      simp only [List.mem_cons, List.not_mem_nil, or_false] at hmissed
      rcases hmissed with rfl | rfl | rfl <;> exact absurd hlive (by decide)
    · rintro ⟨⟨hdep, hlive | hrolling | hmissed⟩, hn⟩
      · exact ⟨hdep, .inl hlive⟩
      · exact ⟨hdep, .inr hrolling⟩
      · exact absurd hmissed hn

end RailwayVisibilityRow

/-- The tick of `b` reports that the service stopped, where the tick of `a` came before. -/
def reported (a b : RailwayVisibilityRow) : Bool := stopsNow b (some a.prevEntry)

theorem stopsAlong_some (a : RailwayVisibilityRow) (l : List RailwayVisibilityRow) :
    stopsAlong (some a.prevEntry) l = pairs reported (a :: l) := by
  induction l generalizing a with
  | nil => rfl
  | cons b l ih => rw [stopsAlong, ih, pairs, reported]

theorem stopsAlong_none (l : List RailwayVisibilityRow) : stopsAlong none l = pairs reported l := by
  cases l with
  | nil => rfl
  | cons a l =>
    rw [stopsAlong, stopsAlong_some]
    exact Nat.zero_add _

/-- No row is active in a missed status right before a stopped one, and none is active and stopped
right after a live one. -/
def StopsSeen (rows : List RailwayVisibilityRow) : Prop :=
  rows.IsChain fun a b =>
    ¬ (a.active = true ∧ a.statusMissed = true ∧ isNowStoppedOrNoDeployment b = true ∧
      b.active = false) ∧
    ¬ (a.active = true ∧ a.statusMissed = false ∧ isNowStoppedOrNoDeployment b = true ∧
      b.active = true)

instance (rows : List RailwayVisibilityRow) : Decidable (StopsSeen rows) :=
  inferInstanceAs (Decidable (List.IsChain _ rows))

theorem stopsSeen_iff {rows : List RailwayVisibilityRow} : StopsSeen rows ↔
    rows.IsChain fun a b =>
      reported a b = turns RailwayVisibilityRow.active isNowStoppedOrNoDeployment a b := by
  refine iff_of_eq (congrArg (List.IsChain · rows) (funext₂ fun a b => propext ?_))
  have hlive : wasActivelyDeployed a.prevEntry = (a.active && !a.statusMissed) := by
    rw [Bool.eq_iff_iff, a.wasActivelyDeployed_iff]
    simp
  have hreported :
      reported a b = (a.active && !a.statusMissed && isNowStoppedOrNoDeployment b) := by
    rw [← hlive]
    rfl
  rw [hreported, turns]
  cases a.active <;> cases a.statusMissed <;> cases isNowStoppedOrNoDeployment b <;>
    cases b.active <;> simp

/-- In every front part of the run, the reports are as many as the stretches of active rows that a
stopped one follows. -/
def StopsExact (sid : String) (recs : List TickRecord) : Prop :=
  ∀ k, stopEvents sid (recs.take k) =
    stretchesBefore RailwayVisibilityRow.active isNowStoppedOrNoDeployment
      (observations sid (recs.take k))

/-- Where each tick has one row of the service, the front parts of the run are those of its rows. -/
theorem observations_take {sid : String} {recs : List TickRecord}
    (h : ∀ r ∈ recs, (r.observations sid).length = 1) (k : Nat) :
    observations sid (recs.take k) = (observations sid recs).take k := by
  induction recs generalizing k with
  | nil => simp [observations]
  | cons r recs ih =>
    cases k with
    | zero => rfl
    | succ k =>
      obtain ⟨row, hrow⟩ := List.length_eq_one_iff.1 (h r List.mem_cons_self)
      rw [List.take_succ_cons, observations_cons, observations_cons, hrow,
        ih fun r hr => h r (List.mem_cons_of_mem _ hr)]
      rfl

/-- **Stop events are exact** in a run without a failed poll, for a service that is always there,
and fewer than 30 events a tick, if its stops are seen; and only then, if each poll has one row of
it. -/
theorem stops_exact {recs : List TickRecord} {w : World} (h : Sequential .start recs w)
    {sid : String} (hok : ∀ r ∈ recs, r.rows.errorText = none) (hsid : ∀ r ∈ recs, sid ∈ r.ids)
    (hfew : ∀ r ∈ recs, r.payload.events.length < 30) :
    (StopsSeen (observations sid recs) → StopsExact sid recs) ∧
      ((∀ r ∈ recs, (r.observations sid).length = 1) → StopsExact sid recs →
        StopsSeen (observations sid recs)) := by
  have hevents :
      ∀ k, stopEvents sid (recs.take k) = pairs reported (observations sid (recs.take k)) := by
    intro k
    obtain ⟨w₁, hk⟩ := h.take k
    rw [hk.stops (fun r hr => hok r (List.mem_of_mem_take hr))
      (fun r hr => hsid r (List.mem_of_mem_take hr)) fun r hr => hfew r (List.mem_of_mem_take hr)]
    exact stopsAlong_none _
  unfold StopsExact
  simp only [hevents, stretchesBefore_eq, stopsSeen_iff]
  constructor
  · intro hseen k
    have hfront : observations sid recs =
        observations sid (recs.take k) ++ observations sid (recs.drop k) := by
      rw [observations, observations, observations, ← List.flatMap_append, List.take_append_drop]
    rw [hfront] at hseen
    have hall := pairs_take_iff.2 hseen.left_of_append (observations sid (recs.take k)).length
    rwa [List.take_length] at hall
  · intro hone hexact
    refine pairs_take_iff.1 fun k => ?_
    rw [← observations_take hone]
    exact hexact k

/-- Polls that list the service in these statuses. -/
def statusPolls (statuses : List String) : List Choice :=
  statuses.map fun status => sampleChoice 10 [sampleRow status "d1"] true none

/-- A deployment that is up and then stopped. -/
theorem stops_exact_sample :
    StopsExact "svc" (replay sampleEnv (statusPolls ["SUCCESS", "STOPPED"]) .start) :=
  (stops_exact (sequential_replay sampleEnv (statusPolls ["SUCCESS", "STOPPED"]) .start)
    (by decide +kernel) (by decide +kernel) (by decide +kernel)).1 (by decide +kernel)

/-- In every run without a failed poll and with fewer than 30 events a tick, the stop events of a
service that is always there are exact. -/
def StopsAlwaysExact : Prop :=
  ∀ (recs : List TickRecord) (w : World) (sid : String), Sequential .start recs w →
    (∀ r ∈ recs, r.rows.errorText = none) → (∀ r ∈ recs, sid ∈ r.ids) →
    (∀ r ∈ recs, r.payload.events.length < 30) → StopsExact sid recs

/-- A deployment that is up and is then removed. -/
def removing : List Choice := statusPolls ["SUCCESS", "REMOVING", "REMOVED"]

/-- **A stop that is not seen**: the deployment is `REMOVING` for a tick. -/
theorem stops_not_exact : ¬ StopsAlwaysExact := by
  intro h
  have hexact := h _ _ "svc" (sequential_replay sampleEnv removing .start) (by decide +kernel)
    (by decide +kernel) (by decide +kernel) 3
  exact absurd hexact (by decide +kernel)

end PeHackathon.Watchdog
