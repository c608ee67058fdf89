import PeHackathon.Lib.Distinct
import PeHackathon.Watchdog.RowPairs
import PeHackathon.Watchdog.Rules

/-!
# Services do not influence each other

`taggedTick` is `runRailwayWatchdogTick` with its events before the cut, each with the service whose
row pushed it. `TickOutcome.of k` is what a tick under a script does for one service, and
`outcome_of` says what it depends on: the row of that service, what it had before, and its own part
of the script. `services_independent` draws the consequences for the order of the rows and for the
other services.
-/

namespace PeHackathon.Watchdog

open Lib

/-! ## Events before the cut -/

/-- A row, its events set apart. -/
def taggedRow (t : TickLocals) (acc : TickTotals × List (String × WatchdogEvent))
    (row : RailwayVisibilityRow) : Tick (TickTotals × List (String × WatchdogEvent)) := do
  let totals ← processRow t row acc.1
  return (totals, acc.2 ++ (totals.events.drop acc.1.events.length).map (row.railwayServiceId, ·))

def taggedTick (env : Environment) : Tick (WatchdogPayload × List (String × WatchdogEvent)) := do
  let rows ← pollRows
  match rows.errorText with
  | some error =>
    let payload ← failTick env error
    return (payload, [])
  | none =>
    let now ← isoNow
    let acc ← rows.containers.foldlM (taggedRow (TickLocals.of env now)) (TickTotals.zero, [])
    let payload ← finishTick env now rows.containers acc.1
    return (payload, acc.2)

theorem foldlM_taggedRow (t : TickLocals) (rows : List RailwayVisibilityRow)
    (acc : TickTotals × List (String × WatchdogEvent)) {α : Type} (f : TickTotals → Tick α) :
    (rows.foldlM (taggedRow t) acc >>= fun acc => f acc.1) =
      rows.foldlM (fun totals row => processRow t row totals) acc.1 >>= f := by
  induction rows generalizing acc with
  | nil => rfl
  | cons row rows ih =>
    simp only [List.foldlM_cons, bind_assoc, ih, taggedRow, pure_bind]

/-- `taggedTick` is the tick. -/
theorem taggedTick_fst (env : Environment) :
    (taggedTick env >>= fun out => pure out.1) = runRailwayWatchdogTick env := by
  unfold taggedTick runRailwayWatchdogTick
  rw [bind_assoc]
  refine congrArg (pollRows >>= ·) (funext fun rows => ?_)
  cases rows.errorText with
  | some error => exact (bind_assoc ..).trans (bind_pure _)
  | none =>
    simp only [bind_assoc, pure_bind, bind_pure]
    refine congrArg (isoNow >>= ·) (funext fun now => ?_)
    exact foldlM_taggedRow (.of env now) rows.containers (.zero, [])
      (finishTick env now rows.containers)

/-! ## Outcomes -/

def MarkKind.attempt? : MarkKind → Option (DeploySite × String)
  | .attempt site serviceId => some (site, serviceId)
  | _ => none

/-- The deploy calls of a history, oldest first. -/
def deploysIn (trace : List Mark) : List (DeploySite × String) :=
  trace.reverse.filterMap (·.kind.attempt?)

structure TickOutcome where
  payload : WatchdogPayload
  state : WatchdogPersistentState
  deploys : List (DeploySite × String)
  events : List (String × WatchdogEvent)

/-- What a tick does for one service. -/
structure ServiceOutcome where
  entries : ServiceEntries HeartbeatRecoverState
  deploys : List (DeploySite × String)
  events : List (String × WatchdogEvent)
  deriving DecidableEq, Repr

def TickOutcome.of (out : TickOutcome) (k : String) : ServiceOutcome where
  entries := out.state.slice k
  deploys := out.deploys.filter (·.2 = k)
  events := out.events.filter (·.1 = k)

namespace Script

/-- A tick begins. -/
def start (script : Script) (s : WatchdogPersistentState) : Scripted where
  script := script
  world := { state := s, clock := 0, trace := [] }
  service := none
  calls := 0

def outcome (script : Script) (env : Environment) (s : WatchdogPersistentState) : TickOutcome :=
  let run := play (taggedTick env) (script.start s)
  { payload := run.1.1
    state := run.2.world.state
    deploys := deploysIn run.2.world.trace
    events := run.1.2 }

end Script

theorem deploysIn_cons (mark : Mark) (trace : List Mark) :
    deploysIn (mark :: trace) = deploysIn trace ++ mark.kind.attempt?.toList := by
  unfold deploysIn
  rw [List.reverse_cons, List.filterMap_append]
  cases h : mark.kind.attempt? <;> simp [h]

theorem deploysIn_filter (k : String) (trace : List Mark) :
    (deploysIn trace).filter (·.2 = k) = deploysIn (marksOf k trace) := by
  induction trace with
  | nil => rfl
  | cons mark trace ih =>
    rw [deploysIn_cons, List.filter_append, ih]
    by_cases hk : mark.kind.service? = some k
    · have hmarks : marksOf k (mark :: trace) = mark :: marksOf k trace := by simp [marksOf, hk]
      rw [hmarks, deploysIn_cons]
      cases h : mark.kind <;> simp_all [MarkKind.attempt?, MarkKind.service?]
    · have hmarks : marksOf k (mark :: trace) = marksOf k trace := by simp [marksOf, hk]
      rw [hmarks]
      cases h : mark.kind <;> simp_all [MarkKind.attempt?, MarkKind.service?]

/-! ## Between the rows -/

section

variable {t : TickLocals} {row : RailwayVisibilityRow} {k : String} {w v : Scripted}

theorem play_taggedRow (acc : TickTotals × List (String × WatchdogEvent)) :
    play (taggedRow t acc row) w =
      (((play (processRow t row acc.1) w).1, acc.2 ++
        ((play (processRow t row acc.1) w).1.events.drop acc.1.events.length).map
          (row.railwayServiceId, ·)), (play (processRow t row acc.1) w).2) :=
  play_bind _ _ w

/-- The row of the service. -/
theorem View.row_self (h : View k w v) (totals totals' : TickTotals)
    (hk : row.railwayServiceId = k) :
    SameEvents totals totals' (play (processRow t row totals) w).1
      (play (processRow t row totals') v).1 ∧
      View k (play (processRow t row totals) w).2 (play (processRow t row totals') v).2 := by
  subst hk
  obtain ⟨hevents, hlike⟩ := play_twin pair_processRow h
  have hsep : ∀ {totals} {w : Scripted}, w.world.state.Separate →
      (play (processRow t row totals) w).2.world.state.Separate := by
    intro totals w hw
    obtain ⟨time, hframe⟩ := (processRow_done w.world _ _ rfl (play_runs _ w)).frame
    exact hframe.separate ⟨hw.lt, hw.eq⟩
  exact ⟨hevents, hlike.script, hlike.slice, hlike.marks, hsep h.left, hsep h.right⟩

/-- The row of another service. -/
theorem View.row_other (h : View k w v) (totals : TickTotals) (hk : row.railwayServiceId ≠ k) :
    View k (play (processRow t row totals) w).2 v := by
  refine View.trans ?_ h
  obtain ⟨time, hframe⟩ :=
    (processRow_done w.world _ _ rfl (play_runs (processRow t row totals) w)).frame
  have hsep : (w.world.mark time (.row t.env row)).state.Separate := ⟨h.left.lt, h.left.eq⟩
  refine ⟨by rw [play_script], ?_, ?_, hframe.separate hsep, h.left⟩
  · exact slice_of_entries (hframe.others k hk.symm) fun ref href =>
      hframe.object_other hsep hk.symm href
  · refine (hframe.trace.marksOf hk.symm).trans ?_
    refine (marksOf_append k [_] w.world.trace).trans ?_
    simp [marksOf, MarkKind.service?, hk]

/-- **The rows in lockstep**: for one service, all rows do what its own do. -/
theorem View.loop (h : View k w v) (rows : List RailwayVisibilityRow)
    (acc acc' : TickTotals × List (String × WatchdogEvent))
    (hacc : acc.2.filter (·.1 = k) = acc'.2.filter (·.1 = k)) :
    View k (play (rows.foldlM (taggedRow t) acc) w).2
        (play ((rowsOf k rows).foldlM (taggedRow t) acc') v).2 ∧
      (play (rows.foldlM (taggedRow t) acc) w).1.2.filter (·.1 = k) =
        (play ((rowsOf k rows).foldlM (taggedRow t) acc') v).1.2.filter (·.1 = k) := by
  induction rows generalizing acc acc' w v with
  | nil => exact ⟨h, hacc⟩
  | cons row rows ih =>
    rw [List.foldlM_cons, play_bind, play_taggedRow]
    by_cases hk : row.railwayServiceId = k
    · have hrows : rowsOf k (row :: rows) = row :: rowsOf k rows := by
        simp [rowsOf, hk]
      obtain ⟨⟨events, he, he'⟩, hview⟩ := h.row_self (t := t) acc.1 acc'.1 hk
      rw [hrows, List.foldlM_cons, play_bind, play_taggedRow, he, he', List.drop_left,
        List.drop_left]
      generalize play (processRow t row acc.1) w = x at hview
      generalize play (processRow t row acc'.1) v = y at hview
      exact ih hview _ _ (by simp only [List.filter_append, hacc])
    · have hrows : rowsOf k (row :: rows) = rowsOf k rows := by
        simp [rowsOf, hk]
      have hview := h.row_other (t := t) acc.1 hk
      rw [hrows]
      generalize play (processRow t row acc.1) w = x at hview
      refine ih hview _ _ ?_
      rw [← hacc, List.filter_append, List.filter_map]
      simp [Function.comp_def, hk]

end

/-! ## The tick -/

section

variable {env : Environment} {script script' : Script} {s : WatchdogPersistentState} {k : String}

namespace Script

/-- The poll is over, and the time of the tick is read. -/
def polled (script : Script) (s : WatchdogPersistentState) : Scripted :=
  (play isoNow (play pollRows (script.start s)).2).2

/-- The time of the tick. -/
def now (script : Script) : String := (script.poll 5).iso

/-- The rows of the tick, handled. -/
def looped (script : Script) (env : Environment) (s : WatchdogPersistentState) :
    (TickTotals × List (String × WatchdogEvent)) × Scripted :=
  play (script.rows.containers.foldlM (taggedRow (.of env script.now)) (.zero, []))
    (script.polled s)

theorem play_pollRows : (play pollRows (script.start s)).1 = script.rows := rfl

theorem play_isoNow : (play isoNow (play pollRows (script.start s)).2).1 = script.now := rfl

end Script

theorem LogsOnly.slice {w w' : World} (h : LogsOnly w w') (k : String) :
    w'.state.slice k = w.state.slice k := by
  rw [h.state]
  rfl

theorem polled_view (hsep : s.Separate) (hservice : script.service k = script'.service k) :
    View k (script.polled s) (script'.polled s) := by
  have hlogs : ∀ script : Script, ∃ time,
      LogsOnly ((script.start s).world.mark time (.fetched script.rows))
        (script.polled s).world := by
    intro script
    obtain ⟨time, hpoll⟩ := pollRows_ran (play_runs pollRows (script.start s))
    have hnow := LogsOnly.triple _ LogCall.isoNow.obeys _ _ _ (.refl _)
      (play_runs isoNow (play pollRows (script.start s)).2)
    exact ⟨time, hpoll.trans hnow.2⟩
  have hmarks : ∀ script : Script, marksOf k (script.polled s).world.trace = [] := by
    intro script
    obtain ⟨time, hscript⟩ := hlogs script
    rw [hscript.trace]
    rfl
  obtain ⟨time, hw⟩ := hlogs script
  obtain ⟨time', hv⟩ := hlogs script'
  refine ⟨hservice, (hw.slice k).trans (hv.slice k).symm, ?_, hw.separate hsep, hv.separate hsep⟩
  rw [hmarks, hmarks]

theorem play_taggedTick (h : script.rows.errorText = none) :
    play (taggedTick env) (script.start s) =
      (((play (finishTick env script.now script.rows.containers (script.looped env s).1.1)
          (script.looped env s).2).1, (script.looped env s).1.2),
        (play (finishTick env script.now script.rows.containers (script.looped env s).1.1)
          (script.looped env s).2).2) := by
  unfold taggedTick
  rw [play_bind, Script.play_pollRows]
  simp only [h]
  rw [play_bind, Script.play_isoNow, play_bind, play_bind]
  rfl

/-- A tick whose poll failed does nothing for the services. -/
theorem outcome_failed {error : String} (h : script.rows.errorText = some error) :
    (script.outcome env s).of k = ⟨s.slice k, [], []⟩ := by
  have hplay : play (taggedTick env) (script.start s) =
      (((play (failTick env error) (play pollRows (script.start s)).2).1, []),
        (play (failTick env error) (play pollRows (script.start s)).2).2) := by
    unfold taggedTick
    rw [play_bind, Script.play_pollRows]
    simp only [h]
    exact play_bind _ _ _
  obtain ⟨time, hpoll⟩ := pollRows_ran (play_runs pollRows (script.start s))
  have hlogs := hpoll.trans (failTick_ran (play_runs (failTick env error) _)).2
  unfold Script.outcome TickOutcome.of
  rw [hplay, deploysIn_filter, hlogs.slice, hlogs.trace]
  rfl

theorem slice_forgetGone {rows rows' : List RailwayVisibilityRow} {s s' : WatchdogPersistentState}
    (h : s.slice k = s'.slice k)
    (hids : k ∈ rows.map (·.railwayServiceId) ↔ k ∈ rows'.map (·.railwayServiceId)) :
    (forgetGone rows s).slice k = (forgetGone rows' s').slice k := by
  obtain ⟨hprev, hcool, hobject, hlast, hlife⟩ := slice_eq_iff.1 h
  have hget : ∀ {V : Type} (d : Dict String V) (rows : List RailwayVisibilityRow),
      (d.deleteAll (d.keys.filter (· ∉ rows.map (·.railwayServiceId)))).get k =
        if k ∈ rows.map (·.railwayServiceId) then d.get k else none := by
    intro V d rows
    have h := d.get_deleteAll_filter (fun k => decide (k ∈ rows.map (·.railwayServiceId))) k
    simpa only [decide_not, decide_eq_true_eq] using h
  unfold forgetGone
  refine slice_eq_iff.2 ⟨?_, hcool, ?_, ?_, hlife⟩
  · simp only [hget, hids, hprev]
  · simp only [hget, hids]
    split
    · exact hobject
    · rfl
  · simp only [hget, hids, hlast]

/-- **One service**: what a tick does for it depends on its row, on what it had, and on its part of
the script. -/
theorem outcome_of (hsep : s.Separate) (hpoll : script.poll = script'.poll)
    (herror : script.rows.error = script'.rows.error)
    (hservice : script.service k = script'.service k)
    (hrows : rowsOf k script.rows.containers = rowsOf k script'.rows.containers) :
    (script.outcome env s).of k = (script'.outcome env s).of k := by
  have htext : script.rows.errorText = script'.rows.errorText := by
    unfold VisibilityResult.errorText
    rw [herror]
  cases herr : script.rows.errorText with
  | some error =>
    rw [outcome_failed herr, outcome_failed (htext ▸ herr)]
  | none =>
    have hids : ∀ rows : List RailwayVisibilityRow,
        k ∈ rows.map (·.railwayServiceId) ↔ rowsOf k rows ≠ [] := by
      intro rows
      simp [rowsOf, List.filter_eq_nil_iff]
    have hnow : script.now = script'.now := by
      unfold Script.now
      rw [hpoll]
    -- either loop does what the row of the service alone does
    have hview : View k (script.looped env s).2 (script'.looped env s).2 ∧
        (script.looped env s).1.2.filter (·.1 = k) = (script'.looped env s).1.2.filter
          (·.1 = k) := by
      have hleft :=
        (polled_view hsep hservice).loop (t := .of env script.now) script.rows.containers
        (.zero, []) (.zero, []) rfl
      have hright :=
        (polled_view hsep (rfl : script'.service k = _)).loop (t := .of env script'.now)
        script'.rows.containers (.zero, []) (.zero, []) rfl
      rw [hrows, hnow] at hleft
      unfold Script.looped
      rw [hnow]
      exact ⟨hleft.1.trans hright.1.symm, hleft.2.trans hright.2.symm⟩
    have hout : ∀ {script : Script}, script.rows.errorText = none → ∃ w',
        LogsOnly ((script.looped env s).2.world.setState
          (forgetGone script.rows.containers (script.looped env s).2.world.state)) w' ∧
        (script.outcome env s).of k = ⟨w'.state.slice k, deploysIn (marksOf k w'.trace),
          (script.looped env s).1.2.filter (·.1 = k)⟩ := by
      intro script herr
      refine ⟨_, (finishTick_ran (play_runs (finishTick env script.now script.rows.containers
        (script.looped env s).1.1) (script.looped env s).2)).2, ?_⟩
      unfold Script.outcome TickOutcome.of
      rw [play_taggedTick herr, deploysIn_filter]
    obtain ⟨w, hw, heq⟩ := hout herr
    obtain ⟨v, hv, heq'⟩ := hout (htext ▸ herr)
    rw [heq, heq', hw.slice, hv.slice, hw.trace, hv.trace, hview.2]
    have hslice := slice_forgetGone hview.1.slice
      ((hids script.rows.containers).trans (hrows ▸ (hids script'.rows.containers).symm))
    have hmarks := hview.1.marks
    exact congr_arg₂ (fun entries marks => (⟨entries, deploysIn marks, _⟩ : ServiceOutcome))
      hslice hmarks

/-! ## The cut -/

theorem RowDone.events_extend {t : TickLocals} {row : RailwayVisibilityRow} {w₀ w : World}
    {totals after : TickTotals} (h : RowDone t row w₀ totals after w) :
    totals.events <+: after.events := by
  obtain ⟨a, b, ⟨ea, ha, -⟩, hstop, ⟨eb, hb, -⟩⟩ := h.events
  have hab : a.events <+: b.events := by
    unfold Stopped at hstop
    split at hstop
    · obtain ⟨event, he, -⟩ := hstop
      exact ⟨[event], he.symm⟩
    · exact hstop ▸ List.prefix_rfl
  exact List.IsPrefix.trans ⟨ea, ha.symm⟩ (hab.trans ⟨eb, hb.symm⟩)

/-- The events set apart are those of the totals. -/
theorem play_tagged {t : TickLocals} (rows : List RailwayVisibilityRow)
    (acc : TickTotals × List (String × WatchdogEvent)) (w : Scripted)
    (hacc : acc.2.map (·.2) = acc.1.events) :
    (play (rows.foldlM (taggedRow t) acc) w).1.2.map (·.2) =
      (play (rows.foldlM (taggedRow t) acc) w).1.1.events := by
  induction rows generalizing acc w with
  | nil => exact hacc
  | cons row rows ih =>
    rw [List.foldlM_cons, play_bind, play_taggedRow]
    have hprefix := (processRow_done w.world _ _ rfl
      (play_runs (processRow t row acc.1) w)).events_extend
    generalize play (processRow t row acc.1) w = x at hprefix
    refine ih _ _ ?_
    obtain ⟨events, hevents⟩ := hprefix
    simp [hacc, ← hevents]

/-- The events of a payload are the first 30. -/
theorem outcome_events (h : script.rows.errorText = none) :
    (script.outcome env s).payload.events = ((script.outcome env s).events.map (·.2)).take 30 := by
  have hplay : play (taggedTick env) (script.start s) = _ := play_taggedTick h
  unfold Script.outcome
  rw [hplay]
  refine (finishTick_ran (play_runs (finishTick env script.now script.rows.containers
    (script.looped env s).1.1) (script.looped env s).2)).1.trans (congrArg (List.take 30) ?_)
  exact (play_tagged script.rows.containers (.zero, []) (script.polled s) rfl).symm

end

/-! ## Independence -/

def Script.withRows (script : Script) (containers : List RailwayVisibilityRow) : Script :=
  { script with rows := { script.rows with containers } }

/-- Two scripts that differ in the row of `sid`, and in what is met there. -/
structure Script.ChangedAt (sid : String) (script script' : Script) : Prop where
  rows : ∃ before row after row', row.railwayServiceId = sid ∧ row'.railwayServiceId = sid ∧
    script.rows.containers = before ++ row :: after ∧ script'.rows.containers = before ++
      row' :: after
  error : script.rows.error = script'.rows.error
  poll : script.poll = script'.poll
  service : ∀ k, k ≠ sid → script.service k = script'.service k

theorem Script.ChangedAt.rowsOf {sid k : String} {script script' : Script}
    (h : script.ChangedAt sid script') (hk : k ≠ sid) :
    rowsOf k script.rows.containers = rowsOf k script'.rows.containers := by
  obtain ⟨before, row, after, row', hrow, hrow', hrows, hrows'⟩ := h.rows
  have hne : ∀ {row : RailwayVisibilityRow}, row.railwayServiceId = sid →
      row.railwayServiceId ≠ k :=
    fun hrow heq => hk (heq.symm.trans hrow)
  rw [hrows, hrows', Watchdog.rowsOf, List.filter_append, List.filter_cons,
    if_neg (by simpa using hne hrow), Watchdog.rowsOf, List.filter_append, List.filter_cons,
    if_neg (by simpa using hne hrow')]

/-- Outcomes that are the same for every service. -/
theorem outcomes_perm {out out' : TickOutcome} (h : ∀ k, out.of k = out'.of k) :
    out.deploys.Perm out'.deploys ∧ out.events.Perm out'.events :=
  ⟨perm_of_filter_key Prod.snd fun k => congrArg ServiceOutcome.deploys (h k),
    perm_of_filter_key Prod.fst fun k => congrArg ServiceOutcome.events (h k)⟩

/-- **Services do not influence each other**: the order of the rows does not matter, and a change at
one service changes nothing for the others. `Separate` says that no two services share a heartbeat
object; every tick keeps it (`TickRecord.Ran.separate`). -/
theorem services_independent (env : Environment) {s : WatchdogPersistentState} (hsep : s.Separate)
    (script : Script) (hids : (script.rows.containers.map (·.railwayServiceId)).Nodup) :
    (∀ containers, script.rows.containers.Perm containers →
      (∀ k, ((script.withRows containers).outcome env s).state.slice k =
        (script.outcome env s).state.slice k) ∧
      ((script.withRows containers).outcome env s).deploys.Perm (script.outcome env s).deploys ∧
      ((script.withRows containers).outcome env s).events.Perm (script.outcome env s).events) ∧
    ∀ sid script', script.ChangedAt sid script' → ∀ k, k ≠ sid →
      (script'.outcome env s).of k = (script.outcome env s).of k := by
  constructor
  · intro containers hperm
    have hof :
        ∀ k, ((script.withRows containers).outcome env s).of k = (script.outcome env s).of k :=
      fun k => outcome_of hsep rfl rfl rfl (filter_key_of_perm hids hperm k).symm
    exact ⟨fun k => congrArg ServiceOutcome.entries (hof k), outcomes_perm hof⟩
  · intro sid script' hchange k hk
    exact (outcome_of hsep hchange.poll hchange.error (hchange.service k hk)
      (hchange.rowsOf hk)).symm

/-- Two services, the first of which has crashed. -/
def sampleScript (status : String) : Script where
  rows :=
    { containers := [{ sampleRow "CRASHED" "d1" with railwayServiceId := "api" },
      sampleRow status "d2"]
      error := none }
  poll _ := sampleChoice 10 [] true none
  service _ _ := sampleChoice 100000 [] true none

theorem services_independent_sample :
    (((sampleScript "SUCCESS").withRows (sampleScript "SUCCESS").rows.containers.reverse).outcome
        sampleEnv createEmptyWatchdogState).deploys.Perm
      ((sampleScript "SUCCESS").outcome sampleEnv createEmptyWatchdogState).deploys ∧
    ((sampleScript "STOPPED").outcome sampleEnv createEmptyWatchdogState).of "api" =
      ((sampleScript "SUCCESS").outcome sampleEnv createEmptyWatchdogState).of "api" := by
  have h := services_independent sampleEnv separate_empty (sampleScript "SUCCESS") (by decide)
  refine ⟨(h.1 _ (List.reverse_perm _).symm).2.1, h.2 "svc" _ ?_ "api" (by decide)⟩
  exact ⟨⟨[_], _, [], _, rfl, rfl, rfl, rfl⟩, rfl, rfl, fun _ _ => rfl⟩

end PeHackathon.Watchdog
