import PeHackathon.Watchdog.RowFrame

/-!
# Ticks one after the other

A `TickRecord` is a tick that nothing interrupted: what its poll answered, what it returned, and the
world before and after. `Sequential` is a run of them. `TickRecord.Ran.cases` says what one tick
does: it polls, and unless that failed it handles the rows, then forgets the services that are gone.
The rest is logs.
-/

namespace PeHackathon.Watchdog

open Lib

/-! ## Logs -/

/-- The calls that only read and log. -/
inductive LogCall : Call → Prop
  | get : LogCall .get
  | isoNow : LogCall .isoNow
  | performanceNow : LogCall .performanceNow
  | log (f : WatchdogPersistentState → WatchdogPersistentState)
      (h : ∀ s, f s = { s with logTail := (f s).logTail, apiActivity := (f s).apiActivity }) :
      LogCall (.update f)

/-- `w'` is `w` but for the logs and the clock. -/
structure LogsOnly (w w' : World) : Prop where
  state : w'.state =
    { w.state with logTail := w'.state.logTail, apiActivity := w'.state.apiActivity }
  trace : w'.trace = w.trace

theorem LogsOnly.refl (w : World) : LogsOnly w w := ⟨rfl, rfl⟩

theorem LogsOnly.trans {w w' w'' : World} (h : LogsOnly w w') (h' : LogsOnly w' w'') :
    LogsOnly w w'' := by
  refine ⟨?_, h'.trace.trans h.trace⟩
  rw [h'.state, h.state]

theorem LogCall.serve {q : Call} (h : LogCall q) (c : Choice) (w : World) :
    LogsOnly w (serve c w q).2 := by
  cases h with
  | log f hf => exact ⟨hf w.state, rfl⟩
  | _ => exact ⟨rfl, rfl⟩

theorem LogCall.obeys {q : Call} (h : LogCall q) : (step q).Obeys LogCall fun _ => True :=
  .perform h

theorem LogsOnly.triple {α : Type} {p : Tick α} {ψ : α → Prop} (w : World)
    (hp : p.Obeys LogCall ψ) :
    solo.Triple () (LogsOnly w) p fun a w' => ψ a ∧ LogsOnly w w' := by
  refine .of_obeys (fun q c w₁ r w₂ hq hw hr => ?_) hp
  obtain rfl : (Watchdog.serve c w₁ q).2 = w₂ := congrArg Prod.snd (Option.some.inj hr)
  exact hw.trans (hq.serve c w₁)

theorem log_pushLogLine (line : String) : (pushLogLine line).Obeys LogCall fun _ => True :=
  (LogCall.log _ fun _ => rfl).obeys

theorem log_pushActivity (entry : Activity) : (pushActivity entry).Obeys LogCall fun _ => True :=
  LogCall.isoNow.obeys.bind fun _ _ => (LogCall.log _ fun _ => rfl).obeys

theorem log_elapsedMs (start : Nat) : (elapsedMs start).Obeys LogCall fun _ => True :=
  LogCall.performanceNow.obeys.bind fun _ _ => .ret trivial

theorem log_pushStatusLine (rows : List RailwayVisibilityRow) :
    (pushStatusLine rows).Obeys LogCall fun _ => True := by
  rw [pushStatusLine]
  exact .ite (fun _ => log_pushLogLine _) fun _ => .ret trivial

/-! ## A tick -/

/-- What follows the poll. -/
def afterPoll (env : Environment) (rows : VisibilityResult) : Tick WatchdogPayload := do
  match rows.errorText with
  | some error => failTick env error
  | none =>
    let now ← isoNow
    let totals ← rows.containers.foldlM
      (fun totals row => processRow (TickLocals.of env now) row totals) TickTotals.zero
    finishTick env now rows.containers totals

theorem tick_eq (env : Environment) : runRailwayWatchdogTick env = pollRows >>= afterPoll env := rfl

structure TickRecord where
  env : Environment
  rows : VisibilityResult
  payload : WatchdogPayload
  before : World
  after : World

/-- The tick ran like this. -/
def TickRecord.Ran (r : TickRecord) : Prop :=
  ∃ w, solo.Runs () pollRows r.before r.rows w ∧
    solo.Runs () (afterPoll r.env r.rows) w r.payload r.after

/-- The service ids of the rows. -/
def TickRecord.ids (r : TickRecord) : List String := r.rows.containers.map (·.railwayServiceId)

/-- A run of a tick alone, and its record. -/
theorem runs_tick_iff {env : Environment} {w w' : World} {payload : WatchdogPayload} :
    solo.Runs () (runRailwayWatchdogTick env) w payload w' ↔
      ∃ rows, (TickRecord.mk env rows payload w w').Ran := by
  rw [tick_eq]
  exact solo.runs_bind ()

/-- A run of ticks, oldest first. -/
inductive Sequential : World → List TickRecord → World → Prop
  | nil (w : World) : Sequential w [] w
  | cons {r : TickRecord} {recs : List TickRecord} {w : World} (hr : r.Ran)
      (h : Sequential r.after recs w) : Sequential r.before (r :: recs) w

theorem pollRows_ran {w w' : World} {rows : VisibilityResult}
    (h : solo.Runs () pollRows w rows w') : ∃ time, LogsOnly (w.mark time (.fetched rows)) w' := by
  unfold pollRows at h
  obtain ⟨gqlT0, w₁, hstart, h⟩ := (solo.runs_bind ()).1 h
  obtain ⟨rows', w₂, hfetch, h⟩ := (solo.runs_bind ()).1 h
  obtain ⟨c, hc⟩ := Server.runs_perform.1 hfetch
  obtain ⟨rfl, rfl⟩ := Prod.mk.inj (Option.some.inj hc)
  have h₁ := (LogsOnly.triple w LogCall.performanceNow.obeys _ _ _ (.refl _) hstart).2
  obtain ⟨gqlMs, w₃, helapsed, h⟩ := (solo.runs_bind ()).1 h
  obtain ⟨_, w₄, hpush, hret⟩ := (solo.runs_bind ()).1 h
  obtain ⟨rfl, rfl⟩ := (solo.runs_ret ()).1 hret
  have h₃ := (LogsOnly.triple _ (log_elapsedMs gqlT0) _ _ _ (.refl _) helapsed).2
  have h₄ := (LogsOnly.triple _ (log_pushActivity _) _ _ _ h₃ hpush).2
  have h₂ : LogsOnly (w.mark c.now (.fetched c.rows)) (w₁.after c.now [.fetched c.rows]) :=
    ⟨h₁.state, congrArg (List.cons (Mark.mk c.now (.fetched c.rows))) h₁.trace⟩
  exact ⟨c.now, h₂.trans h₄⟩

theorem finishTick_ran {env : Environment} {now : String} {rows : List RailwayVisibilityRow}
    {totals : TickTotals} {payload : WatchdogPayload} {w w' : World}
    (h : solo.Runs () (finishTick env now rows totals) w payload w') :
    payload.events = totals.events.take 30 ∧
      LogsOnly (w.setState (forgetGone rows w.state)) w' := by
  unfold finishTick at h
  obtain ⟨_, w₁, hforget, h⟩ := (solo.runs_bind ()).1 h
  obtain ⟨c, hc⟩ := Server.runs_perform.1 hforget
  obtain ⟨-, rfl⟩ := Prod.mk.inj (Option.some.inj hc)
  have hlog : ∀ p : Tick WatchdogPayload, p.Obeys LogCall (·.events = totals.events.take 30) →
      ∀ w₁, LogsOnly (w.setState (forgetGone rows w.state)) w₁ → solo.Runs () p w₁ payload w' →
        payload.events = totals.events.take 30 ∧
          LogsOnly (w.setState (forgetGone rows w.state)) w' :=
    fun p hp w₁ hw₁ hrun => LogsOnly.triple _ hp w₁ _ _ hw₁ hrun
  refine hlog _ ?_ _ ?_ h
  · refine (log_pushLogLine _).bind fun _ _ => ?_
    refine (Prog.Obeys.forM _ fun _ _ => log_pushLogLine _).bind fun _ _ => ?_
    exact (log_pushStatusLine rows).bind fun _ _ => LogCall.get.obeys.bind fun _ _ => .ret rfl
  · exact ⟨rfl, rfl⟩

theorem failTick_ran {env : Environment} {error : String} {payload : WatchdogPayload} {w w' : World}
    (h : solo.Runs () (failTick env error) w payload w') : payload.events = [] ∧ LogsOnly w w' := by
  have hp : (failTick env error).Obeys LogCall (·.events = []) :=
    LogCall.get.obeys.bind fun _ _ => .ret rfl
  exact LogsOnly.triple w hp _ _ _ (.refl w) h

/-- **A tick**: a failed poll, or the rows and what follows them. -/
theorem TickRecord.Ran.cases {r : TickRecord} (h : r.Ran) :
    ∃ time, (r.rows.errorText ≠ none ∧ r.payload.events = [] ∧
        LogsOnly (r.before.mark time (.fetched r.rows)) r.after) ∨
      (r.rows.errorText = none ∧ ∃ now w totals w',
        LogsOnly (r.before.mark time (.fetched r.rows)) w ∧
        solo.Runs () (r.rows.containers.foldlM
          (fun totals row => processRow (.of r.env now) row totals) .zero) w totals w' ∧
        r.payload.events = totals.events.take 30 ∧
        LogsOnly (w'.setState (forgetGone r.rows.containers w'.state)) r.after) := by
  obtain ⟨w, hpoll, hrest⟩ := h
  obtain ⟨time, hw⟩ := pollRows_ran hpoll
  refine ⟨time, ?_⟩
  unfold afterPoll at hrest
  cases he : r.rows.errorText with
  | some error =>
    rw [he] at hrest
    obtain ⟨hevents, hlogs⟩ := failTick_ran hrest
    exact .inl ⟨Option.some_ne_none error, hevents, hw.trans hlogs⟩
  | none =>
    rw [he] at hrest
    obtain ⟨now, w₁, hnow, hrest⟩ := (solo.runs_bind ()).1 hrest
    obtain ⟨totals, w₂, hloop, hfinish⟩ := (solo.runs_bind ()).1 hrest
    have hw₁ := (LogsOnly.triple w LogCall.isoNow.obeys _ _ _ (.refl w) hnow).2
    obtain ⟨hevents, hlogs⟩ := finishTick_ran hfinish
    exact .inr ⟨rfl, now, w₁, totals, w₂, hw.trans hw₁, hloop, hevents, hlogs⟩

/-! ## Over the rows -/

theorem LogsOnly.entries {w w' : World} (h : LogsOnly w w') (k : String) :
    w'.state.entries k = w.state.entries k := by
  rw [h.state, WatchdogPersistentState.entries_eq_iff]
  exact ⟨rfl, rfl, rfl, rfl, rfl⟩

theorem LogsOnly.separate {w w' : World} (h : LogsOnly w w') (hsep : w.state.Separate) :
    w'.state.Separate := by
  rw [h.state]
  exact ⟨hsep.lt, hsep.eq⟩

/-- The rows of a service. -/
def rowsOf (sid : String) (rows : List RailwayVisibilityRow) : List RailwayVisibilityRow :=
  rows.filter (·.railwayServiceId = sid)

theorem rowsOf_append_one (sid : String) (rows : List RailwayVisibilityRow)
    (row : RailwayVisibilityRow) : rowsOf sid (rows ++ [row]) =
      rowsOf sid rows ++ if row.railwayServiceId = sid then [row] else [] := by
  rw [rowsOf, List.filter_append]
  simp [rowsOf, List.filter_cons]

/-- The rows of a service in a tick. -/
def TickRecord.observations (sid : String) (r : TickRecord) : List RailwayVisibilityRow :=
  rowsOf sid r.rows.containers

/-- The loop keeps the objects apart, and what the maps have for a service without a row. -/
theorem loop_others {t : TickLocals} {rows : List RailwayVisibilityRow}
    {totals totals' : TickTotals} {w w' : World} (hsep : w.state.Separate)
    (h : solo.Runs () (rows.foldlM (fun totals row => processRow t row totals) totals)
      w totals' w') :
    w'.state.Separate ∧ ∀ k, k ∉ rows.map (·.railwayServiceId) →
      w'.state.entries k = w.state.entries k := by
  have hloop :=
    Server.Triple.foldlM (S := solo) (i := ()) (g := fun totals row => processRow t row totals)
    (J := fun done _ w₁ => w₁.state.Separate ∧ ∀ k, k ∉ done.map (·.railwayServiceId) →
      w₁.state.entries k = w.state.entries k) rows ?_ totals
  · exact hloop w totals' w' ⟨hsep, fun _ _ => rfl⟩ h
  · rintro done row rest b - w₁ a w₂ ⟨hsep₁, hothers⟩ hrun
    obtain ⟨time, hframe⟩ := (processRow_done w₁ a w₂ rfl hrun).frame
    refine ⟨hframe.separate ⟨hsep₁.lt, hsep₁.eq⟩, fun k hk => ?_⟩
    simp only [List.map_append, List.map_cons, List.map_nil, List.mem_append, List.mem_singleton,
      not_or] at hk
    exact (hframe.others k hk.2).trans (hothers k hk.1)

theorem separate_forgetGone {s : WatchdogPersistentState} (hsep : s.Separate)
    (rows : List RailwayVisibilityRow) : (forgetGone rows s).Separate := by
  have hold : ∀ k ref, (forgetGone rows s).heartbeatRecoverState.get k = some ref →
      s.heartbeatRecoverState.get k = some ref := by
    intro k ref href
    unfold forgetGone at href
    rw [Dict.get_deleteAll] at href
    split at href
    · exact absurd href.symm (Option.some_ne_none ref)
    · exact href
  exact ⟨fun k ref href => hsep.lt k ref (hold k ref href),
    fun k k' ref href href' => hsep.eq k k' ref (hold k ref href) (hold k' ref href')⟩

theorem TickRecord.Ran.separate {r : TickRecord} (h : r.Ran) (hsep : r.before.state.Separate) :
    r.after.state.Separate := by
  obtain ⟨time, ⟨-, -, hlogs⟩ | ⟨-, now, w, totals, w', hpoll, hloop, -, hend⟩⟩ := h.cases
  · exact hlogs.separate ⟨hsep.lt, hsep.eq⟩
  · refine hend.separate (separate_forgetGone ?_ _)
    exact (loop_others (hpoll.separate ⟨hsep.lt, hsep.eq⟩) hloop).1

/-- The ticks of a run, each with heartbeat objects that are apart. -/
theorem Sequential.separate {recs : List TickRecord} {w w' : World} (h : Sequential w recs w')
    (hsep : w.state.Separate) : ∀ r ∈ recs, r.Ran ∧ r.before.state.Separate := by
  induction h with
  | nil w => exact fun r hr => absurd hr List.not_mem_nil
  | cons hr _ ih =>
    intro r' hr'
    rcases List.mem_cons.1 hr' with rfl | hr'
    · exact ⟨hr, hsep⟩
    · exact ih (hr.separate hsep) r' hr'

/-! ## Replaying a tick -/

/-- The run of a program whose calls all meet the same choice. -/
def runWith {α : Type} (c : Choice) : Tick α → World → α × World
  | .ret a, w => (a, w)
  | .call q k, w => runWith c (k (serve c w q).1) (serve c w q).2

theorem solo_runWith {α : Type} (c : Choice) (p : Tick α) (w : World) :
    solo.Runs () p w (runWith c p w).1 (runWith c p w).2 := by
  induction p generalizing w with
  | ret a => exact .ret a w
  | call q k ih => exact .call rfl (ih _ _)

def TickRecord.of (env : Environment) (c : Choice) (w : World) : TickRecord :=
  let poll := runWith c pollRows w
  let rest := runWith c (afterPoll env poll.1) poll.2
  { env, rows := poll.1, payload := rest.1, before := w, after := rest.2 }

theorem TickRecord.ran_of (env : Environment) (c : Choice) (w : World) : (of env c w).Ran :=
  ⟨_, solo_runWith c pollRows w, solo_runWith c _ _⟩

/-- The ticks that meet these choices. -/
def replay (env : Environment) : List Choice → World → List TickRecord
  | [], _ => []
  | c :: cs, w => .of env c w :: replay env cs (TickRecord.of env c w).after

/-- The world at the end. -/
def replayed (env : Environment) (cs : List Choice) (w : World) : World :=
  cs.foldl (fun w c => (TickRecord.of env c w).after) w

theorem sequential_replay (env : Environment) (cs : List Choice) (w : World) :
    Sequential w (replay env cs w) (replayed env cs w) := by
  induction cs generalizing w with
  | nil => exact .nil w
  | cons c cs ih => exact .cons (TickRecord.ran_of env c w) (ih _)

end PeHackathon.Watchdog
