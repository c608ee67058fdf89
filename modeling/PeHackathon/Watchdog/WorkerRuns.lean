import Mathlib.Data.List.TakeDrop
import PeHackathon.Watchdog.Worker

/-!
# Runs of the watchdog worker

For every order of the events of `Worker.step`:

* `worker_sequential`: the ticks of the process are a run of ticks one after the other, however its
  interval and its calls interleave, and each is broadcast once, when it ends;
* `stream_delivers`: a subscriber is sent the last payload before it came and then each one that
  follows, in order, until it is dropped.
-/

namespace PeHackathon.Watchdog

open Lib

namespace Worker

/-! ## What a step leaves alone -/

/-- The two processes agree on their ticks. -/
structure SameTicks (w w' : Worker) : Prop where
  world : w'.world = w.world
  lastPayload : w'.lastPayload = w.lastPayload
  tickInFlight : w'.tickInFlight = w.tickInFlight
  running : w'.running = w.running
  broadcasts : w'.broadcasts = w.broadcasts

theorem SameTicks.refl (w : Worker) : SameTicks w w := ⟨rfl, rfl, rfl, rfl, rfl⟩

theorem SameTicks.trans {w w' w'' : Worker} (h : SameTicks w w') (h' : SameTicks w' w'') :
    SameTicks w w'' :=
  ⟨h'.world.trans h.world, h'.lastPayload.trans h.lastPayload, h'.tickInFlight.trans h.tickInFlight,
    h'.running.trans h.running, h'.broadcasts.trans h.broadcasts⟩

theorem sameTicks_write (w : Worker) (res : Nat) (chunk : Chunk) :
    SameTicks w (w.write res chunk) :=
  ⟨rfl, rfl, rfl, rfl, rfl⟩

theorem sameTicks_unsubscribe (w : Worker) (res : Nat) : SameTicks w (w.unsubscribe res) :=
  ⟨rfl, rfl, rfl, rfl, rfl⟩

theorem sameTicks_drop (w : Worker) (res : Nat) :
    SameTicks w ((w.clearKeepalive res).unsubscribe res) :=
  ⟨rfl, rfl, rfl, rfl, rfl⟩

theorem sameTicks_send (throws : Nat → Bool) (payload : SourcedPayload) (w : Worker) (res : Nat) :
    SameTicks w (send throws payload w res) := by
  unfold send
  split
  · exact sameTicks_unsubscribe w res
  · exact sameTicks_write w res _

theorem sameTicks_sends (throws : Nat → Bool) (payload : SourcedPayload) (rs : List Nat)
    (w : Worker) :
    SameTicks w (rs.foldl (send throws payload) w) := by
  induction rs generalizing w with
  | nil => exact .refl w
  | cons r rs ih => exact (sameTicks_send throws payload w r).trans (ih _)

theorem sameTicks_openStream (w : Worker) (res : Nat) : SameTicks w (w.openStream res) := by
  simp only [openStream]
  split
  · exact ⟨rfl, rfl, rfl, rfl, rfl⟩
  · exact ⟨rfl, rfl, rfl, rfl, rfl⟩

/-- The last payload is the last one that was broadcast. -/
def Current (w : Worker) : Prop := w.lastPayload = w.broadcasts.getLast?

theorem SameTicks.current {w w' : Worker} (h : SameTicks w w') (hw : w.Current) : w'.Current := by
  unfold Current at hw ⊢
  rw [h.lastPayload, h.broadcasts]
  exact hw

variable {env : Environment} {tick : TickPromise} {w w' : Worker}

theorem step_call {i : Nat} {c : Choice} (h : w.step env tick (.call i c) = some w') :
    ∃ q k, w.running[i]? = some (.call q k) ∧ w' = { w with
      world := (serve c w.world q).2, running := w.running.set i (k (serve c w.world q).1) } := by
  simp only [step] at h
  split at h
  · next q k hi => exact ⟨q, k, hi, (Option.some.inj h).symm⟩
  · exact absurd h (Option.some_ne_none _).symm

theorem step_settle {i : Nat} {iso : String} {throws : Nat → Bool}
    (h : w.step env tick (.settle i iso throws) = some w') :
    ∃ result, w.running[i]? = some (.ret result) ∧ w' = w.settleTick env i iso throws result := by
  simp only [step] at h
  split at h
  · next result hi => exact ⟨result, hi, (Option.some.inj h).symm⟩
  · exact absurd h (Option.some_ne_none _).symm

theorem step_stream {res : Nat} (h : w.step env tick (.stream res) = some w') :
    res ∉ w.opened ∧ w' = w.openStream res := by
  simp only [step] at h
  split at h
  · exact absurd h (Option.some_ne_none _).symm
  · next hres => exact ⟨hres, (Option.some.inj h).symm⟩

theorem step_keepalive {res : Nat} {throws : Bool}
    (h : w.step env tick (.keepalive res throws) = some w') :
    res ∈ w.keepalives ∧
      w' = if throws then (w.clearKeepalive res).unsubscribe res else w.write res .keepalive := by
  simp only [step] at h
  split at h
  · next hres => exact ⟨hres, (Option.some.inj h).symm⟩
  · exact absurd h (Option.some_ne_none _).symm

theorem step_close {res : Nat} (h : w.step env tick (.close res) = some w') :
    w' = (w.clearKeepalive res).unsubscribe res := by
  simp only [step] at h
  split at h
  · exact (Option.some.inj h).symm
  · exact absurd h (Option.some_ne_none _).symm

/-- What `runTick` broadcasts. -/
def settled (env : Environment) (iso : String) : Except String WatchdogPayload → SourcedPayload
  | .ok payload => ⟨.railway, payload⟩
  | .error msg => barePayload env .error (some iso) msg

theorem settleTick_eq (i : Nat) (iso : String) (throws : Nat → Bool)
    (result : Except String WatchdogPayload) :
    w.settleTick env i iso throws result =
      { ({ w with
          running := w.running.eraseIdx i
          lastPayload := some (settled env iso result) }).broadcastTick throws
            (settled env iso result) with
        tickInFlight := false } := by
  cases result <;> rfl

theorem sameTicks_settleTick (env : Environment) (i : Nat) (iso : String) (throws : Nat → Bool)
    (result : Except String WatchdogPayload) :
    SameTicks { w with
        running := w.running.eraseIdx i, lastPayload := some (settled env iso result),
        tickInFlight := false, broadcasts := w.broadcasts ++ [settled env iso result] }
      (w.settleTick env i iso throws result) := by
  rw [settleTick_eq]
  have h := sameTicks_sends throws (settled env iso result) w.sseResponses
    { w with
      running := w.running.eraseIdx i, lastPayload := some (settled env iso result),
      broadcasts := w.broadcasts ++ [settled env iso result] }
  exact ⟨h.world, h.lastPayload, rfl, h.running, h.broadcasts⟩

theorem current_settleTick (i : Nat) (iso : String) (throws : Nat → Bool)
    (result : Except String WatchdogPayload) :
    (w.settleTick env i iso throws result).Current := by
  refine (sameTicks_settleTick env i iso throws result).current ?_
  exact List.getLast?_concat.symm

/-! ## Ticks -/

/-- The process since its last tick ended, in `last`. -/
inductive Phase (env : Environment) (last : World) (w : Worker) : Prop
  | idle (hflight : w.tickInFlight = false) (hrunning : w.running = []) (hworld : w.world = last)
  | ticking {p : TickPromise} (hflight : w.tickInFlight = true) (hrunning : w.running = [p])
      (hunder : solo.Underway () (workerTick env) last p w.world)

theorem SameTicks.phase {last : World} (h : SameTicks w w') (hw : w.Phase env last) :
    w'.Phase env last := by
  cases hw with
  | idle hflight hrunning hworld =>
    exact .idle (h.tickInFlight.trans hflight) (h.running.trans hrunning) (h.world.trans hworld)
  | ticking hflight hrunning hunder =>
    refine .ticking (h.tickInFlight.trans hflight) (h.running.trans hrunning) ?_
    rw [h.world]
    exact hunder

/-- The ticks that have ended, and the process since. -/
structure InTurn (env : Environment) (recs : List TickRecord) (last : World) (w : Worker) :
    Prop where
  sequential : Sequential .start recs last
  envs : ∀ r ∈ recs, r.env = env
  broadcasts : w.broadcasts = recs.map fun r => ⟨.railway, r.payload⟩
  current : w.Current
  phase : w.Phase env last

theorem SameTicks.inTurn {recs : List TickRecord} {last : World} (h : SameTicks w w')
    (hw : w.InTurn env recs last) : w'.InTurn env recs last :=
  ⟨hw.sequential, hw.envs, h.broadcasts.trans hw.broadcasts, h.current hw.current, h.phase hw.phase⟩

theorem inTurn_start (env : Environment) : InTurn env [] .start .start :=
  ⟨.nil _, fun _ hr => absurd hr List.not_mem_nil, rfl, rfl, .idle rfl rfl rfl⟩

end Worker

theorem Sequential.concat {recs : List TickRecord} {r : TickRecord} {w : World}
    (h : Sequential w recs r.before) (hr : r.Ran) : Sequential w (recs ++ [r]) r.after := by
  generalize hlast : r.before = last at h
  induction h with
  | nil w =>
    subst hlast
    exact .cons hr (.nil _)
  | cons hr' _ ih => exact .cons hr' (ih hlast)

namespace Worker

variable {env : Environment} {w w' : Worker} {recs : List TickRecord} {last : World}

/-- The promise of a tick returns what a tick alone does. -/
theorem underway_ret_workerTick {result : Except String WatchdogPayload} {world : World}
    (h : solo.Underway () (workerTick env) last (.ret result) world) :
    ∃ payload rows, result = .ok payload ∧ (TickRecord.mk env rows payload last world).Ran := by
  obtain ⟨payload, world', htick, hret⟩ := (solo.runs_bind ()).1 (Server.underway_ret h)
  obtain ⟨rfl, rfl⟩ := (solo.runs_ret ()).1 hret
  obtain ⟨rows, hran⟩ := runs_tick_iff.1 htick
  exact ⟨payload, rows, rfl, hran⟩

theorem InTurn.runTick (h : w.InTurn env recs last) :
    (w.runTick (workerTick env)).InTurn env recs last := by
  unfold Worker.runTick
  split
  · exact h
  · next hidle =>
    refine ⟨h.sequential, h.envs, h.broadcasts, h.current, ?_⟩
    cases h.phase with
    | idle _ hrunning hworld =>
      refine .ticking rfl (p := workerTick env) ?_ ?_
      · exact congrArg (· ++ [workerTick env]) hrunning
      · show solo.Underway () (workerTick env) last (workerTick env) w.world
        rw [hworld]
        exact .refl
    | ticking hflight => exact absurd hflight hidle

theorem InTurn.call {i : Nat} {c : Choice} (h : w.InTurn env recs last)
    (hstep : w.step env (workerTick env) (.call i c) = some w') : w'.InTurn env recs last := by
  obtain ⟨q, k, hi, rfl⟩ := step_call hstep
  refine ⟨h.sequential, h.envs, h.broadcasts, h.current, ?_⟩
  cases h.phase with
  | idle _ hrunning =>
    rw [hrunning] at hi
    exact absurd hi (Option.some_ne_none _).symm
  | @ticking p hflight hrunning hunder =>
    -- The call is of the one tick there is.
    rw [hrunning] at hi
    obtain ⟨hlt, hp⟩ := List.getElem?_eq_some_iff.1 hi
    obtain rfl : i = 0 := Nat.lt_one_iff.1 hlt
    obtain rfl : p = .call q k := hp
    refine .ticking hflight (p := k (serve c w.world q).1) ?_ (.call hunder rfl)
    exact congrArg (·.set 0 (k (serve c w.world q).1)) hrunning

theorem InTurn.settle {i : Nat} {iso : String} {throws : Nat → Bool} (h : w.InTurn env recs last)
    (hstep : w.step env (workerTick env) (.settle i iso throws) = some w') :
    ∃ r, w'.InTurn env (recs ++ [r]) w.world := by
  obtain ⟨result, hi, rfl⟩ := step_settle hstep
  cases h.phase with
  | idle _ hrunning =>
    rw [hrunning] at hi
    exact absurd hi (Option.some_ne_none _).symm
  | @ticking p hflight hrunning hunder =>
    rw [hrunning] at hi
    obtain ⟨hlt, hp⟩ := List.getElem?_eq_some_iff.1 hi
    obtain rfl : i = 0 := Nat.lt_one_iff.1 hlt
    obtain rfl : p = .ret result := hp
    obtain ⟨payload, rows, rfl, hran⟩ := underway_ret_workerTick hunder
    refine ⟨.mk env rows payload last w.world, (sameTicks_settleTick env 0 iso throws _).inTurn ?_⟩
    refine ⟨h.sequential.concat hran, ?_, ?_, ?_, ?_⟩
    · intro r hr
      rcases List.mem_append.1 hr with hr | hr
      · exact h.envs r hr
      · rw [List.mem_singleton.1 hr]
    · show w.broadcasts ++ _ = _
      rw [List.map_append, h.broadcasts]
      rfl
    · exact List.getLast?_concat.symm
    · refine .idle rfl ?_ rfl
      show w.running.eraseIdx 0 = []
      rw [hrunning]
      rfl

theorem InTurn.step {e : WorkerEvent} (h : w.InTurn env recs last)
    (hstep : w.step env (workerTick env) e = some w') :
    ∃ recs' last', w'.InTurn env recs' last' := by
  cases e with
  | timer =>
    obtain rfl := Option.some.inj hstep
    exact ⟨recs, last, h.runTick⟩
  | call i c => exact ⟨recs, last, h.call hstep⟩
  | settle i iso throws =>
    obtain ⟨r, hr⟩ := h.settle hstep
    exact ⟨recs ++ [r], w.world, hr⟩
  | stream res =>
    obtain ⟨-, rfl⟩ := step_stream hstep
    exact ⟨recs, last, (sameTicks_openStream w res).inTurn h⟩
  | keepalive res throws =>
    obtain ⟨-, rfl⟩ := step_keepalive hstep
    refine ⟨recs, last, SameTicks.inTurn ?_ h⟩
    split
    · exact sameTicks_drop w res
    · exact sameTicks_write w res _
  | close res =>
    obtain rfl := step_close hstep
    exact ⟨recs, last, (sameTicks_drop w res).inTurn h⟩

theorem InTurn.run {events : List WorkerEvent} (h : w.InTurn env recs last)
    (hrun : Worker.run env (workerTick env) events w = some w') :
    ∃ recs' last', w'.InTurn env recs' last' := by
  induction events generalizing w recs last with
  | nil =>
    obtain rfl := Option.some.inj hrun
    exact ⟨recs, last, h⟩
  | cons e events ih =>
    obtain ⟨w₁, hstep, hrun⟩ := Option.bind_eq_some_iff.1 hrun
    obtain ⟨recs', last', h₁⟩ := h.step hstep
    exact ih h₁ hrun

/-- **The worker's ticks follow one another.** -/
theorem worker_sequential (env : Environment) (events : List WorkerEvent) (w : Worker)
    (hrun : Worker.run env (workerTick env) events .start = some w) :
    ∃ recs last, w.InTurn env recs last :=
  (inTurn_start env).run hrun

/-- `GET /v1/status` answers with the tick that ended last. -/
theorem InTurn.status (h : w.InTurn env recs last) :
    w.status env = (recs.getLast?.map fun r => ⟨.railway, r.payload⟩).getD
      (barePayload env .unconfigured none "No tick completed yet") := by
  rw [Worker.status, h.current, h.broadcasts, List.getLast?_map]

def emptyEnv : Environment := ⟨none, []⟩

/-- `runTick` is called twice at once, and the one tick of it fails to poll. -/
def overlappingTimers : List WorkerEvent :=
  [.timer, .timer] ++ List.replicate 6
    (.call 0 ⟨0, "", 0, ⟨[], some "down"⟩, ⟨false, none, 0, none⟩, none⟩) ++
    [.timer, .settle 0 "" fun _ => false]

theorem worker_sequential_timers : ∃ w recs last,
    Worker.run emptyEnv (workerTick emptyEnv) overlappingTimers .start = some w ∧
      w.InTurn emptyEnv recs last := by
  obtain ⟨recs, last, h⟩ := worker_sequential emptyEnv overlappingTimers _ rfl
  exact ⟨_, recs, last, rfl, h⟩

end Worker

/-! ## Streams -/

/-- The event ends the subscription of the response. -/
def WorkerEvent.Drops (res : Nat) : WorkerEvent → Prop
  | .settle _ _ throws => throws res = true
  | .keepalive r throws => r = res ∧ throws = true
  | .close r => r = res
  | _ => False

namespace Worker

variable {env : Environment} {tick : TickPromise} {w w' : Worker} {res n : Nat}

/-- The payloads that were sent to a subscriber. -/
def ticks (w : Worker) (res : Nat) : List SourcedPayload := (w.written res).filterMap Chunk.payload?

/-- What holds of the responses of a process. -/
structure Registered (w : Worker) : Prop where
  nodup : w.sseResponses.Nodup
  subscribed : ∀ r ∈ w.sseResponses, r ∈ w.opened
  kept : ∀ r ∈ w.keepalives, r ∈ w.opened
  silent : ∀ r, r ∉ w.opened → w.written r = []

/-! ### A broadcast -/

/-- What the loop of `broadcastTick` does to the responses. -/
theorem sends_spec (throws : Nat → Bool) (payload : SourcedPayload) {rs : List Nat}
    (hnodup : rs.Nodup) (w : Worker) :
    (rs.foldl (send throws payload) w).opened = w.opened ∧
      (rs.foldl (send throws payload) w).keepalives = w.keepalives ∧
      (rs.foldl (send throws payload) w).sseResponses =
        w.sseResponses.filter (fun r => !(decide (r ∈ rs) && throws r)) ∧
      ∀ r, (rs.foldl (send throws payload) w).written r =
        w.written r ++ if r ∈ rs ∧ throws r = false then [.tick payload] else [] := by
  induction rs generalizing w with
  | nil => simp
  | cons x rs ih =>
    obtain ⟨hx, hrs⟩ := List.nodup_cons.1 hnodup
    obtain ⟨hopened, hkeep, hsse, hwritten⟩ := ih hrs (send throws payload w x)
    rw [List.foldl_cons]
    cases hthrows : throws x with
    | true =>
      simp only [send, hthrows, if_true] at hopened hkeep hsse hwritten ⊢
      refine ⟨hopened, hkeep, ?_, fun r => ?_⟩
      · rw [hsse, unsubscribe, List.filter_filter]
        refine List.filter_congr fun r _ => ?_
        by_cases hr : r = x
        · simp [hr, hthrows]
        · simp [hr]
      · rw [hwritten r]
        by_cases hr : r = x
        · simp [hr, hx, hthrows, unsubscribe]
        · simp [hr, unsubscribe]
    | false =>
      simp only [send, hthrows, Bool.false_eq_true, if_false] at hopened hkeep hsse hwritten ⊢
      refine ⟨hopened, hkeep, ?_, fun r => ?_⟩
      · rw [hsse, write]
        refine List.filter_congr fun r _ => ?_
        by_cases hr : r = x
        · simp [hr, hthrows]
        · simp [hr]
      · rw [hwritten r]
        by_cases hr : r = x
        · simp [hr, hx, hthrows, write]
        · simp [hr, write]

/-- What the end of a tick does to the responses. -/
theorem settleTick_spec (env : Environment) (i : Nat) (iso : String) (throws : Nat → Bool)
    (result : Except String WatchdogPayload) (hnodup : w.sseResponses.Nodup) :
    (w.settleTick env i iso throws result).opened = w.opened ∧
      (w.settleTick env i iso throws result).keepalives = w.keepalives ∧
      (w.settleTick env i iso throws result).sseResponses = w.sseResponses.filter
        (fun r => !throws r) ∧
      ∀ r, (w.settleTick env i iso throws result).written r =
        w.written r ++ if r ∈ w.sseResponses ∧ throws r = false then
          [.tick (settled env iso result)] else [] := by
  rw [settleTick_eq]
  obtain ⟨hopened, hkeep, hsse, hwritten⟩ := sends_spec throws (settled env iso result) hnodup
    { w with
      running := w.running.eraseIdx i, lastPayload := some (settled env iso result),
      broadcasts := w.broadcasts ++ [settled env iso result] }
  refine ⟨hopened, hkeep, hsse.trans ?_, hwritten⟩
  refine List.filter_congr fun r hr => ?_
  simp [hr]

/-! ### One subscriber -/

theorem ticks_settleTick (env : Environment) (i : Nat) (iso : String) (throws : Nat → Bool)
    (result : Except String WatchdogPayload) (hnodup : w.sseResponses.Nodup) :
    (w.settleTick env i iso throws result).ticks res =
      w.ticks res ++ if res ∈ w.sseResponses ∧ throws res = false then [settled env iso result]
        else [] := by
  rw [ticks, (settleTick_spec env i iso throws result hnodup).2.2.2 res, List.filterMap_append]
  split
  · rfl
  · rfl

theorem ticks_keepalive (w : Worker) (r res : Nat) :
    (w.write r .keepalive).ticks res = w.ticks res := by
  unfold ticks write
  dsimp only
  split
  · next hr =>
    rw [List.filterMap_append, hr]
    exact List.append_nil _
  · rfl

theorem registered_start : Registered .start :=
  ⟨List.nodup_nil, fun _ h => absurd h List.not_mem_nil, fun _ h => absurd h List.not_mem_nil,
    fun _ _ => rfl⟩

theorem Registered.drop (h : w.Registered) (r : Nat) :
    ((w.clearKeepalive r).unsubscribe r).Registered :=
  ⟨h.nodup.filter _, fun _ hr' => h.subscribed _ (List.mem_of_mem_filter hr'),
    fun _ hr' => h.kept _ (List.mem_of_mem_filter hr'), h.silent⟩

theorem Registered.write (h : w.Registered) {r : Nat} (hr : r ∈ w.opened) (chunk : Chunk) :
    (w.write r chunk).Registered := by
  refine ⟨h.nodup, h.subscribed, h.kept, fun r' hr' => ?_⟩
  have hne : r' ≠ r := fun heq => hr' (heq ▸ hr)
  show (if r' = r then w.written r' ++ [chunk] else w.written r') = []
  rw [if_neg hne]
  exact h.silent r' hr'

theorem Registered.openStream (h : w.Registered) {r : Nat} (hr : r ∉ w.opened) :
    (w.openStream r).Registered := by
  have hsub : ∀ {l : List Nat}, (∀ r' ∈ l, r' ∈ w.opened) → ∀ r' ∈ l ++ [r],
      r' ∈ w.opened ++ [r] := by
    intro l hl r' hr'
    rcases List.mem_append.1 hr' with hr' | hr'
    · exact List.mem_append_left _ (hl r' hr')
    · exact List.mem_append_right _ hr'
  have hopen : Registered { w with
      opened := w.opened ++ [r], sseResponses := w.sseResponses ++ [r], keepalives :=
        w.keepalives ++ [r] } := by
    refine ⟨?_, hsub h.subscribed, hsub h.kept, fun r' hr' => ?_⟩
    · refine List.nodup_append.2 ⟨h.nodup, List.nodup_singleton r, ?_⟩
      intro r₁ h₁ r₂ h₂ heq
      rw [List.mem_singleton.1 h₂] at heq
      exact hr (h.subscribed r (heq ▸ h₁))
    · exact h.silent r' fun hmem => hr' (List.mem_append_left _ hmem)
  simp only [Worker.openStream]
  split
  · exact hopen.write (List.mem_append_right _ (List.mem_singleton_self r)) _
  · exact hopen

theorem Registered.settleTick (h : w.Registered) (i : Nat) (iso : String) (throws : Nat → Bool)
    (result : Except String WatchdogPayload) :
    (w.settleTick env i iso throws result).Registered := by
  obtain ⟨hopened, hkeep, hsse, hwritten⟩ := settleTick_spec env i iso throws result h.nodup
  refine ⟨?_, fun r hr => ?_, fun r hr => ?_, fun r hr => ?_⟩
  · rw [hsse]
    exact h.nodup.filter _
  · rw [hsse] at hr
    rw [hopened]
    exact h.subscribed r (List.mem_of_mem_filter hr)
  · rw [hkeep] at hr
    rw [hopened]
    exact h.kept r hr
  · rw [hopened] at hr
    rw [hwritten r, h.silent r hr, if_neg fun hsub => hr (h.subscribed r hsub.1)]
    rfl

theorem Registered.runTick (h : w.Registered) (tick : TickPromise) :
    (w.runTick tick).Registered := by
  unfold Worker.runTick
  split
  · exact h
  · exact ⟨h.nodup, h.subscribed, h.kept, h.silent⟩

theorem Registered.step {e : WorkerEvent} (h : w.Registered) (hstep : w.step env tick e = some w') :
    w'.Registered := by
  cases e with
  | timer =>
    obtain rfl := Option.some.inj hstep
    exact h.runTick tick
  | call i c =>
    obtain ⟨q, k, -, rfl⟩ := step_call hstep
    exact ⟨h.nodup, h.subscribed, h.kept, h.silent⟩
  | settle i iso throws =>
    obtain ⟨result, -, rfl⟩ := step_settle hstep
    exact h.settleTick i iso throws result
  | stream r => exact (step_stream hstep).2 ▸ h.openStream (step_stream hstep).1
  | keepalive r throws =>
    obtain ⟨hr, rfl⟩ := step_keepalive hstep
    split
    · exact h.drop r
    · exact h.write (h.kept r hr) _
  | close r =>
    obtain rfl := step_close hstep
    exact h.drop r

theorem Current.step {e : WorkerEvent} (h : w.Current) (hstep : w.step env tick e = some w') :
    w'.Current := by
  cases e with
  | timer =>
    obtain rfl := Option.some.inj hstep
    unfold Worker.runTick
    split
    · exact h
    · exact h
  | call i c =>
    obtain ⟨q, k, -, rfl⟩ := step_call hstep
    exact h
  | settle i iso throws =>
    obtain ⟨result, -, rfl⟩ := step_settle hstep
    exact current_settleTick i iso throws result
  | stream r =>
    obtain ⟨-, rfl⟩ := step_stream hstep
    exact (sameTicks_openStream w r).current h
  | keepalive r throws =>
    obtain ⟨-, rfl⟩ := step_keepalive hstep
    split
    · exact h
    · exact h
  | close r =>
    obtain rfl := step_close hstep
    exact h

theorem sound_run {events : List WorkerEvent} (hw : w.Registered ∧ w.Current)
    (hrun : Worker.run env tick events w = some w') : w'.Registered ∧ w'.Current := by
  induction events generalizing w with
  | nil =>
    obtain rfl := Option.some.inj hrun
    exact hw
  | cons e events ih =>
    obtain ⟨w₁, hstep, hrun⟩ := Option.bind_eq_some_iff.1 hrun
    exact ih ⟨hw.1.step hstep, hw.2.step hstep⟩ hrun

/-- What a subscriber has been sent of the payloads from the `n`-th on. -/
structure Delivered (n res : Nat) (w : Worker) : Prop where
  isOpen : res ∈ w.opened
  since : n ≤ w.broadcasts.length
  sent : w.ticks res <+: w.broadcasts.drop n
  subscribed : res ∈ w.sseResponses → w.ticks res = w.broadcasts.drop n

theorem drop_pred_length {α : Type} (l : List α) : l.drop (l.length - 1) = l.getLast?.toList := by
  cases hl : l.getLast? with
  | none =>
    rw [List.getLast?_eq_none_iff.1 hl]
    rfl
  | some a =>
    obtain ⟨init, rfl⟩ := List.getLast?_eq_some_iff.1 hl
    simp

theorem ticks_openStream (hw : w.Registered) (hres : res ∉ w.opened) :
    (w.openStream res).ticks res = w.lastPayload.toList := by
  have hsilent := hw.silent res hres
  simp only [openStream]
  cases w.lastPayload with
  | none => simp [ticks, hsilent]
  | some payload => simp [ticks, write, hsilent, Chunk.payload?]

theorem openStream_lists (w : Worker) (res : Nat) :
    (w.openStream res).opened = w.opened ++ [res] ∧ (w.openStream res).sseResponses =
      w.sseResponses ++ [res] := by
  simp only [openStream]
  split
  · exact ⟨rfl, rfl⟩
  · exact ⟨rfl, rfl⟩

/-- A new subscriber gets the last payload at once. -/
theorem delivered_openStream (hw : w.Registered) (hcur : w.Current) (hres : res ∉ w.opened) :
    (w.openStream res).Delivered (w.broadcasts.length - 1) res ∧
      res ∈ (w.openStream res).sseResponses := by
  have hsame := sameTicks_openStream w res
  have hlists := openStream_lists w res
  have hticks : (w.openStream res).ticks res = (w.openStream res).broadcasts.drop
      (w.broadcasts.length - 1) := by
    rw [ticks_openStream hw hres, hsame.broadcasts, drop_pred_length]
    exact congrArg Option.toList hcur
  refine ⟨⟨?_, ?_, ?_, fun _ => hticks⟩, ?_⟩
  · rw [hlists.1]
    exact List.mem_append_right _ (List.mem_singleton_self res)
  · rw [hsame.broadcasts]
    exact Nat.sub_le _ _
  · exact hticks ▸ List.prefix_refl _
  · rw [hlists.2]
    exact List.mem_append_right _ (List.mem_singleton_self res)

/-- Another stream is opened. -/
theorem Delivered.openStream (h : w.Delivered n res) {r : Nat} (hr : r ∉ w.opened) :
    (w.openStream r).Delivered n res := by
  have hne : res ≠ r := fun heq => hr (heq ▸ h.isOpen)
  have hsame := sameTicks_openStream w r
  have hlists := openStream_lists w r
  have hticks : (w.openStream r).ticks res = w.ticks res := by
    simp only [Worker.openStream]
    split
    · simp [ticks, Worker.write, hne]
    · rfl
  refine ⟨?_, ?_, ?_, fun hsub => ?_⟩
  · rw [hlists.1]
    exact List.mem_append_left _ h.isOpen
  · rw [hsame.broadcasts]
    exact h.since
  · rw [hticks, hsame.broadcasts]
    exact h.sent
  · rw [hticks, hsame.broadcasts]
    rw [hlists.2, List.mem_append, List.mem_singleton] at hsub
    exact h.subscribed (hsub.resolve_right hne)

theorem Delivered.settleTick (h : w.Delivered n res) (hnodup : w.sseResponses.Nodup) (i : Nat)
    (iso : String) (throws : Nat → Bool) (result : Except String WatchdogPayload) :
    (w.settleTick env i iso throws result).Delivered n res := by
  obtain ⟨hopened, -, hsse, -⟩ := settleTick_spec env i iso throws result hnodup
  have hsame : SameTicks _ (w.settleTick env i iso throws result) :=
    sameTicks_settleTick env i iso throws result
  have hticks : (w.settleTick env i iso throws result).ticks res = _ :=
    ticks_settleTick env i iso throws result hnodup
  have hdrop : (w.settleTick env i iso throws result).broadcasts.drop n =
      w.broadcasts.drop n ++ [settled env iso result] := by
    rw [hsame.broadcasts]
    exact List.drop_append_of_le_length h.since
  refine ⟨?_, ?_, ?_, fun hsub => ?_⟩
  · rw [hopened]
    exact h.isOpen
  · rw [hsame.broadcasts]
    exact h.since.trans (by simp)
  · rw [hticks, hdrop]
    split
    · next hsub => exact h.subscribed hsub.1 ▸ List.prefix_refl _
    · rw [List.append_nil]
      exact List.prefix_append_of_prefix h.sent
  · rw [hsse, List.mem_filter] at hsub
    have hthrows : throws res = false := by simpa using hsub.2
    rw [hticks, hdrop, if_pos ⟨hsub.1, hthrows⟩, h.subscribed hsub.1]

theorem Delivered.drop (h : w.Delivered n res) (r : Nat) :
    ((w.clearKeepalive r).unsubscribe r).Delivered n res :=
  ⟨h.isOpen, h.since, h.sent, fun hsub => h.subscribed (List.mem_of_mem_filter hsub)⟩

theorem Delivered.keepalive (h : w.Delivered n res) (r : Nat) :
    (w.write r .keepalive).Delivered n res := by
  have hticks := ticks_keepalive w r res
  refine ⟨h.isOpen, h.since, ?_, fun hsub => ?_⟩
  · rw [hticks]
    exact h.sent
  · rw [hticks]
    exact h.subscribed hsub

theorem Delivered.step {e : WorkerEvent} (h : w.Delivered n res) (hw : w.Registered)
    (hstep : w.step env tick e = some w') : w'.Delivered n res := by
  cases e with
  | timer =>
    obtain rfl := Option.some.inj hstep
    unfold Worker.runTick
    split
    · exact h
    · exact ⟨h.isOpen, h.since, h.sent, h.subscribed⟩
  | call i c =>
    obtain ⟨q, k, -, rfl⟩ := step_call hstep
    exact ⟨h.isOpen, h.since, h.sent, h.subscribed⟩
  | settle i iso throws =>
    obtain ⟨result, -, rfl⟩ := step_settle hstep
    exact h.settleTick hw.nodup i iso throws result
  | stream r =>
    obtain ⟨hr, rfl⟩ := step_stream hstep
    exact h.openStream hr
  | keepalive r throws =>
    obtain ⟨-, rfl⟩ := step_keepalive hstep
    split
    · exact h.drop r
    · exact h.keepalive r
  | close r =>
    obtain rfl := step_close hstep
    exact h.drop r

/-- Only the events that say so end a subscription. -/
theorem subscribed_step {e : WorkerEvent} (hw : w.Registered) (hsub : res ∈ w.sseResponses)
    (hdrops : ¬ e.Drops res) (hstep : w.step env tick e = some w') : res ∈ w'.sseResponses := by
  cases e with
  | timer =>
    obtain rfl := Option.some.inj hstep
    unfold Worker.runTick
    split
    · exact hsub
    · exact hsub
  | call i c =>
    obtain ⟨q, k, -, rfl⟩ := step_call hstep
    exact hsub
  | settle i iso throws =>
    obtain ⟨result, -, rfl⟩ := step_settle hstep
    rw [(settleTick_spec env i iso throws result hw.nodup).2.2.1, List.mem_filter]
    exact ⟨hsub, by simpa [WorkerEvent.Drops] using hdrops⟩
  | stream r =>
    obtain ⟨-, rfl⟩ := step_stream hstep
    rw [(openStream_lists w r).2]
    exact List.mem_append_left _ hsub
  | keepalive r throws =>
    obtain ⟨-, rfl⟩ := step_keepalive hstep
    split
    · next hthrows =>
        exact List.mem_filter.2 ⟨hsub, bne_iff_ne.2 fun heq => hdrops ⟨heq.symm, hthrows⟩⟩
    · exact hsub
  | close r =>
    obtain rfl := step_close hstep
    exact List.mem_filter.2 ⟨hsub, bne_iff_ne.2 fun heq => hdrops heq.symm⟩

theorem Delivered.run {events : List WorkerEvent} (h : w.Delivered n res) (hw : w.Registered)
    (hrun : Worker.run env tick events w = some w') :
    w'.Delivered n res ∧
      (res ∈ w.sseResponses → (∀ e ∈ events, ¬ e.Drops res) → res ∈ w'.sseResponses) := by
  induction events generalizing w with
  | nil =>
    obtain rfl := Option.some.inj hrun
    exact ⟨h, fun hsub _ => hsub⟩
  | cons e events ih =>
    obtain ⟨w₁, hstep, hrun⟩ := Option.bind_eq_some_iff.1 hrun
    obtain ⟨hend, hstays⟩ := ih (h.step hw hstep) (hw.step hstep) hrun
    refine ⟨hend, fun hsub hdrops => ?_⟩
    have hsub₁ := subscribed_step hw hsub (hdrops e List.mem_cons_self) hstep
    exact hstays hsub₁ fun e' he' => hdrops e' (List.mem_cons_of_mem e he')

/-- **A stream**: the payload that was the last one when it was opened, and each one since, in order
and none left out, up to the point where the subscriber is dropped. -/
theorem stream_delivers (env : Environment) (tick : TickPromise) (before after : List WorkerEvent)
    (res : Nat) (w₀ w : Worker) (hbefore : Worker.run env tick before .start = some w₀)
    (hafter : Worker.run env tick (.stream res :: after) w₀ = some w) :
    w.ticks res <+: w.broadcasts.drop (w₀.broadcasts.length - 1) ∧
      ((∀ e ∈ after, ¬ e.Drops res) →
        w.ticks res = w.broadcasts.drop (w₀.broadcasts.length - 1)) := by
  obtain ⟨hw₀, hcur⟩ := sound_run ⟨registered_start, rfl⟩ hbefore
  obtain ⟨w₁, hstep, hrun⟩ := Option.bind_eq_some_iff.1 hafter
  obtain ⟨hres, rfl⟩ := step_stream hstep
  obtain ⟨hopen, hsub⟩ := delivered_openStream hw₀ hcur hres
  obtain ⟨hend, hstays⟩ := hopen.run (hw₀.openStream hres) hrun
  exact ⟨hend.sent, fun hdrops => hend.subscribed (hstays hsub hdrops)⟩

/-- One payload before the stream is opened and one after. -/
theorem stream_delivers_timers :
    ∃ w : Worker, w.broadcasts.length = 2 ∧ w.ticks 7 = w.broadcasts := by
  have h :=
    stream_delivers emptyEnv (workerTick emptyEnv) overlappingTimers
      (overlappingTimers ++ [.keepalive 7 false])
    7 _ _ rfl rfl
  refine ⟨_, ?_, h.2 ?_⟩
  · rfl
  · simp [overlappingTimers, List.replicate, WorkerEvent.Drops]

end Worker

end PeHackathon.Watchdog
