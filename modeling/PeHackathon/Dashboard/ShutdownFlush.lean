import PeHackathon.Dashboard.ClearRace

/-!
# The final flush

`stop_flush_loop` stops the loop, cancels the timer, and flushes once more. It does not wait for a
tick that runs already. `stop_leaves_nothing_iff`: everything added before the stop is stored when
it returns, and no tick flushes after the final flush, exactly when no tick stands between its check
of `_flush_running` and its flush as the final flush begins, and nothing from before the stop waits
or is in flight elsewhere as the stop takes its last step.
-/

namespace PeHackathon.Dashboard

open Lib

/-! ## Ticks -/

/-- Whether the answer to a step lets a tick flush. -/
def permits : (q : LogCall) → LogAnswer q → Bool
  | .isRunning, running => running
  | _, _ => false

/-- A tick flushes only right after it found the loop running. -/
def Guarded {α : Type} : LogProg α → Prop
  | .ret _ => True
  | .call q k => ∀ r, (k r).next? = some .takePending → permits q r = true

/-- A program that does not start the loop. -/
def NeverStarts {α : Type} (p : LogProg α) : Prop := ∀ q, p.next? = some q → q ≠ .setRunning true

theorem sendBatch_guarded {α : Type} {f : Unit → LogProg α} (hf : (f ()).Always Guarded)
    (hnext : (f ()).next? ≠ some .takePending) (logs : List LogEntry) :
    (sendBatch logs >>= f).next? ≠ some .takePending ∧ (sendBatch logs >>= f).Always Guarded := by
  by_cases hne : logs = []
  · subst hne
    exact ⟨hnext, hf⟩
  · rw [sendBatch_bind hne]
    refine ⟨nofun, fun (flushed : Nat) => ?_, fun (flushed : Nat) => ?_⟩
    · change (if flushed = 0 then .call (.putBack logs) f else f ()).next? = _ → _
      split
      · exact nofun
      · exact fun h => absurd h hnext
    · change Prog.Always Guarded (if flushed = 0 then .call (.putBack logs) f else f ())
      split
      · exact ⟨fun _ h => absurd h hnext, fun _ => hf⟩
      · exact hf

theorem timerThread_guarded (id : Nat) : (timerThread id).Always Guarded := by
  have hend : scheduleTick.Always Guarded := by
    refine ⟨fun running => ?_, fun running => ?_⟩
    · cases running <;> exact nofun
    · cases running
      · trivial
      · exact ⟨fun _ => nofun, fun _ => trivial⟩
  have hflush : (flushToDb >>= fun _ => scheduleTick).Always Guarded := by
    have hnext : scheduleTick.next? ≠ some .takePending := by
      change some LogCall.isRunning ≠ some .takePending
      exact nofun
    rw [flushToDb_bind]
    exact ⟨fun logs h => absurd h (sendBatch_guarded hend hnext logs).1,
      fun logs => (sendBatch_guarded hend hnext logs).2⟩
  have htick : flushTick.Always Guarded := by
    refine ⟨fun running => ?_, fun running => ?_⟩
    · cases running
      · exact nofun
      · exact fun _ => rfl
    · cases running
      · trivial
      · exact hflush
  refine ⟨fun live => ?_, fun live => ?_⟩
  · cases live <;> exact nofun
  · cases live
    · trivial
    · exact htick

/-- The stop takes out what waits only at its final flush. -/
theorem stopFlushLoop_takes :
    stopFlushLoop.Always fun p => p.next? = some .takePending → p = flushToDb := by
  have hsend : ∀ logs, (sendBatch logs).Always fun p =>
      p.next? = some .takePending → p = flushToDb := by
    intro logs
    unfold sendBatch
    split
    · refine ⟨nofun, fun (flushed : Nat) => ?_⟩
      change Prog.Always _ (if flushed = 0 then LogProg.step (.putBack logs) else return ())
      split
      · exact ⟨nofun, fun _ => nofun⟩
      · exact nofun
    · exact nofun
  exact ⟨nofun, fun _ => ⟨nofun, fun _ => ⟨fun _ => rfl, hsend⟩⟩⟩

theorem thread_neverStarts {thread : LogThread} (h : thread ≠ .startLoop) :
    thread.prog.Always NeverStarts := by
  suffices hall : thread.prog.All (· ≠ .setRunning true) from hall.always
  have hflush : flushToDb.All (· ≠ .setRunning true) := by
    refine ⟨nofun, fun logs => ?_⟩
    change (sendBatch logs).All _
    unfold sendBatch
    split
    · refine ⟨nofun, fun (flushed : Nat) => ?_⟩
      change (if flushed = 0 then LogProg.step (.putBack logs) else return ()).All _
      split
      · exact ⟨nofun, fun _ => trivial⟩
      · trivial
    · trivial
  cases thread with
  | startLoop => exact absurd rfl h
  | ingest entries =>
    change (ingestLogs entries).All _
    induction entries with
    | nil => trivial
    | cons fields rest ih => exact ⟨nofun, fun _ => ih nofun⟩
  | flush => exact hflush
  | timer id =>
    refine ⟨nofun, fun live => ?_⟩
    cases live
    · trivial
    · refine ⟨nofun, fun running => ?_⟩
      cases running
      · trivial
      · change (flushToDb >>= fun _ => scheduleTick).All _
        refine hflush.bind fun _ => ⟨nofun, fun again => ?_⟩
        cases again
        · trivial
        · exact ⟨nofun, fun _ => trivial⟩
  | stopLoop => exact ⟨nofun, fun _ => ⟨nofun, fun _ => hflush⟩⟩
  | clear => exact ⟨nofun, fun _ => ⟨nofun, fun _ => trivial⟩⟩

/-- Once the loop is stopped only a start makes it run again. -/
theorem logServe_stopped {pg : Postgres} {c : LogChoice} {w w' : LogWorld} {q : LogCall}
    {r : LogAnswer q} (hq : q ≠ .setRunning true) (h : logServe pg c w q = some (r, w'))
    (hw : w.cache.flushRunning = false) : w'.cache.flushRunning = false ∧ permits q r = false := by
  cases q with
  | setRunning b =>
    cases h
    cases b
    · exact ⟨rfl, rfl⟩
    · exact absurd rfl hq
  | isRunning =>
    cases h
    exact ⟨hw, hw⟩
  | cancelTimer =>
    cases h
    exact ⟨by simpa using hw, rfl⟩
  | fire timer =>
    obtain ⟨cancelled, -, he⟩ := Option.map_eq_some_iff.1 h
    cases he
    exact ⟨hw, rfl⟩
  | _ => cases h; exact ⟨hw, rfl⟩

/-! ## A stop among others -/

section Stop

variable {ι : Type} [DecidableEq ι] {pg : Postgres} {thread : ι → LogThread} {maxEntries n : Nat}
  {i : ι} {p p' p₁ p₂ p₃ p₄ p₅ : Pool LogAnswer ι LogWorld Unit}

/-- A tick stands between its check that the loop runs and its flush. -/
def TickFlushes (thread : ι → LogThread) (p : Pool LogAnswer ι LogWorld Unit) : Prop :=
  ∃ j id, thread j = .timer id ∧ (p.procs j).next? = some .takePending

/-- An entry from before the `n`-th one waits, or is held by another thread than `i`. -/
def Elsewhere (n : Nat) (i : ι) (p : Pool LogAnswer ι LogWorld Unit) : Prop :=
  ∃ entry, entry.ref < n ∧
    (entry ∈ p.world.cache.pendingFlush ∨ ∃ j, j ≠ i ∧ entry ∈ LogProg.held (p.procs j))

/-- A run in which thread `i` stops the loop, called at `p₁`, and takes out what waits at `p₂`. The
loop was started before, and nobody clears. -/
structure StopTake (pg : Postgres) (thread : ι → LogThread) (maxEntries : Nat) (i : ι)
    (p₁ p₂ p₃ : Pool LogAnswer ι LogWorld Unit) : Prop where
  stops : thread i = .stopLoop
  noClear : ∀ j, thread j ≠ .clear
  before : Pool.Steps (logServer pg ι) (fun _ _ _ => True) (logThreads thread maxEntries) p₁
  fresh : p₁.begun i = false
  started : ∀ j, thread j = .startLoop → p₁.Done j
  stopping : Pool.Steps (logServer pg ι) (fun _ _ _ => True) p₁ p₂
  atFlush : (p₂.procs i).next? = some .takePending
  take : ∃ c, p₂.next (logServer pg ι) i c = some p₃

/-- The rest of the run: the stop takes its last step at `p₄`, and returns at `p₅`. With something
to flush, this step stores it: the database accepts the batch. -/
structure StopRun (pg : Postgres) (thread : ι → LogThread) (maxEntries : Nat) (i : ι)
    (p₁ p₂ p₃ p₄ p₅ : Pool LogAnswer ι LogWorld Unit) : Prop
    extends StopTake pg thread maxEntries i p₁ p₂ p₃ where
  last : p₂.world.cache.pendingFlush = [] ∧ p₄ = p₂ ∧ p₅ = p₃ ∨
    p₂.world.cache.pendingFlush ≠ [] ∧ Pool.Steps (logServer pg ι) (fun _ j _ => j ≠ i) p₃ p₄ ∧
      ∃ c, c.reachable = true ∧ (rowsOf pg c.now p₂.world.cache.pendingFlush).isSome ∧
        p₄.next (logServer pg ι) i c = some p₅

/-- The loop does not run, nobody starts it, and no tick is about to flush. -/
structure Quiet (thread : ι → LogThread) (p : Pool LogAnswer ι LogWorld Unit) : Prop where
  stopped : p.world.cache.flushRunning = false
  starts : ∀ j, (p.procs j).Always NeverStarts
  guarded : ∀ j id, thread j = .timer id → (p.procs j).Always Guarded
  tick : ¬ TickFlushes thread p

/-- A tick that has not passed its check does not flush any more. -/
theorem Quiet.steps {P : Pool LogAnswer ι LogWorld Unit → ι → LogChoice → Prop}
    (hquiet : Quiet thread p) (h : Pool.Steps (logServer pg ι) P p p') : Quiet thread p' := by
  refine h.inv (J := Quiet thread) (fun p p' j c hP hn hquiet => ?_) hquiet
  have hstep : Pool.Steps (logServer pg ι) P p p' := .step hP hn (.refl p')
  obtain ⟨q, k, r, w, hq, hr, -, rfl⟩ := Pool.next_cases hn
  have hstarts : q ≠ .setRunning true := (hquiet.starts j).here q (by rw [hq]; rfl)
  obtain ⟨hstopped, hpermits⟩ := logServe_stopped hstarts hr hquiet.stopped
  refine ⟨hstopped, fun l => hstep.always (hquiet.starts l), fun l id hl =>
    hstep.always (hquiet.guarded l id hl), ?_⟩
  rintro ⟨l, id, hl, hnext⟩
  by_cases hlj : l = j
  · subst hlj
    have hguarded := (hquiet.guarded l id hl).here
    rw [hq] at hguarded
    simp only [Function.update_self] at hnext
    rw [hguarded r hnext] at hpermits
    cases hpermits
  · simp only [Function.update_of_ne hlj] at hnext
    exact hquiet.tick ⟨l, id, hl, hnext⟩

namespace StopTake

/-- What is not started any more stays so from the call of the stop on. -/
theorem neverStarts (run : StopTake pg thread maxEntries i p₁ p₂ p₃) (j : ι) :
    (p₁.procs j).Always NeverStarts := by
  by_cases hj : thread j = .startLoop
  · obtain ⟨a, ha⟩ := run.started j hj
    rw [ha]
    exact nofun
  · exact run.before.always (thread_neverStarts hj)

/-- The stop begins its final flush. -/
theorem flushes (run : StopTake pg thread maxEntries i p₁ p₂ p₃) : p₂.procs i = flushToDb := by
  have hprog : ((logThreads thread maxEntries).procs i).Always fun p =>
      p.next? = some .takePending → p = flushToDb := by
    change (thread i).prog.Always _
    rw [run.stops]
    exact stopFlushLoop_takes
  exact (run.stopping.always (run.before.always hprog)).here run.atFlush

/-- The loop is stopped when the final flush begins. -/
theorem stopped (run : StopTake pg thread maxEntries i p₁ p₂ p₃) :
    p₂.world.cache.flushRunning = false := by
  have hcalled : p₁.procs i = stopFlushLoop := by
    rw [run.before.unbegun run.fresh, run.stops]
    rfl
  have hkey := run.stopping.inv (J := fun p => (∀ j, (p.procs j).Always NeverStarts) ∧
    (p.procs i = stopFlushLoop ∨ p.world.cache.flushRunning = false)) ?_
    ⟨run.neverStarts, .inl hcalled⟩
  · rcases hkey.2 with hstop | hstopped
    · rw [run.flushes] at hstop
      exact absurd (congrArg Prog.next? hstop) nofun
    · exact hstopped
  rintro p p' j c hP hn ⟨hstarts, hp⟩
  have hstep : Pool.Steps (logServer pg ι) (fun _ _ _ => True) p p' := .step hP hn (.refl p')
  refine ⟨fun l => hstep.always (hstarts l), ?_⟩
  obtain ⟨q, k, r, w, hq, hr, -, rfl⟩ := Pool.next_cases hn
  have hnever : q ≠ .setRunning true := (hstarts j).here q (by rw [hq]; rfl)
  rcases hp with hstop | hstopped
  · by_cases hij : i = j
    · -- the stop clears the flag
      subst hij
      rw [hstop] at hq
      cases hq
      cases hr
      exact .inr rfl
    · exact .inl ((Function.update_of_ne hij _ _).trans hstop)
  · exact .inr (logServe_stopped hnever hr hstopped).1

/-- No tick about to flush as the final flush begins: none will be. -/
theorem quiet (run : StopTake pg thread maxEntries i p₁ p₂ p₃)
    (htick : ¬ TickFlushes thread p₂) : Quiet thread p₂ where
  stopped := run.stopped
  starts j := run.stopping.always (run.neverStarts j)
  guarded j id hj := by
    have hprog : ((logThreads thread maxEntries).procs j).Always Guarded := by
      change (thread j).prog.Always Guarded
      rw [hj]
      exact timerThread_guarded id
    exact run.stopping.always (run.before.always hprog)
  tick := htick

/-- The take leaves nothing waiting, and the stop with the batch. -/
theorem taken (run : StopTake pg thread maxEntries i p₁ p₂ p₃) :
    p₃.world.cache.pendingFlush = [] ∧
      p₃.procs = Function.update p₂.procs i (sendBatch p₂.world.cache.pendingFlush) := by
  obtain ⟨c, htake⟩ := run.take
  obtain ⟨q, k, r, w, hq, hr, -, rfl⟩ := Pool.next_cases htake
  rw [run.flushes] at hq
  cases hq
  cases hr
  exact ⟨rfl, rfl⟩

end StopTake

namespace StopRun

/-- The last step of the stop leaves what waits elsewhere, and the other threads, as they were. -/
theorem returned (run : StopRun pg thread maxEntries i p₁ p₂ p₃ p₄ p₅) :
    p₅.procs i = .ret () ∧ p₅.world.cache.pendingFlush = p₄.world.cache.pendingFlush ∧
      ∀ j, j ≠ i → p₅.procs j = p₄.procs j := by
  rcases run.last with ⟨hnone, rfl, rfl⟩ | ⟨hsome, hwait, c, hreach, hrows, hlast⟩
  · obtain ⟨hpending, hprocs⟩ := run.taken
    refine ⟨?_, hpending.trans hnone.symm, fun j hj => ?_⟩
    · rw [hprocs, Function.update_self, hnone]
      rfl
    · rw [hprocs, Function.update_of_ne hj]
  · have hsend : p₄.procs i = sendBatch p₂.world.cache.pendingFlush := by
      refine hwait.inv (J := fun p => p.procs i = sendBatch p₂.world.cache.pendingFlush)
        (fun p p' j c hj hn hp => (Pool.next_procs_ne hn hj.symm).trans hp) ?_
      rw [run.taken.2, Function.update_self]
    obtain ⟨rows, hrows⟩ := Option.isSome_iff_exists.1 hrows
    have hcount : rows.length ≠ 0 := by
      rw [← List.length_map (·.entry), rowsOf_entries hrows]
      exact (List.length_pos_iff.2 hsome).ne'
    have hflush : flushLogs pg c.reachable c.now p₂.world.cache.pendingFlush p₄.world.kafkaLogs =
        (rows.length, p₄.world.kafkaLogs ++ rows) := by
      rw [flushLogs, if_neg (by simpa using hsome), if_pos hreach, hrows]
    obtain ⟨q, k, r, w, hq, hr, -, rfl⟩ := Pool.next_cases hlast
    rw [hsend, ← Prog.bind_ret (sendBatch _), sendBatch_bind hsome] at hq
    cases hq
    change some ((flushLogs pg c.reachable c.now p₂.world.cache.pendingFlush
      p₄.world.kafkaLogs).1, _) = some (r, w) at hr
    rw [hflush] at hr
    cases hr
    exact ⟨(Function.update_self i _ _).trans (if_neg hcount), rfl, fun j hj =>
      Function.update_of_ne hj _ _⟩

/-- The whole run up to the return of the stop. -/
theorem steps (run : StopRun pg thread maxEntries i p₁ p₂ p₃ p₄ p₅) :
    Pool.Steps (logServer pg ι) (fun _ _ _ => True) (logThreads thread maxEntries) p₅ := by
  obtain ⟨c, htake⟩ := run.take
  have htaken : Pool.Steps (logServer pg ι) (fun _ _ _ => True) (logThreads thread maxEntries) p₃ :=
    (run.before.trans run.stopping).trans (.step trivial htake (.refl _))
  rcases run.last with ⟨-, -, rfl⟩ | ⟨-, hwait, c', -, -, hlast⟩
  · exact htaken
  · exact (htaken.trans (hwait.mono fun _ _ _ _ => trivial)).trans (.step trivial hlast (.refl _))

end StopRun

/-- Every entry from before the `n`-th one is stored, and none is stored twice. -/
def AllStored (n : Nat) (w : LogWorld) : Prop :=
  w.stored.Nodup ∧ ∀ entry ∈ w.added, entry.ref < n → entry ∈ w.stored

/-- What is stored, when the stop returns, is what is not elsewhere as it takes its last step. -/
theorem StopRun.allStored_iff [Fintype ι] (run : StopRun pg thread maxEntries i p₁ p₂ p₃ p₄ p₅) :
    AllStored n p₅.world ↔ ¬ Elsewhere n i p₄ := by
  obtain ⟨hconserved, hnodup, hstored⟩ := flush_conserves run.noClear run.steps
  obtain ⟨hret, hpending, hothers⟩ := run.returned
  rw [← Multiset.coe_nodup, hconserved, add_assoc, Multiset.nodup_add] at hnodup
  have hmem : ∀ entry, entry ∈ p₅.world.added ↔
      entry ∈ p₅.world.stored ∨ entry ∈ p₅.world.cache.pendingFlush ∨ entry ∈ inFlight p₅ := by
    intro entry
    rw [← Multiset.mem_coe, hconserved, Multiset.mem_add, Multiset.mem_add, or_assoc]
    rfl
  have hflight : ∀ entry, entry ∈ inFlight p₅ ↔ ∃ j, j ≠ i ∧ entry ∈ LogProg.held (p₄.procs j) := by
    intro entry
    rw [inFlight, Multiset.mem_sum]
    constructor
    · rintro ⟨j, -, hj⟩
      have hji : j ≠ i := by
        rintro rfl
        rw [hret] at hj
        exact List.not_mem_nil hj
      exact ⟨j, hji, hothers j hji ▸ hj⟩
    · rintro ⟨j, hji, hj⟩
      refine ⟨j, Finset.mem_univ j, ?_⟩
      rw [hothers j hji]
      exact hj
  constructor
  · rintro ⟨-, hall⟩ ⟨entry, hold, hentry⟩
    rw [← hpending, ← hflight] at hentry
    have hin : entry ∈ p₅.world.stored := hall entry ((hmem entry).2 (.inr hentry)) hold
    exact Multiset.disjoint_left.1 hnodup.2.2 hin (Multiset.mem_add.2 hentry)
  · refine fun hnone => ⟨hstored, fun entry hadded hold => ?_⟩
    rcases (hmem entry).1 hadded with hin | hentry
    · exact hin
    · rw [hpending, hflight] at hentry
      exact absurd ⟨entry, hold, hentry⟩ hnone

/-- Ticks flush after the take exactly when one was about to before it. -/
theorem StopTake.tick_iff (run : StopTake pg thread maxEntries i p₁ p₂ p₃) :
    (∀ p, Pool.Steps (logServer pg ι) (fun _ _ _ => True) p₃ p → ¬ TickFlushes thread p) ↔
      ¬ TickFlushes thread p₂ := by
  obtain ⟨c, htake⟩ := run.take
  constructor
  · rintro hnone ⟨j, id, hj, hnext⟩
    have hji : j ≠ i := by
      rintro rfl
      rw [run.stops] at hj
      cases hj
    refine hnone p₃ (.refl _) ⟨j, id, hj, ?_⟩
    rw [Pool.next_procs_ne htake hji]
    exact hnext
  · intro htick p h
    have hsteps : Pool.Steps (logServer pg ι) (fun _ _ _ => True) p₂ p := .step trivial htake h
    exact ((run.quiet htick).steps hsteps).tick

/-- **The stop leaves nothing behind exactly when no tick is about to flush as the final flush
begins, and no entry from before the stop waits or is in flight elsewhere as the stop takes its last
step.** -/
theorem stop_leaves_nothing_iff [Fintype ι] (run : StopRun pg thread maxEntries i p₁ p₂ p₃ p₄ p₅) :
    AllStored p₁.world.added.length p₅.world ∧
        (∀ p, Pool.Steps (logServer pg ι) (fun _ _ _ => True) p₃ p → ¬ TickFlushes thread p) ↔
      ¬ TickFlushes thread p₂ ∧ ¬ Elsewhere p₁.world.added.length i p₄ := by
  rw [run.allStored_iff, run.toStopTake.tick_iff]
  exact and_comm

end Stop

/-! ## Samples -/

/-- Two entries, the loop with its first timer, and the stop. -/
def stopThreads : Fin 4 → LogThread :=
  ![.ingest [sampleLog "a", sampleLog "b"], .startLoop, .timer 0, .stopLoop]

/-- Whether a thread is about to take out what waits. -/
def LogProg.takes {α : Type} (p : LogProg α) : Bool :=
  match p.next? with
  | some .takePending => true
  | _ => false

theorem takes_iff {α : Type} {p : LogProg α} :
    LogProg.takes p = true ↔ p.next? = some .takePending := by
  unfold LogProg.takes
  split <;> simp_all

/-- A stop that runs without a break after a schedule. -/
theorem StopTake.of_schedule (before : List (Fin 4 × LogChoice))
    (J : Pool LogAnswer (Fin 4) LogWorld Unit → Pool LogAnswer (Fin 4) LogWorld Unit →
      Pool LogAnswer (Fin 4) LogWorld Unit → Bool)
    (h : (((logThreads stopThreads 10).runIf (logServer samplePostgres (Fin 4))
      (fun _ _ _ => True) before).any fun p₁ =>
        (!p₁.begun 3 && (p₁.procs 1).next?.isNone) &&
        (p₁.runIf (logServer samplePostgres (Fin 4)) (fun _ _ _ => True) (steps 2 3)).any fun p₂ =>
          LogProg.takes (p₂.procs 3) &&
          (p₂.next (logServer samplePostgres (Fin 4)) 3 { now := 0, reachable := true }).any
            fun p₃ => J p₁ p₂ p₃) = true) :
    ∃ p₁ p₂ p₃, StopTake samplePostgres stopThreads 10 3 p₁ p₂ p₃ ∧ J p₁ p₂ p₃ = true := by
  obtain ⟨p₁, hbefore, h⟩ := (Option.any_eq_true _ _).1 h
  obtain ⟨hfirst, h⟩ := Bool.and_eq_true_iff.1 h
  obtain ⟨hfresh, hover⟩ := Bool.and_eq_true_iff.1 hfirst
  obtain ⟨p₂, hstopping, h⟩ := (Option.any_eq_true _ _).1 h
  obtain ⟨htakes, h⟩ := Bool.and_eq_true_iff.1 h
  obtain ⟨p₃, htake, hJ⟩ := (Option.any_eq_true _ _).1 h
  have hclear : ∀ j, stopThreads j ≠ .clear := by
    intro j
    fin_cases j <;> exact nofun
  have hstarted : ∀ j, stopThreads j = .startLoop → p₁.Done j := by
    intro j hj
    have hj1 : j = 1 := by
      fin_cases j
      · cases hj
      · rfl
      · cases hj
      · cases hj
    subst hj1
    cases hprog : p₁.procs 1 with
    | ret a => exact ⟨a, hprog⟩
    | call q k =>
      rw [hprog] at hover
      cases hover
  exact ⟨p₁, p₂, p₃, ⟨rfl, hclear, .of_runIf hbefore, by simpa using hfresh, hstarted,
    .of_runIf hstopping, takes_iff.1 htakes, ⟨_, htake⟩⟩, hJ⟩

/-- The tick is over when the loop is stopped: the second entry is left to the final flush. -/
theorem stop_leaves_nothing_sample : ∃ p₁ p₃ p₅ : Pool LogAnswer (Fin 4) LogWorld Unit,
    p₁.world.added.length = 2 ∧ p₁.world.stored.length = 1 ∧ AllStored 2 p₅.world ∧
      ∀ p, Pool.Steps (logServer samplePostgres (Fin 4)) (fun _ _ _ => True) p₃ p →
        ¬ TickFlushes stopThreads p := by
  obtain ⟨p₁, p₂, p₃, htake, hfacts⟩ := StopTake.of_schedule
    (steps 1 0 ++ steps 2 1 ++ steps 6 2 ++ steps 1 0)
    (fun p₁ p₂ p₃ => p₁.world.added.length = 2 ∧ p₁.world.stored.length = 1 ∧
      LogProg.takes (p₂.procs 2) = false ∧ p₂.world.cache.pendingFlush.isEmpty = false ∧
      (rowsOf samplePostgres 0 p₂.world.cache.pendingFlush).isSome ∧
      p₃.world.cache.pendingFlush.isEmpty ∧
      (∀ j, j ≠ 3 → (LogProg.held (p₃.procs j)).isEmpty) ∧
      (p₃.next (logServer samplePostgres (Fin 4)) 3 { now := 0, reachable := true }).isSome)
    (by decide +kernel)
  obtain ⟨hadded, hstored, htick, hsome, hrows, hpending, hheld, hlast⟩ := of_decide_eq_true hfacts
  obtain ⟨p₅, hlast⟩ := Option.isSome_iff_exists.1 hlast
  have hne : p₂.world.cache.pendingFlush ≠ [] := by
    intro hnil
    rw [hnil] at hsome
    cases hsome
  have run : StopRun samplePostgres stopThreads 10 3 p₁ p₂ p₃ p₃ p₅ :=
    ⟨htake, .inr ⟨hne, .refl _, { now := 0, reachable := true }, rfl, hrows, hlast⟩⟩
  have hquiet : ¬ TickFlushes stopThreads p₂ := by
    rintro ⟨j, id, hj, hnext⟩
    have hj2 : j = 2 := by
      fin_cases j
      · cases hj
      · cases hj
      · rfl
      · cases hj
    subst hj2
    rw [takes_iff.2 hnext] at htick
    cases htick
  have hnone : ¬ Elsewhere p₁.world.added.length 3 p₃ := by
    rintro ⟨entry, -, hentry | ⟨j, hj, hentry⟩⟩
    · rw [List.isEmpty_iff.1 hpending] at hentry
      exact List.not_mem_nil hentry
    · rw [List.isEmpty_iff.1 (hheld j hj)] at hentry
      exact List.not_mem_nil hentry
  obtain ⟨hall, hticks⟩ := (stop_leaves_nothing_iff run).2 ⟨hquiet, hnone⟩
  exact ⟨p₁, p₃, p₅, hadded, hstored, hadded ▸ hall, hticks⟩

/-- A tick holds the entry while the loop is stopped: the final flush finds nothing, and the stop
returns before the entry is stored. -/
theorem stop_leaves_behind : ∃ p₁ p₂ p₃ p₄ p₅ : Pool LogAnswer (Fin 4) LogWorld Unit,
    StopRun samplePostgres stopThreads 10 3 p₁ p₂ p₃ p₄ p₅ ∧ p₁.world.added.length = 1 ∧
      ¬ AllStored 1 p₅.world := by
  obtain ⟨p₁, p₂, p₃, htake, hfacts⟩ := StopTake.of_schedule
    (steps 1 0 ++ steps 2 1 ++ steps 3 2)
    (fun p₁ p₂ p₃ => p₁.world.added.length = 1 ∧ p₂.world.cache.pendingFlush.isEmpty ∧
      p₃.world.added.any (·.ref < 1) ∧ p₃.world.stored.isEmpty) (by decide +kernel)
  obtain ⟨hadded, hpending, hany, hstored⟩ := of_decide_eq_true hfacts
  refine ⟨p₁, p₂, p₃, p₂, p₃, ⟨htake, .inl ⟨List.isEmpty_iff.1 hpending, rfl, rfl⟩⟩, hadded, ?_⟩
  rintro ⟨-, hall⟩
  obtain ⟨entry, hentry, hold⟩ := List.any_eq_true.1 hany
  have hin := hall entry hentry (of_decide_eq_true hold)
  rw [List.isEmpty_iff.1 hstored] at hin
  exact List.not_mem_nil hin

end PeHackathon.Dashboard
