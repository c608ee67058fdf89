import PeHackathon.Watchdog.Tick

/-!
# What the steps of a tick change

The rules by which results about ticks are proved speak of the exited lifecycle, the cooldowns of
the auto-recovery, the clock and the history. `Edit` says how a stretch changes these, and `Same`
that it does not. Logs, activity, events, the previous rows and the state of the recovery by
heartbeat are quiet: a program of quiet steps leaves the rest the `Same`.
-/

namespace PeHackathon.Watchdog

open Lib

/-! ## Changes of the world -/

def World.lifecycle (w : World) : HeartbeatExitLifecycleState := w.state.heartbeatExitLifecycle

@[simp] theorem World.start_lifecycle :
    World.start.lifecycle = createHeartbeatExitLifecycleState := rfl

def World.recoverCooldown (w : World) : Dict String Nat := w.state.recoverCooldown

/-- From `w` to `w'` the lifecycle changes by `f`, the cooldowns by `g`, and no mark is made. -/
structure Edit (f : HeartbeatExitLifecycleState → HeartbeatExitLifecycleState)
    (g : Dict String Nat → Dict String Nat) (w w' : World) : Prop where
  lifecycle : w'.lifecycle = f w.lifecycle
  recoverCooldown : w'.recoverCooldown = g w.recoverCooldown
  trace : w'.trace = w.trace
  clock : w.clock ≤ w'.clock

/-- Nothing that matters changes. -/
abbrev Same (w w' : World) : Prop := Edit id id w w'

theorem Same.refl (w : World) : Same w w := ⟨rfl, rfl, rfl, Nat.le_refl _⟩

theorem Edit.same {f : HeartbeatExitLifecycleState → HeartbeatExitLifecycleState}
    {g : Dict String Nat → Dict String Nat} {w w' w'' : World} (h : Edit f g w w')
    (h' : Same w' w'') : Edit f g w w'' :=
  ⟨h'.lifecycle.trans h.lifecycle, h'.recoverCooldown.trans h.recoverCooldown,
    h'.trace.trans h.trace, Nat.le_trans h.clock h'.clock⟩

theorem Same.edit {f : HeartbeatExitLifecycleState → HeartbeatExitLifecycleState}
    {g : Dict String Nat → Dict String Nat} {w w' w'' : World} (h : Same w w')
    (h' : Edit f g w' w'') : Edit f g w w'' :=
  ⟨h'.lifecycle.trans (congrArg f h.lifecycle),
    h'.recoverCooldown.trans (congrArg g h.recoverCooldown), h'.trace.trans h.trace,
    Nat.le_trans h.clock h'.clock⟩

/-- A fact that quiet steps keep. -/
def Stable (P : World → Prop) : Prop := ∀ w w', Same w w' → P w → P w'

/-- The steps that change nothing that matters. -/
def Call.Quiet : Call → Prop
  | .get | .dateNow | .isoNow | .performanceNow => True
  | .update f => ∀ s, (f s).heartbeatExitLifecycle = s.heartbeatExitLifecycle ∧
      (f s).recoverCooldown = s.recoverCooldown
  | _ => False

theorem Call.Quiet.waits {q : Call} (h : q.Quiet) : q.waits = false := by
  cases q <;> first | rfl | exact h.elim

theorem Call.Quiet.serve {q : Call} (h : q.Quiet) (c : Choice) (w : World) (hc : w.clock ≤ c.now) :
    Same w (serve c w q).2 := by
  cases q with
  | get | dateNow | isoNow | performanceNow => exact ⟨rfl, rfl, rfl, hc⟩
  | update f => exact ⟨(h w.state).1, (h w.state).2, rfl, hc⟩
  | takeUp | record | sendDeploy | fetchRows | awaitDeploy | ping => exact h.elim

/-! ## Conditions -/

section

variable {env : Environment} {now : String} {row : RailwayVisibilityRow}

@[simp] theorem TickLocals.of_env : (TickLocals.of env now).env = env := rfl

@[simp] theorem TickLocals.of_autoRecover :
    (TickLocals.of env now).autoRecover = autoRecoverOn env := by
  rw [TickLocals.of]

@[simp] theorem TickLocals.of_environmentId :
    (TickLocals.of env now).environmentId = railwayEnvironmentId env := by
  rw [TickLocals.of]

theorem autoRecoverOn_iff : autoRecoverOn env = true ↔
    railwayWatchdogAutoRecoverEnabled env = true ∧ railwayEnvironmentId env ≠ "" := by
  unfold autoRecoverOn
  rw [Bool.and_eq_true, bne_iff_ne]

theorem exitRedeployDue_iff {lifecycle : HeartbeatExitLifecycleState} :
    exitRedeployDue (.of env now) row lifecycle = true ↔
      railwayHeartbeatEnabled env = true ∧ railwayHeartbeatExitRedeployEnabled env = true ∧
        autoRecoverOn env = true ∧ (lifecycle.entry row.railwayServiceId).redeem = true ∧
        isHealthy row.cur = true ∧ row.depId ≠ "" := by
  have hredeem : (lifecycle.entry row.railwayServiceId).redeem =
      peekExitLifecycleRedeem lifecycle row.railwayServiceId := rfl
  unfold exitRedeployDue
  rw [hredeem]
  constructor
  · intro h
    simp only [TickLocals.of_env, TickLocals.of_autoRecover, Bool.and_eq_true, bne_iff_ne] at h
    obtain ⟨⟨⟨⟨⟨⟨⟨hen, hex⟩, hauto⟩, -⟩, hpeek⟩, hhealthy⟩, -⟩, hdep⟩ := h
    exact ⟨hen, hex, hauto, hpeek, hhealthy, hdep⟩
  · rintro ⟨hen, hex, hauto, hpeek, hhealthy, hdep⟩
    simp [hen, hex, hauto, (autoRecoverOn_iff.1 hauto).2, hpeek, hhealthy, hdep,
      isDeploying_of_isHealthy hhealthy]

theorem heartbeatRecoverDue_iff : heartbeatRecoverDue (.of env now) row = true ↔
    railwayHeartbeatExitRedeployEnabled env = false ∧ railwayHeartbeatRecoverEnabled env = true ∧
      autoRecoverOn env = true ∧ isHealthy row.cur = true := by
  unfold heartbeatRecoverDue
  constructor
  · intro h
    simp only [TickLocals.of_env, TickLocals.of_autoRecover, Bool.and_eq_true, Bool.not_eq_true']
      at h
    obtain ⟨⟨⟨⟨hex, hrec⟩, hauto⟩, hhealthy⟩, -⟩ := h
    exact ⟨hex, hrec, hauto, hhealthy⟩
  · rintro ⟨hex, hrec, hauto, hhealthy⟩
    simp [hex, hrec, hauto, hhealthy, isDeploying_of_isHealthy hhealthy]

end

/-! ## Quiet programs -/

/-- Every step of the program is quiet. -/
structure IsQuiet {α : Type} (p : Tick α) : Prop where
  all : p.All Call.Quiet

theorem IsQuiet.bind {α β : Type} {p : Tick α} {f : α → Tick β} (hp : IsQuiet p)
    (hf : ∀ a, IsQuiet (f a)) : IsQuiet (p >>= f) := ⟨hp.all.bind fun a => (hf a).all⟩

theorem IsQuiet.step {q : Call} (h : q.Quiet) : IsQuiet (step q) := ⟨h, fun _ => trivial⟩

theorem readState_quiet : IsQuiet readState := .step trivial

theorem dateNow_quiet : IsQuiet dateNow := .step trivial

theorem isoNow_quiet : IsQuiet isoNow := .step trivial

theorem performanceNow_quiet : IsQuiet performanceNow := .step trivial

theorem update_quiet {f : WatchdogPersistentState → WatchdogPersistentState}
    (h : ∀ s, (f s).heartbeatExitLifecycle = s.heartbeatExitLifecycle ∧
      (f s).recoverCooldown = s.recoverCooldown) : IsQuiet (update f) :=
  .step h

theorem return_quiet {α : Type} (a : α) : IsQuiet (pure a : Tick α) := ⟨trivial⟩

theorem elapsedMs_quiet (start : Nat) : IsQuiet (elapsedMs start) :=
  performanceNow_quiet.bind fun _ => return_quiet _

theorem updateHeartbeatObject_quiet (ref : Nat)
    (f : HeartbeatRecoverState → HeartbeatRecoverState) :
    IsQuiet (updateHeartbeatObject ref f) := update_quiet fun _ => ⟨rfl, rfl⟩

theorem pushLogLine_quiet (line : String) : IsQuiet (pushLogLine line) :=
  update_quiet fun _ => ⟨rfl, rfl⟩

theorem pushActivity_quiet (entry : Activity) : IsQuiet (pushActivity entry) :=
  isoNow_quiet.bind fun _ => update_quiet fun _ => ⟨rfl, rfl⟩

theorem newHeartbeatObject_quiet (row : RailwayVisibilityRow) :
    IsQuiet (newHeartbeatObject row) := by
  refine readState_quiet.bind fun _ => IsQuiet.bind ?_ fun _ => return_quiet _
  exact update_quiet fun _ => ⟨rfl, rfl⟩

theorem heartbeatObject_quiet (row : RailwayVisibilityRow) :
    IsQuiet (heartbeatObject row) := by
  refine readState_quiet.bind fun s => ?_
  split
  · exact newHeartbeatObject_quiet row
  · split
    · exact newHeartbeatObject_quiet row
    · exact (updateHeartbeatObject_quiet _ _).bind fun _ => return_quiet _

theorem heartbeatSkipped_quiet (t : TickLocals) (row : RailwayVisibilityRow) (totals : TickTotals) :
    IsQuiet (heartbeatSkipped t row totals) := by
  have hpush : IsQuiet (pushSkipped t row) := by
    unfold pushSkipped
    split
    · exact pushActivity_quiet _
    · split
      · exact pushActivity_quiet _
      · exact return_quiet _
  unfold heartbeatSkipped
  refine IsQuiet.bind ?_ fun _ => IsQuiet.bind hpush fun _ => return_quiet _
  exact update_quiet fun _ => ⟨rfl, rfl⟩

theorem heartbeatCooldownOk_quiet (t : TickLocals) (lastHbRecover : Nat) :
    IsQuiet (heartbeatCooldownOk t lastHbRecover) := by
  unfold heartbeatCooldownOk
  split
  · exact return_quiet _
  · exact dateNow_quiet.bind fun _ => return_quiet _

theorem stoppedEvents_quiet (t : TickLocals) (row : RailwayVisibilityRow) (totals : TickTotals)
    (before : WatchdogPrevEntry) : IsQuiet (stoppedEvents t row totals before) := by
  unfold stoppedEvents
  split
  · exact dateNow_quiet.bind fun _ => (pushLogLine_quiet _).bind fun _ => return_quiet _
  · exact return_quiet _

theorem lifecycleEvents_quiet (t : TickLocals) (row : RailwayVisibilityRow) (totals : TickTotals)
    (before : WatchdogPrevEntry) : IsQuiet (lifecycleEvents t row totals before) := by
  unfold lifecycleEvents
  split
  · exact (pushLogLine_quiet _).bind fun _ => return_quiet _
  · split <;> exact return_quiet _

theorem rowEvents_quiet (t : TickLocals) (row : RailwayVisibilityRow) (totals : TickTotals)
    (before : Option WatchdogPrevEntry) : IsQuiet (rowEvents t row totals before) := by
  cases before with
  | none => exact return_quiet _
  | some before =>
    rw [rowEvents]
    refine IsQuiet.bind (stoppedEvents_quiet t row totals before) fun totals => ?_
    exact IsQuiet.bind (lifecycleEvents_quiet t row totals before) fun _ => return_quiet _

theorem failTick_quiet (env : Environment) (error : String) :
    IsQuiet (failTick env error) :=
  readState_quiet.bind fun _ => return_quiet _

theorem forM_quiet {α : Type} {f : α → Tick Unit} (hf : ∀ a, IsQuiet (f a)) (l : List α) :
    IsQuiet (l.forM f) := by
  induction l with
  | nil => exact return_quiet _
  | cons a l ih => exact (hf a).bind fun _ => ih

theorem finishTick_quiet (env : Environment) (now : String) (rows : List RailwayVisibilityRow)
    (totals : TickTotals) : IsQuiet (finishTick env now rows totals) := by
  have hstatus : IsQuiet (pushStatusLine rows) := by
    rw [pushStatusLine]
    by_cases h : 0 < (rows.filter fun r => isBad (Js.trim (r.deploymentStatus.getD ""))).length
    · rw [if_pos h]; exact pushLogLine_quiet _
    · rw [if_neg h]; exact return_quiet _
  refine IsQuiet.bind ?_ fun _ => (pushLogLine_quiet _).bind fun _ =>
    (forM_quiet (fun _ => pushLogLine_quiet _) _).bind fun _ => hstatus.bind fun _ =>
      readState_quiet.bind fun _ => return_quiet _
  exact update_quiet fun _ => ⟨rfl, rfl⟩

end PeHackathon.Watchdog
