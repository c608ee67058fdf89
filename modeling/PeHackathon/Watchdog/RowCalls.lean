import PeHackathon.Lib.Alone
import PeHackathon.Watchdog.Tick

/-!
# What the parts of a row ask for

`OutsideHeartbeat` and `HeartbeatCall` list the calls that the parts of `processRow` make, besides
reading the state. Each is about the service of the row. `Grown` is what a part does to the totals:
it adds events, and those that stop a service come from `rowEvents` alone.
-/

namespace PeHackathon.Watchdog

open Lib

/-! ## Calls -/

/-- The calls of a row outside of its heartbeat. -/
inductive OutsideHeartbeat (sid : String) : Call → Prop
  | dateNow : OutsideHeartbeat sid .dateNow
  | isoNow : OutsideHeartbeat sid .isoNow
  | performanceNow : OutsideHeartbeat sid .performanceNow
  | log (f : WatchdogPersistentState → WatchdogPersistentState)
      (h : ∀ s, f s = { s with logTail := (f s).logTail, apiActivity := (f s).apiActivity }) :
      OutsideHeartbeat sid (.update f)
  | clearFlag : OutsideHeartbeat sid (.update fun s =>
      { s with
        heartbeatExitLifecycle := clearExitLifecycleRedeemFlag s.heartbeatExitLifecycle sid })
  | clearService : OutsideHeartbeat sid (.update fun s =>
      { s with
        heartbeatExitLifecycle := clearExitLifecycleForService s.heartbeatExitLifecycle sid })
  | requeue : OutsideHeartbeat sid (.update fun s =>
      { s with heartbeatExitLifecycle := requeueExitLifecycleRedeem s.heartbeatExitLifecycle sid })
  | cooldown (now : Nat) : OutsideHeartbeat sid (.update fun s =>
      { s with recoverCooldown := s.recoverCooldown.set sid now })
  | healthy : OutsideHeartbeat sid (.record
      (fun s => { s with recoverCooldown := s.recoverCooldown.delete sid }) (fun _ => .healthy sid))
  | sendDeploy {site : DeploySite} (environmentId : String) (h : site ≠ .heartbeatRecover) :
      OutsideHeartbeat sid (.sendDeploy site environmentId sid)
  | awaitDeploy {site : DeploySite} (h : site ≠ .heartbeatRecover) :
      OutsideHeartbeat sid (.awaitDeploy site sid)

theorem OutsideHeartbeat.obeys {sid : String} {q : Call} (h : OutsideHeartbeat sid q) :
    (step q).Obeys (OutsideHeartbeat sid) fun _ => True := .perform h

/-- These calls, and reading the state. -/
def OrGet (φ : Call → Prop) (q : Call) : Prop := q = .get ∨ φ q

/-- The calls of a row once it has its heartbeat object, which is one of `own`. -/
inductive HeartbeatCall (sid : String) (own : Nat → Prop) : Call → Prop
  | outside {q : Call} (h : OutsideHeartbeat sid q) : HeartbeatCall sid own q
  | get : HeartbeatCall sid own .get
  | ping (probeUrl : String) : HeartbeatCall sid own (.ping probeUrl)
  | sendDeploy (environmentId : String) :
      HeartbeatCall sid own (.sendDeploy .heartbeatRecover environmentId sid)
  | awaitDeploy : HeartbeatCall sid own (.awaitDeploy .heartbeatRecover sid)
  | object {ref : Nat} (h : own ref) (f : HeartbeatRecoverState → HeartbeatRecoverState) :
      HeartbeatCall sid own (.update fun s =>
        { s with heartbeatObjects := fun r => if r = ref then f (s.heartbeatObjects r)
            else s.heartbeatObjects r })
  | lastRecover (now : Nat) : HeartbeatCall sid own (.update fun s =>
      { s with heartbeatLastRecoverAt := s.heartbeatLastRecoverAt.set sid now })
  | setObject {ref : Nat} (h : own ref) : HeartbeatCall sid own (.update fun s =>
      { s with heartbeatRecoverState := s.heartbeatRecoverState.set sid ref })
  | deleteObject : HeartbeatCall sid own (.update fun s =>
      { s with heartbeatRecoverState := s.heartbeatRecoverState.delete sid })
  | probe (t : TickLocals) {row : RailwayVisibilityRow} (h : row.railwayServiceId = sid)
      (ok : Bool) :
      HeartbeatCall sid own (.record
        (fun s => { s with
          heartbeatExitLifecycle := (afterTickProbe s.heartbeatExitLifecycle
            row.railwayServiceId row.depId t.env row.railwayOnlineStatus ok).1 })
        (fun s => .probe (probeMark t row s.heartbeatExitLifecycle ok)))

/-! ## Totals -/

/-- The totals after a part of a row, if it stops no service. -/
def Grown (totals after : TickTotals) : Prop :=
  ∃ events, after.events = totals.events ++ events ∧ ∀ ev ∈ events, ev.kind ≠ .railwayStopped

/-- The event says that the service stopped. -/
def WatchdogEvent.StopOf (sid : String) (event : WatchdogEvent) : Prop :=
  event.kind = .railwayStopped ∧ ∃ time : Nat, event.id = s!"{sid}-stopped-{time}"

/-- A row stops its service, in view of the entry of the tick before. -/
def stopsNow (row : RailwayVisibilityRow) : Option WatchdogPrevEntry → Bool
  | none => false
  | some before => wasActivelyDeployed before && isNowStoppedOrNoDeployment row

/-- The totals once it is settled whether a row stops its service. -/
def Stopped (row : RailwayVisibilityRow) (before : Option WatchdogPrevEntry)
    (totals after : TickTotals) : Prop :=
  if stopsNow row before then
    ∃ event, after.events = totals.events ++ [event] ∧ event.StopOf row.railwayServiceId
  else after = totals

theorem Grown.refl (totals : TickTotals) : Grown totals totals := ⟨[], by simp⟩

theorem Grown.of_events {totals after : TickTotals} (h : after.events = totals.events) :
    Grown totals after := ⟨[], by simp [h]⟩

theorem Grown.push (totals : TickTotals) {event : WatchdogEvent}
    (h : event.kind ≠ .railwayStopped) :
    Grown totals (totals.push event) := ⟨[event], rfl, by simpa using h⟩

theorem Grown.trans {a b c : TickTotals} (h : Grown a b) (h' : Grown b c) : Grown a c := by
  obtain ⟨events, he, hk⟩ := h
  obtain ⟨events', he', hk'⟩ := h'
  refine ⟨events ++ events', by rw [he', he, List.append_assoc], ?_⟩
  intro ev hev
  rcases List.mem_append.1 hev with hev | hev
  · exact hk ev hev
  · exact hk' ev hev

/-! ## Logs and clocks -/

section Parts

variable {sid : String} {own : Nat → Prop} {t : TickLocals} {row : RailwayVisibilityRow}
  {totals : TickTotals}

theorem outside_pushLogLine (line : String) :
    (pushLogLine line).Obeys (OutsideHeartbeat sid) fun _ => True :=
  (OutsideHeartbeat.log _ fun _ => rfl).obeys

theorem outside_performanceNow : performanceNow.Obeys (OutsideHeartbeat sid) fun _ => True :=
  OutsideHeartbeat.performanceNow.obeys

theorem outside_dateNow : dateNow.Obeys (OutsideHeartbeat sid) fun _ => True :=
  OutsideHeartbeat.dateNow.obeys

theorem outside_elapsedMs (start : Nat) :
    (elapsedMs start).Obeys (OutsideHeartbeat sid) fun _ => True :=
  outside_performanceNow.bind fun _ _ => .ret trivial

theorem outside_pushActivity (entry : Activity) :
    (pushActivity entry).Obeys (OutsideHeartbeat sid) fun _ => True :=
  OutsideHeartbeat.isoNow.obeys.bind fun _ _ => (OutsideHeartbeat.log _ fun _ => rfl).obeys

theorem outside_deploy (site : DeploySite) (environmentId : String) (h : site ≠ .heartbeatRecover) :
    (railwayServiceInstanceDeployLatest site environmentId sid).Obeys (OutsideHeartbeat sid)
      fun _ => True :=
  (OutsideHeartbeat.sendDeploy environmentId h).obeys.bind fun _ _ =>
    (OutsideHeartbeat.awaitDeploy h).obeys

/-! ## Parts outside of the heartbeat -/

/-- The exit redeploy reads the lifecycle once. -/
theorem exitRedeploy_eq (t : TickLocals) (row : RailwayVisibilityRow) (totals : TickTotals) :
    ∃ go : Tick TickTotals, go.Obeys (OutsideHeartbeat row.railwayServiceId) (Grown totals) ∧
      exitRedeploy t row totals = readState >>= fun s =>
        if exitRedeployDue t row s.heartbeatExitLifecycle then go else pure totals := by
  refine ⟨_, ?_, by unfold exitRedeploy; rfl⟩
  refine OutsideHeartbeat.clearFlag.obeys.bind fun _ _ => outside_performanceNow.bind fun _ _ => ?_
  refine (outside_deploy .exitRedeploy _ nofun).bind fun err _ => ?_
  cases err with
  | none =>
    refine (outside_elapsedMs _).bind fun _ _ => (outside_pushActivity _).bind fun _ _ => ?_
    refine OutsideHeartbeat.clearService.obeys.bind fun _ _ => outside_dateNow.bind fun _ _ => ?_
    exact (outside_pushLogLine _).bind fun _ _ => .ret (Grown.push totals nofun)
  | some msg =>
    refine OutsideHeartbeat.requeue.obeys.bind fun _ _ => ?_
    exact (outside_pushLogLine _).bind fun _ _ => .ret (Grown.refl totals)

theorem outside_forgetCooldown :
    (forgetCooldown row).Obeys (OutsideHeartbeat row.railwayServiceId) fun _ => True := by
  unfold forgetCooldown
  exact .ite (fun _ => OutsideHeartbeat.healthy.obeys) fun _ => .ret trivial

theorem outside_autoRedeploy :
    (autoRedeploy t row totals).Obeys (OutsideHeartbeat row.railwayServiceId) (Grown totals) := by
  unfold autoRedeploy
  refine outside_performanceNow.bind fun _ _ =>
    (outside_deploy .autoRecover _ nofun).bind fun err _ => ?_
  cases err with
  | none =>
    refine (outside_elapsedMs _).bind fun _ _ => (outside_pushActivity _).bind fun _ _ => ?_
    refine outside_dateNow.bind fun now _ => (OutsideHeartbeat.cooldown now).obeys.bind fun _ _ =>
      ?_
    refine outside_dateNow.bind fun _ _ => (outside_pushLogLine _).bind fun _ _ => ?_
    exact .ret (Grown.push totals nofun)
  | some msg => exact (outside_pushLogLine _).bind fun _ _ => .ret (Grown.refl totals)

theorem outside_autoRedeployAfter (lastAttempt : Option Nat) :
    (match lastAttempt with
      | none => autoRedeploy t row totals
      | some lastAttempt => do
        let now ← dateNow
        if cooldownOver now lastAttempt RECOVER_COOLDOWN_MS then autoRedeploy t row totals
        else return totals : Tick TickTotals).Obeys (OutsideHeartbeat row.railwayServiceId)
      (Grown totals) := by
  cases lastAttempt with
  | none => exact outside_autoRedeploy
  | some lastAttempt =>
    refine outside_dateNow.bind fun now _ => ?_
    exact .ite (fun _ => outside_autoRedeploy) fun _ => .ret (Grown.refl totals)

/-- The auto-recovery reads the cooldown of its service, if anything. -/
theorem autoRecover_eq (t : TickLocals) (row : RailwayVisibilityRow) (totals : TickTotals) :
    ∃ go : Option Nat → Tick TickTotals,
      (∀ lastAttempt, (go lastAttempt).Obeys (OutsideHeartbeat row.railwayServiceId)
        (Grown totals)) ∧
      autoRecover t row totals =
        if t.autoRecover && needsAutoRecoverTrigger row.cur && !isDeploying row.cur then
          readState >>= fun s => go (s.recoverCooldown.get row.railwayServiceId)
        else pure totals :=
  ⟨_, outside_autoRedeployAfter, rfl⟩

theorem orGet {α : Type} {φ : Call → Prop} {p : Tick α} {ψ : α → Prop} (h : p.Obeys φ ψ) :
    p.Obeys (OrGet φ) ψ := h.mono (fun _ => .inr) fun _ => id

theorem orGet_readState {φ : Call → Prop} : readState.Obeys (OrGet φ) fun _ => True := by
  have h : OrGet φ .get := .inl rfl
  exact .perform h

theorem outside_exitRedeploy :
    (exitRedeploy t row totals).Obeys (OrGet (OutsideHeartbeat row.railwayServiceId))
      (Grown totals) := by
  obtain ⟨go, hgo, heq⟩ := exitRedeploy_eq t row totals
  rw [heq]
  exact orGet_readState.bind fun s _ => .ite (fun _ => orGet hgo) fun _ =>
    .ret (Grown.refl totals)

theorem outside_autoRecover :
    (autoRecover t row totals).Obeys (OrGet (OutsideHeartbeat row.railwayServiceId))
      (Grown totals) := by
  obtain ⟨go, hgo, heq⟩ := autoRecover_eq t row totals
  rw [heq]
  exact .ite (fun _ => orGet_readState.bind fun s _ => orGet (hgo _))
    fun _ => .ret (Grown.refl totals)

/-! ## Events -/

theorem outside_stoppedEvents (before : WatchdogPrevEntry) :
    (stoppedEvents t row totals before).Obeys (OutsideHeartbeat row.railwayServiceId)
      (Stopped row (some before) totals) := by
  unfold stoppedEvents
  refine .ite (fun h => ?_) fun h => ?_
  · refine outside_dateNow.bind fun time _ => (outside_pushLogLine _).bind fun _ _ => .ret ?_
    unfold Stopped stopsNow
    rw [if_pos h]
    exact ⟨_, rfl, rfl, time, rfl⟩
  · refine .ret ?_
    unfold Stopped stopsNow
    rw [if_neg h]

theorem outside_lifecycleEvents (before : WatchdogPrevEntry) :
    (lifecycleEvents t row totals before).Obeys (OutsideHeartbeat row.railwayServiceId)
      fun after => Grown totals after.1 := by
  unfold lifecycleEvents
  refine .ite (fun _ => ?_) fun _ => .ite (fun _ => ?_) fun _ => ?_
  · exact (outside_pushLogLine _).bind fun _ _ => .ret (Grown.push totals nofun)
  · exact .ret (Grown.push totals nofun)
  · exact .ret (Grown.refl totals)

theorem grown_deploymentEvents (before : WatchdogPrevEntry) (emittedLifecycle : Bool) :
    Grown totals (deploymentEvents t row totals before emittedLifecycle) := by
  unfold deploymentEvents
  by_cases hbad : (isBad (Js.toUpperCase before.deploymentStatus) &&
      (isDeploying (Js.toUpperCase row.cur) || isHealthy (Js.toUpperCase row.cur))) = true
  · simp only [if_pos hbad]
    exact Grown.push totals nofun
  · simp only [if_neg hbad]
    split
    · exact Grown.push totals nofun
    · exact Grown.refl totals

/-- The events of a row: a stop, if it stops its service, and others. -/
theorem outside_rowEvents (before : Option WatchdogPrevEntry) :
    (rowEvents t row totals before).Obeys (OutsideHeartbeat row.railwayServiceId)
      fun after => ∃ mid, Stopped row before totals mid ∧ Grown mid after := by
  cases before with
  | none => exact .ret ⟨totals, rfl, Grown.refl totals⟩
  | some before =>
    rw [rowEvents]
    refine (outside_stoppedEvents before).bind fun mid hmid => ?_
    refine (outside_lifecycleEvents before).bind fun after hafter => .ret ?_
    exact ⟨mid, hmid, hafter.trans (grown_deploymentEvents before after.2)⟩

/-! ## The heartbeat -/

theorem HeartbeatCall.obeys {q : Call} (h : HeartbeatCall sid own q) :
    (step q).Obeys (HeartbeatCall sid own) fun _ => True := .perform h

theorem HeartbeatCall.of_orGet {q : Call} (h : OrGet (OutsideHeartbeat sid) q) :
    HeartbeatCall sid own q := by
  rcases h with rfl | h
  · exact .get
  · exact .outside h

/-- A part outside of the heartbeat, inside it. -/
theorem inHeartbeat {α : Type} {p : Tick α} {ψ : α → Prop}
    (h : p.Obeys (OutsideHeartbeat sid) ψ) : p.Obeys (HeartbeatCall sid own) ψ :=
  h.mono (fun _ => .outside) fun _ => id

theorem heartbeat_readState : readState.Obeys (HeartbeatCall sid own) fun _ => True :=
  HeartbeatCall.get.obeys

variable {ref : Nat}

theorem heartbeat_updateHeartbeatObject (href : own ref)
    (f : HeartbeatRecoverState → HeartbeatRecoverState) :
    (updateHeartbeatObject ref f).Obeys (HeartbeatCall sid own) fun _ => True :=
  (HeartbeatCall.object href f).obeys

theorem heartbeat_recover (href : own ref) :
    (heartbeatRecover t row totals ref).Obeys (HeartbeatCall row.railwayServiceId own)
      (Grown totals) := by
  unfold heartbeatRecover
  refine (inHeartbeat outside_performanceNow).bind fun _ _ => ?_
  refine ((HeartbeatCall.sendDeploy _).obeys.bind fun _ _ => HeartbeatCall.awaitDeploy.obeys).bind
    fun err _ => ?_
  cases err with
  | none =>
    refine (inHeartbeat (outside_elapsedMs _)).bind fun _ _ => ?_
    refine (inHeartbeat (outside_pushActivity _)).bind fun _ _ => ?_
    refine (heartbeat_updateHeartbeatObject href _).bind fun _ _ => ?_
    refine (inHeartbeat outside_dateNow).bind fun now _ => ?_
    refine (HeartbeatCall.lastRecover now).obeys.bind fun _ _ => ?_
    refine (inHeartbeat outside_dateNow).bind fun _ _ => heartbeat_readState.bind fun _ _ => ?_
    exact (inHeartbeat (outside_pushLogLine _)).bind fun _ _ => .ret (Grown.push totals nofun)
  | some msg =>
    exact (inHeartbeat (outside_pushLogLine _)).bind fun _ _ => .ret (Grown.refl totals)

theorem outside_heartbeatCooldownOk (lastHbRecover : Nat) :
    (heartbeatCooldownOk t lastHbRecover).Obeys (OutsideHeartbeat sid) fun _ => True := by
  unfold heartbeatCooldownOk
  exact .ite (fun _ => .ret trivial) fun _ => outside_dateNow.bind fun _ _ => .ret trivial

theorem heartbeat_missed (href : own ref) :
    (heartbeatMissed t row totals ref).Obeys (HeartbeatCall row.railwayServiceId own)
      (Grown totals) := by
  unfold heartbeatMissed
  refine (heartbeat_updateHeartbeatObject href _).bind fun _ _ =>
    heartbeat_readState.bind fun s _ => ?_
  refine (inHeartbeat (outside_heartbeatCooldownOk _)).bind fun cooldownOk _ => ?_
  refine .ite (fun _ => heartbeat_recover href) fun _ => .ite (fun _ => ?_) fun _ =>
    .ite (fun _ => ?_) fun _ => ?_
  · refine (heartbeat_updateHeartbeatObject href _).bind fun _ _ => ?_
    refine (inHeartbeat outside_dateNow).bind fun _ _ => ?_
    exact (inHeartbeat (outside_pushLogLine _)).bind fun _ _ => .ret (Grown.refl totals)
  · refine (heartbeat_updateHeartbeatObject href _).bind fun _ _ => ?_
    exact (inHeartbeat (outside_pushLogLine _)).bind fun _ _ => .ret (Grown.refl totals)
  · exact .ret (Grown.refl totals)

theorem heartbeat_answered (href : own ref) (pr : PingResult) :
    (heartbeatAnswered t row totals ref pr).Obeys (HeartbeatCall row.railwayServiceId own)
      (Grown totals) := by
  unfold heartbeatAnswered
  refine .ite (fun _ => ?_) fun _ => .ite (fun _ => ?_) fun _ => .ite (fun _ => ?_) fun _ => ?_
  · exact (heartbeat_updateHeartbeatObject href _).bind fun _ _ => .ret (Grown.of_events rfl)
  · exact (heartbeat_missed href).mono (fun _ => id) fun _ h => (Grown.of_events rfl).trans h
  · exact (heartbeat_updateHeartbeatObject href _).bind fun _ _ => .ret (Grown.of_events rfl)
  · exact .ret (Grown.of_events rfl)

theorem outside_pushSkipped :
    (pushSkipped t row).Obeys (OutsideHeartbeat sid) fun _ => True := by
  unfold pushSkipped
  exact .ite (fun _ => outside_pushActivity _) fun _ =>
    .ite (fun _ => outside_pushActivity _) fun _ => .ret trivial

theorem heartbeat_skipped :
    (heartbeatSkipped t row totals).Obeys (HeartbeatCall row.railwayServiceId own)
      (Grown totals) := by
  unfold heartbeatSkipped
  refine HeartbeatCall.deleteObject.obeys.bind fun _ _ => ?_
  exact (inHeartbeat outside_pushSkipped).bind fun _ _ => .ret (Grown.of_events rfl)

theorem heartbeat_recordProbe (ok : Bool) :
    (recordProbe t row ok).Obeys (HeartbeatCall row.railwayServiceId own) fun _ => True :=
  (HeartbeatCall.probe t rfl ok).obeys

/-- What follows once a row has its heartbeat object. -/
def afterObject (t : TickLocals) (row : RailwayVisibilityRow) (totals : TickTotals) (ref : Nat) :
    Tick TickTotals := do
  match row.probedAt t.env with
  | some probeUrl =>
    let totals := { totals with hbProbes := totals.hbProbes + 1 }
    let hbT0 ← performanceNow
    let pr ← pingHeartbeatUrl probeUrl
    let hbMs ← elapsedMs hbT0
    pushActivity (pingActivity probeUrl hbMs pr)
    let totals ← heartbeatAnswered t row totals ref pr
    recordProbe t row pr.ok
    update fun s =>
      { s with heartbeatRecoverState := s.heartbeatRecoverState.set row.railwayServiceId ref }
    return totals
  | none =>
    if railwayHeartbeatEnabled t.env then heartbeatSkipped t row totals else return totals

theorem heartbeat_eq (t : TickLocals) (row : RailwayVisibilityRow) (totals : TickTotals) :
    heartbeat t row totals = heartbeatObject row >>= afterObject t row totals := by
  unfold heartbeat
  refine congrArg (heartbeatObject row >>= ·) (funext fun ref => ?_)
  unfold afterObject
  cases row.probedAt t.env <;> rfl

theorem heartbeat_afterObject (href : own ref) :
    (afterObject t row totals ref).Obeys (HeartbeatCall row.railwayServiceId own)
      (Grown totals) := by
  unfold afterObject
  cases row.probedAt t.env with
  | some probeUrl =>
    refine (inHeartbeat outside_performanceNow).bind fun _ _ => ?_
    refine (HeartbeatCall.ping probeUrl).obeys.bind fun pr _ => ?_
    refine (inHeartbeat (outside_elapsedMs _)).bind fun _ _ => ?_
    refine (inHeartbeat (outside_pushActivity _)).bind fun _ _ => ?_
    refine (heartbeat_answered href pr).bind fun after hafter => ?_
    refine (heartbeat_recordProbe pr.ok).bind fun _ _ => ?_
    refine (HeartbeatCall.setObject href).obeys.bind fun _ _ => .ret ?_
    exact (Grown.of_events rfl).trans hafter
  | none => exact .ite (fun _ => heartbeat_skipped) fun _ => .ret (Grown.refl totals)

theorem heartbeat_exitRedeploy :
    (exitRedeploy t row totals).Obeys (HeartbeatCall row.railwayServiceId own) (Grown totals) :=
  outside_exitRedeploy.mono (fun _ => HeartbeatCall.of_orGet) fun _ => id

theorem heartbeat_autoRecover :
    (autoRecover t row totals).Obeys (HeartbeatCall row.railwayServiceId own) (Grown totals) :=
  outside_autoRecover.mono (fun _ => HeartbeatCall.of_orGet) fun _ => id

end Parts

end PeHackathon.Watchdog
