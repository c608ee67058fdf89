import PeHackathon.Watchdog.Lockstep

/-!
# The parts of a row in lockstep

Part by part through `processRow`, for two runs from like states. A part that reads the state goes
on alike in both, since what it reads is about its own service.
-/

namespace PeHackathon.Watchdog

open Lib

section

variable {t : TickLocals} {row : RailwayVisibilityRow} {totals totals' : TickTotals}
  {L : Scripted → Scripted → Prop} {ref ref' : Nat}

/-- What two like runs read is equal for their service. -/
theorem Like.readNow {sid : String} :
    scripted.Twin () () (Like sid) readState readState fun s s' w v =>
      s.slice sid = s'.slice sid ∧ (s = w.world.state ∧ s' = v.world.state) ∧ Like sid w v :=
  .perform fun _ _ hw => ⟨_, _, _, _, rfl, rfl, hw.slice, ⟨rfl, rfl⟩, hw.get⟩

theorem Like.readState {sid : String} :
    scripted.Twin () () (Like sid) readState readState fun s s' w v =>
      s.slice sid = s'.slice sid ∧ Like sid w v :=
  Like.readNow.mono (fun _ _ hw => hw) fun _ _ _ _ h => ⟨h.1, h.2.2⟩

/-! ## Exit redeploy -/

theorem exitRedeployDue_congr {l l' : HeartbeatExitLifecycleState}
    (h : l.entries row.railwayServiceId = l'.entries row.railwayServiceId) :
    exitRedeployDue t row l = exitRedeployDue t row l' := by
  have hredeem := (HeartbeatExitLifecycleState.entries_eq_iff.1 h).2.2.2
  unfold exitRedeployDue peekExitLifecycleRedeem
  rw [hredeem]

theorem pair_exitRedeploy :
    Pair (Like row.railwayServiceId) (Like row.railwayServiceId) totals totals'
      (exitRedeploy t row totals) (exitRedeploy t row totals') := by
  have hL := Like.lockstep row.railwayServiceId
  unfold exitRedeploy
  refine Server.Twin.bind Like.readState fun s s' => .assume fun hs => ?_
  have hdue := exitRedeployDue_congr (t := t) (slice_eq_iff.1 hs).2.2.2.2
  refine .ite (Eq.congr_left hdue) (fun _ => ?_) fun _ => ?_
  case refine_2 => exact Pair.ret (.of_events rfl rfl)
  refine .seq (hL.outside OutsideHeartbeat.clearFlag.obeys) fun _ => ?_
  refine .seq (hL.outside outside_performanceNow) fun depT0 => ?_
  refine .seq (hL.outside (outside_deploy .exitRedeploy _ nofun)) fun err => ?_
  cases err with
  | none =>
    refine .seq (hL.outside (outside_elapsedMs _)) fun depMs => ?_
    refine .seq (hL.outside (outside_pushActivity _)) fun _ => ?_
    refine .seq (hL.outside OutsideHeartbeat.clearService.obeys) fun _ => ?_
    refine .seq (hL.outside outside_dateNow) fun time => ?_
    refine .seq (hL.outside (outside_pushLogLine _)) fun _ => ?_
    exact Pair.ret (.push totals totals' _)
  | some msg =>
    refine .seq (hL.outside OutsideHeartbeat.requeue.obeys) fun _ => ?_
    refine .seq (hL.outside (outside_pushLogLine _)) fun _ => ?_
    exact Pair.ret (.of_events rfl rfl)

/-! ## Auto-recover -/

theorem pair_autoRedeploy :
    Pair (Like row.railwayServiceId) (Like row.railwayServiceId) totals totals'
      (autoRedeploy t row totals) (autoRedeploy t row totals') := by
  have hL := Like.lockstep row.railwayServiceId
  unfold autoRedeploy
  refine Server.Twin.seq (hL.outside outside_performanceNow) fun depT0 => ?_
  refine .seq (hL.outside (outside_deploy .autoRecover _ nofun)) fun err => ?_
  cases err with
  | none =>
    refine .seq (hL.outside (outside_elapsedMs _)) fun depMs => ?_
    refine .seq (hL.outside (outside_pushActivity _)) fun _ => ?_
    refine .seq (hL.outside outside_dateNow) fun recoveredAt => ?_
    refine .seq (hL.outside (OutsideHeartbeat.cooldown recoveredAt).obeys) fun _ => ?_
    refine .seq (hL.outside outside_dateNow) fun time => ?_
    refine .seq (hL.outside (outside_pushLogLine _)) fun _ => ?_
    exact Pair.ret (.push totals totals' _)
  | some msg =>
    refine .seq (hL.outside (outside_pushLogLine _)) fun _ => ?_
    exact Pair.ret (.of_events rfl rfl)

theorem pair_autoRecover :
    Pair (Like row.railwayServiceId) (Like row.railwayServiceId) totals totals'
      (autoRecover t row totals) (autoRecover t row totals') := by
  have hL := Like.lockstep row.railwayServiceId
  unfold autoRecover
  refine Server.Twin.ite Iff.rfl (fun _ => ?_) fun _ => Pair.ret (.of_events rfl rfl)
  refine .bind Like.readState fun s s' => .assume fun hs => ?_
  rw [(slice_eq_iff.1 hs).2.1]
  cases s'.recoverCooldown.get row.railwayServiceId with
  | none => exact pair_autoRedeploy
  | some lastAttempt =>
    refine .seq (hL.outside outside_dateNow) fun now => ?_
    exact .ite Iff.rfl (fun _ => pair_autoRedeploy) fun _ => Pair.ret (.of_events rfl rfl)

/-! ## Events -/

theorem pair_stoppedEvents (before : WatchdogPrevEntry) :
    Pair (Like row.railwayServiceId) (Like row.railwayServiceId) totals totals'
      (stoppedEvents t row totals before) (stoppedEvents t row totals' before) := by
  have hL := Like.lockstep row.railwayServiceId
  unfold stoppedEvents
  refine Server.Twin.ite Iff.rfl (fun _ => ?_) fun _ => Pair.ret (.of_events rfl rfl)
  refine .seq (hL.outside outside_dateNow) fun time => ?_
  refine .seq (hL.outside (outside_pushLogLine _)) fun _ => ?_
  exact Pair.ret (.push totals totals' _)

theorem twin_lifecycleEvents (before : WatchdogPrevEntry) :
    scripted.Twin () () (Like row.railwayServiceId) (lifecycleEvents t row totals before)
      (lifecycleEvents t row totals' before) fun a b w v =>
        (SameEvents totals totals' a.1 b.1 ∧ a.2 = b.2) ∧ Like row.railwayServiceId w v := by
  have hL := Like.lockstep row.railwayServiceId
  unfold lifecycleEvents
  refine .ite Iff.rfl (fun _ => ?_) fun _ => .ite Iff.rfl (fun _ => ?_) fun _ => ?_
  · refine .seq (hL.outside (outside_pushLogLine _)) fun _ => ?_
    exact .ret fun _ _ hw => ⟨⟨.push totals totals' _, rfl⟩, hw⟩
  · exact .ret fun _ _ hw => ⟨⟨.push totals totals' _, rfl⟩, hw⟩
  · exact .ret fun _ _ hw => ⟨⟨.of_events rfl rfl, rfl⟩, hw⟩

theorem sameEvents_deploymentEvents (before : WatchdogPrevEntry) (emittedLifecycle : Bool) :
    SameEvents totals totals' (deploymentEvents t row totals before emittedLifecycle)
      (deploymentEvents t row totals' before emittedLifecycle) := by
  unfold deploymentEvents
  by_cases hbad : (isBad (Js.toUpperCase before.deploymentStatus) &&
      (isDeploying (Js.toUpperCase row.cur) || isHealthy (Js.toUpperCase row.cur))) = true
  · simp only [if_pos hbad]
    exact .push totals totals' _
  · simp only [if_neg hbad]
    split
    · exact .push totals totals' _
    · exact .of_events rfl rfl

theorem pair_rowEvents (before : Option WatchdogPrevEntry) :
    Pair (Like row.railwayServiceId) (Like row.railwayServiceId) totals totals'
      (rowEvents t row totals before) (rowEvents t row totals' before) := by
  cases before with
  | none => exact Pair.ret (.of_events rfl rfl)
  | some before =>
    rw [rowEvents, rowEvents]
    refine (pair_stoppedEvents before).bind fun a b => ?_
    refine Server.Twin.bind (twin_lifecycleEvents before) fun x y => .assume fun h => ?_
    obtain ⟨a', emitted⟩ := x
    obtain ⟨b', emitted'⟩ := y
    obtain ⟨hevents, rfl⟩ := h
    exact Pair.ret (hevents.trans (sameEvents_deploymentEvents before emitted))

/-! ## The heartbeat object -/

theorem twin_newHeartbeatObject :
    scripted.Twin () () (Like row.railwayServiceId) (newHeartbeatObject row)
      (newHeartbeatObject row) (Held row.railwayServiceId) := by
  unfold newHeartbeatObject
  refine Like.readNow.bind fun s s' => .assume fun _ => ?_
  refine Server.Twin.bind (?_ : scripted.Twin () () _ _ _ fun _ _ w v =>
    Held row.railwayServiceId s.freshObject s'.freshObject w v) fun _ _ => .ret fun _ _ hw => hw
  refine .perform fun w v hw => ⟨_, _, _, _, rfl, rfl, ?_⟩
  obtain ⟨⟨rfl, rfl⟩, hw⟩ := hw
  exact hw.newObject _

theorem Held.twin_updateHeartbeatObject {sid : String}
    (f : HeartbeatRecoverState → HeartbeatRecoverState) :
    scripted.Twin () () (Held sid ref ref') (updateHeartbeatObject ref f)
      (updateHeartbeatObject ref' f) fun a b w v => a = b ∧ Held sid ref ref' w v :=
  twin_update fun _ _ hw => hw.updateObject f

theorem twin_heartbeatObject :
    scripted.Twin () () (Like row.railwayServiceId) (heartbeatObject row) (heartbeatObject row)
      (Held row.railwayServiceId) := by
  unfold heartbeatObject
  refine Like.readNow.bind fun s s' => .assume fun hs => ?_
  have hnew : scripted.Twin () ()
      (fun w v => (s = w.world.state ∧ s' = v.world.state) ∧ Like row.railwayServiceId w v)
      (newHeartbeatObject row) (newHeartbeatObject row) (Held row.railwayServiceId) :=
    twin_newHeartbeatObject.mono (fun _ _ hw => hw.2) fun _ _ _ _ hw => hw
  have hobject := (slice_eq_iff.1 hs).2.2.1
  cases hget : s.heartbeatRecoverState.get row.railwayServiceId with
  | none =>
    cases hget' : s'.heartbeatRecoverState.get row.railwayServiceId with
    | none => exact hnew
    | some ref' => simp [hget, hget'] at hobject
  | some ref =>
    cases hget' : s'.heartbeatRecoverState.get row.railwayServiceId with
    | none => simp [hget, hget'] at hobject
    | some ref' =>
      rw [hget, hget', Option.map_some, Option.map_some, Option.some.injEq] at hobject
      refine .ite (by rw [hobject]) (fun _ => hnew) fun _ => ?_
      refine .seq ?_ fun _ => .ret fun _ _ hw => hw
      refine (Held.twin_updateHeartbeatObject _).mono (fun w v hw => ?_) fun _ _ _ _ h => h
      obtain ⟨⟨rfl, rfl⟩, hw⟩ := hw
      exact ⟨hw, hobject, iff_of_true hget hget', hw.lt_left ref hget, hw.lt_right ref' hget'⟩

/-! ## The heartbeat -/

/-- What two runs read of the object in hand, and of their service. -/
theorem Held.readState {sid : String} :
    scripted.Twin () () (Held sid ref ref') readState readState fun s s' w v =>
      (s.heartbeatObjects ref = s'.heartbeatObjects ref' ∧ s.slice sid = s'.slice sid) ∧
        Held sid ref ref' w v :=
  .perform fun _ _ hw => ⟨_, _, _, _, rfl, rfl, ⟨hw.object, hw.like.slice⟩, hw.get⟩

theorem pair_heartbeatRecover :
    Pair (Held row.railwayServiceId ref ref') (Held row.railwayServiceId ref ref') totals totals'
      (heartbeatRecover t row totals ref) (heartbeatRecover t row totals' ref') := by
  have hL := Held.lockstep row.railwayServiceId ref ref'
  unfold heartbeatRecover
  refine Server.Twin.seq (hL.outside outside_performanceNow) fun depT0 => ?_
  have hdeploy : (railwayServiceInstanceDeployLatest .heartbeatRecover t.environmentId
      row.railwayServiceId).Obeys (BlindCall row.railwayServiceId) fun _ => True :=
    (Prog.Obeys.perform (BlindCall.sendDeploy _)).bind fun _ _ => .perform BlindCall.awaitDeploy
  refine .seq (hL.twin hdeploy) fun err => ?_
  cases err with
  | none =>
    refine .seq (hL.outside (outside_elapsedMs _)) fun depMs => ?_
    refine .seq (hL.outside (outside_pushActivity _)) fun _ => ?_
    refine .seq (Held.twin_updateHeartbeatObject _) fun _ => ?_
    refine .seq (hL.outside outside_dateNow) fun recoveredAt => ?_
    refine .seq (hL.twin (Prog.Obeys.perform (BlindCall.lastRecover recoveredAt))) fun _ => ?_
    refine .seq (hL.outside outside_dateNow) fun time => ?_
    refine .bind Held.readState fun s s' => .assume fun hs => ?_
    rw [hs.1]
    refine .seq (hL.outside (outside_pushLogLine _)) fun _ => ?_
    exact Pair.ret (.push totals totals' _)
  | some msg =>
    refine .seq (hL.outside (outside_pushLogLine _)) fun _ => ?_
    exact Pair.ret (.of_events rfl rfl)

theorem pair_heartbeatMissed :
    Pair (Held row.railwayServiceId ref ref') (Held row.railwayServiceId ref ref') totals totals'
      (heartbeatMissed t row totals ref) (heartbeatMissed t row totals' ref') := by
  have hL := Held.lockstep row.railwayServiceId ref ref'
  unfold heartbeatMissed
  refine Server.Twin.seq (Held.twin_updateHeartbeatObject _) fun _ => ?_
  refine .bind Held.readState fun s s' => .assume fun hs => ?_
  rw [hs.1, (slice_eq_iff.1 hs.2).2.2.2.1]
  refine .seq (hL.outside (outside_heartbeatCooldownOk _)) fun cooldownOk => ?_
  refine .ite Iff.rfl (fun _ => pair_heartbeatRecover) fun _ => ?_
  refine .ite Iff.rfl (fun _ => ?_) fun _ => .ite Iff.rfl (fun _ => ?_) fun _ => ?_
  · refine .seq (Held.twin_updateHeartbeatObject _) fun _ => ?_
    refine .seq (hL.outside outside_dateNow) fun now => ?_
    refine .seq (hL.outside (outside_pushLogLine _)) fun _ => ?_
    exact Pair.ret (.of_events rfl rfl)
  · refine .seq (Held.twin_updateHeartbeatObject _) fun _ => ?_
    refine .seq (hL.outside (outside_pushLogLine _)) fun _ => ?_
    exact Pair.ret (.of_events rfl rfl)
  · exact Pair.ret (.of_events rfl rfl)

theorem pair_heartbeatAnswered (pr : PingResult) :
    Pair (Held row.railwayServiceId ref ref') (Held row.railwayServiceId ref ref') totals totals'
      (heartbeatAnswered t row totals ref pr) (heartbeatAnswered t row totals' ref' pr) := by
  unfold heartbeatAnswered
  refine Server.Twin.ite Iff.rfl (fun _ => ?_) fun _ => .ite Iff.rfl (fun _ => ?_) fun _ =>
    .ite Iff.rfl (fun _ => ?_) fun _ => ?_
  · exact .seq (Held.twin_updateHeartbeatObject _) fun _ => Pair.ret (.of_events rfl rfl)
  · exact pair_heartbeatMissed.after (.of_events rfl rfl)
  · exact .seq (Held.twin_updateHeartbeatObject _) fun _ => Pair.ret (.of_events rfl rfl)
  · exact Pair.ret (.of_events rfl rfl)

theorem pair_heartbeatSkipped :
    Pair (Like row.railwayServiceId) (Like row.railwayServiceId) totals totals'
      (heartbeatSkipped t row totals) (heartbeatSkipped t row totals') := by
  have hL := Like.lockstep row.railwayServiceId
  unfold heartbeatSkipped
  refine Server.Twin.seq (twin_update fun _ _ hw => hw.deleteObject) fun _ => ?_
  refine .seq (hL.outside outside_pushSkipped) fun _ => ?_
  exact Pair.ret (.of_events rfl rfl)

theorem pair_afterObject :
    Pair (Held row.railwayServiceId ref ref') (Like row.railwayServiceId) totals totals'
      (afterObject t row totals ref) (afterObject t row totals' ref') := by
  have hL := Held.lockstep row.railwayServiceId ref ref'
  unfold afterObject
  cases row.probedAt t.env with
  | some probeUrl =>
    refine Server.Twin.seq (hL.outside outside_performanceNow) fun hbT0 => ?_
    refine .seq (hL.twin (Prog.Obeys.perform (BlindCall.ping probeUrl))) fun pr => ?_
    refine .seq (hL.outside (outside_elapsedMs _)) fun hbMs => ?_
    refine .seq (hL.outside (outside_pushActivity _)) fun _ => ?_
    refine .bind ((pair_heartbeatAnswered pr).after (.of_events rfl rfl)) fun a b =>
      .assume fun h => ?_
    refine .seq (hL.twin (Prog.Obeys.perform (BlindCall.probe t rfl pr.ok))) fun _ => ?_
    refine .seq (twin_update fun _ _ hw => hw.setObject) fun _ => ?_
    exact .ret fun _ _ hw => ⟨h, hw⟩
  | none =>
    have hlike : ∀ w v, Held row.railwayServiceId ref ref' w v → Like row.railwayServiceId w v :=
      fun _ _ hw => hw.like
    refine Server.Twin.ite Iff.rfl (fun _ => ?_) fun _ => ?_
    · exact Server.Twin.mono pair_heartbeatSkipped hlike fun _ _ _ _ h => h
    · exact .ret fun w v hw => ⟨.of_events rfl rfl, hlike w v hw⟩

theorem pair_heartbeat :
    Pair (Like row.railwayServiceId) (Like row.railwayServiceId) totals totals'
      (heartbeat t row totals) (heartbeat t row totals') := by
  rw [heartbeat_eq, heartbeat_eq]
  exact twin_heartbeatObject.bind fun ref ref' => pair_afterObject

/-! ## The row -/

/-- Two runs between rows: they will treat `k` alike, and have the same of it. -/
structure View (k : String) (w v : Scripted) : Prop where
  script : w.script.service k = v.script.service k
  slice : w.world.state.slice k = v.world.state.slice k
  marks : marksOf k w.world.trace = marksOf k v.world.trace
  left : w.world.state.Separate
  right : v.world.state.Separate

theorem View.symm {k : String} {w v : Scripted} (h : View k w v) : View k v w :=
  ⟨h.script.symm, h.slice.symm, h.marks.symm, h.right, h.left⟩

theorem View.trans {k : String} {w v u : Scripted} (h : View k w v) (h' : View k v u) :
    View k w u :=
  ⟨h.script.trans h'.script, h.slice.trans h'.slice, h.marks.trans h'.marks, h.left, h'.right⟩

theorem View.takeUp {w v : Scripted} (h : View row.railwayServiceId w v) (env : Environment) :
    Like row.railwayServiceId (w.serve (.takeUp env row)).2 (v.serve (.takeUp env row)).2 where
  script := h.script
  left := rfl
  right := rfl
  calls := rfl
  slice := h.slice
  marks :=
    marksOf_cons (congrArg (fun c => Mark.mk (Choice.now c) (.row env row)) (congrFun h.script 0))
      h.marks
  lt_left := h.left.lt _
  lt_right := h.right.lt _

/-- **A row in lockstep**: from the same view of its service, it does the same for the service. -/
theorem pair_processRow :
    Pair (View row.railwayServiceId) (Like row.railwayServiceId) totals totals'
      (processRow t row totals) (processRow t row totals') := by
  have hL := Like.lockstep row.railwayServiceId
  unfold processRow
  have htake : scripted.Twin () () (View row.railwayServiceId) (step (.takeUp t.env row))
      (step (.takeUp t.env row)) fun a b w v => a = b ∧ Like row.railwayServiceId w v :=
    .perform fun w v hw => ⟨_, _, _, _, rfl, rfl, rfl, hw.takeUp t.env⟩
  refine htake.seq fun _ => ?_
  refine .bind Like.readState fun s s' => .assume fun hs => ?_
  rw [(slice_eq_iff.1 hs).1]
  refine pair_exitRedeploy.bind fun a b => pair_heartbeat.bind fun a b => ?_
  refine Server.Twin.seq (hL.outside outside_forgetCooldown) fun _ => ?_
  refine pair_autoRecover.bind fun a b => (pair_rowEvents _).bind fun a b => ?_
  refine Server.Twin.seq (twin_update fun w v hw => ?_) fun _ => Pair.ret (.of_events rfl rfl)
  obtain ⟨-, hcool, hobject, hlast, hlife⟩ := slice_eq_iff.1 hw.slice
  refine hw.update (slice_eq_iff.2 ⟨?_, hcool, hobject, hlast, hlife⟩) hw.lt_left hw.lt_right
  rw [Dict.get_set_self, Dict.get_set_self]

end

end PeHackathon.Watchdog
