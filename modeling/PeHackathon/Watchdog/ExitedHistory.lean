import Mathlib.Data.List.TakeWhile
import PeHackathon.Watchdog.Lifecycle

/-!
# The exited lifecycle and the history of the probes

`effectiveRailwayOnlineStatusAfterProbe` with every result of a probe, as the tick and the route
`GET /api/visibility/docker` call it. `exited_history`: after any calls, the next answers exited
just when the service is online, its probe failed, and the failures in the history since the last
recovery reach the threshold.
-/

namespace PeHackathon.Watchdog

open Lib

/-! ## The history -/

/-- A call for a service: what Railway says about its newest deployment, and what the probe
found. -/
structure ProbeCall where
  serviceId : String
  deploymentId : String
  deploymentStatus : Option String
  hasActiveDeployment : Bool
  heartbeat : Option HeartbeatPingResult
  scheduleRedeem : Bool

namespace ProbeCall

variable (c : ProbeCall)

def onlineStatus : RailwayOnlineStatus :=
  deploymentStatusToRailwayUi c.deploymentStatus c.hasActiveDeployment

def run (env : Environment) (state : HeartbeatExitLifecycleState) :
    HeartbeatExitLifecycleState × RailwayOnlineStatus :=
  effectiveRailwayOnlineStatusAfterProbe state c.serviceId c.deploymentId env c.onlineStatus
    c.heartbeat c.scheduleRedeem

/-- The service is online, and its probe failed. -/
def failed : Bool :=
  decide (c.onlineStatus = .online) && decide (probeOutcome c.heartbeat = some false)

/-- The service is not online, or its probe succeeded. -/
def recovers : Bool :=
  decide (c.onlineStatus ≠ .online) || decide (probeOutcome c.heartbeat = some true)

end ProbeCall

/-- The state after calls, the newest first. -/
def afterCalls (env : Environment) : List ProbeCall → HeartbeatExitLifecycleState
  | [] => createHeartbeatExitLifecycleState
  | c :: calls => (c.run env (afterCalls env calls)).1

/-- The calls for a service. -/
def callsOf (s : String) (calls : List ProbeCall) : List ProbeCall :=
  calls.filter fun c => c.serviceId = s

/-- The failed probes of a service since the last recovery and the last change of the deployment,
where `calls` are its calls, the newest first. -/
def failedProbes : List ProbeCall → Nat
  | [] => 0
  | c :: calls =>
    ((c :: calls).takeWhile fun c' => decide (c'.deploymentId = c.deploymentId) &&
      !c'.recovers).countP (·.failed)

/-- What the failures come to after one more call. -/
theorem failedProbes_cons (c : ProbeCall) (calls : List ProbeCall) :
    failedProbes (c :: calls) =
      if c.recovers then 0
      else (if calls.head?.map (·.deploymentId) = some c.deploymentId then
        failedProbes calls else 0) +
        if c.failed then 1 else 0 := by
  change ((c :: calls).takeWhile fun c' => decide (c'.deploymentId = c.deploymentId) &&
    !c'.recovers).countP (·.failed) = _
  cases hrec : c.recovers with
  | true => simp [hrec]
  | false =>
    rw [List.takeWhile_cons_of_pos (by simp [hrec]), List.countP_cons, if_neg Bool.false_ne_true]
    congr 1
    cases calls with
    | nil => rfl
    | cons c' calls =>
      by_cases hd : c'.deploymentId = c.deploymentId
      · simp only [List.head?_cons, Option.map_some, hd, if_true, failedProbes]
      · simp [hd]

/-! ## The maps of one service -/

namespace ServiceLifecycle

variable (e : ServiceLifecycle)

/-- A call goes in. -/
def observed (env : Environment) (c : ProbeCall) : ServiceLifecycle :=
  let e := e.sync c.deploymentId
  if c.recovers then
    { e with fails := 0, exited := false, redeem := e.redeem && decide (c.onlineStatus ≠ .online) }
  else if c.failed then
    { e with
      fails := e.fails + 1
      exited := e.exited || decide (heartbeatExitFailureThreshold env ≤ e.fails + 1)
      redeem :=
        e.redeem || (e.exits env && railwayHeartbeatExitRedeployEnabled env && c.scheduleRedeem) }
  else e

end ServiceLifecycle

theorem run_entry (env : Environment) (state : HeartbeatExitLifecycleState) (c : ProbeCall)
    (s : String) :
    (c.run env state).1.entry s =
      if s = c.serviceId then (state.entry s).observed env c else state.entry s := by
  have hs : (state.entry c.serviceId).sync c.deploymentId =
      (syncHeartbeatExitDeploymentId state c.serviceId c.deploymentId).entry c.serviceId := by
    rw [HeartbeatExitLifecycleState.sync_entry, if_pos rfl]
  have hne : s ≠ c.serviceId →
      (syncHeartbeatExitDeploymentId state c.serviceId c.deploymentId).entry s = state.entry s :=
    fun h => by rw [HeartbeatExitLifecycleState.sync_entry, if_neg h]
  have hobserved :
      s = c.serviceId → (state.entry s).observed env c = (state.entry c.serviceId).observed env c :=
    fun h => by rw [h]
  unfold ServiceLifecycle.observed at hobserved ⊢
  unfold ProbeCall.run effectiveRailwayOnlineStatusAfterProbe
  rw [hs] at hobserved
  dsimp only at hobserved ⊢
  generalize syncHeartbeatExitDeploymentId state c.serviceId c.deploymentId = synced
    at hne hobserved ⊢
  by_cases h : s = c.serviceId
  · rw [if_pos h, hobserved h, h]
    unfold ProbeCall.recovers ProbeCall.failed
    by_cases hon : c.onlineStatus = .online
    · rcases probeOutcome c.heartbeat with - | - | -
      · simp [hon]
      · simp [hon, HeartbeatExitLifecycleState.afterFailedProbe_entry]
      · simp [hon, HeartbeatExitLifecycleState.entry, peekExitLifecycleRedeem]
    · simp [hon, HeartbeatExitLifecycleState.entry, peekExitLifecycleRedeem]
  · rw [if_neg h, ← hne h]
    by_cases hon : c.onlineStatus = .online
    · rcases probeOutcome c.heartbeat with - | - | -
      · simp [hon]
      · simp [hon, HeartbeatExitLifecycleState.afterFailedProbe_entry, h]
      · simp [hon, HeartbeatExitLifecycleState.entry, peekExitLifecycleRedeem, h, Dict.get_set,
          Dict.get_delete]
    · simp [hon, HeartbeatExitLifecycleState.entry, peekExitLifecycleRedeem, h, Dict.get_delete]

/-! ## The history function -/

/-- What the maps say about a service is what its calls, the newest first, come to. -/
structure ToldBy (env : Environment) (calls : List ProbeCall) (e : ServiceLifecycle) : Prop where
  deployment : e.deployment = calls.head?.map (·.deploymentId)
  fails : e.fails = failedProbes calls
  exited : e.exited = decide (heartbeatExitFailureThreshold env ≤ e.fails)

section

variable {env : Environment} {e : ServiceLifecycle} {c : ProbeCall} {calls : List ProbeCall}

/-- The failures of the history that the deployment of the next call leaves. -/
theorem ToldBy.sync (h : ToldBy env calls e) (d : String) :
    (e.sync d).fails = (if calls.head?.map (·.deploymentId) = some d then
      failedProbes calls else 0) ∧
      (e.sync d).exited = decide (heartbeatExitFailureThreshold env ≤ (e.sync d).fails) := by
  unfold ServiceLifecycle.sync
  rw [h.deployment]
  split
  · exact ⟨h.fails, h.exited⟩
  · have hpos := heartbeatExitFailureThreshold_pos env
    exact ⟨rfl, (decide_eq_false (Nat.not_le.2 hpos)).symm⟩

theorem ToldBy.observed (h : ToldBy env calls e) (c : ProbeCall) :
    ToldBy env (c :: calls) (e.observed env c) := by
  obtain ⟨hfails, hexited⟩ := h.sync c.deploymentId
  have hdeployment := e.sync_deployment c.deploymentId
  have hcons := failedProbes_cons c calls
  rw [← hfails] at hcons
  unfold ServiceLifecycle.observed
  dsimp only
  generalize e.sync c.deploymentId = synced at hfails hexited hdeployment hcons ⊢
  split at hcons
  · rename_i hrec
    rw [if_pos hrec]
    have hpos := heartbeatExitFailureThreshold_pos env
    exact ⟨hdeployment, hcons.symm, (decide_eq_false (by simp only; omega)).symm⟩
  · rename_i hrec
    rw [if_neg hrec]
    split at hcons
    · rename_i hfailed
      rw [if_pos hfailed]
      refine ⟨hdeployment, hcons.symm, ?_⟩
      simp only [hexited, ← Bool.decide_or]
      exact decide_eq_decide.2 (by omega)
    · rename_i hfailed
      rw [if_neg hfailed]
      exact ⟨hdeployment, hcons.symm, hexited⟩

/-- **The maps after any calls** tell what the calls of each service come to. -/
theorem afterCalls_toldBy (env : Environment) (calls : List ProbeCall) (s : String) :
    ToldBy env (callsOf s calls) ((afterCalls env calls).entry s) := by
  induction calls with
  | nil =>
    have hpos := heartbeatExitFailureThreshold_pos env
    refine ⟨rfl, rfl, (decide_eq_false ?_).symm⟩
    change ¬ heartbeatExitFailureThreshold env ≤ 0
    omega
  | cons c calls ih =>
    rw [afterCalls, run_entry]
    by_cases h : s = c.serviceId
    · rw [if_pos h, callsOf, List.filter_cons_of_pos (by simp [h])]
      exact ih.observed c
    · rw [if_neg h, callsOf, List.filter_cons_of_neg (by simpa using Ne.symm h)]
      exact ih

/-- The answer of a call, from the failures it leaves. -/
theorem run_status (env : Environment) (state : HeartbeatExitLifecycleState) (c : ProbeCall) :
    (c.run env state).2 =
      if c.failed ∧ heartbeatExitFailureThreshold env ≤
        ((state.entry c.serviceId).sync c.deploymentId).fails + 1
      then .exited else c.onlineStatus := by
  have hs : ((state.entry c.serviceId).sync c.deploymentId).fails =
      ((syncHeartbeatExitDeploymentId state c.serviceId c.deploymentId).consecutiveFails.get
        c.serviceId).getD 0 := by
    have hentry := state.sync_entry c.serviceId c.serviceId c.deploymentId
    rw [if_pos rfl] at hentry
    exact congrArg ServiceLifecycle.fails hentry.symm
  rw [hs]
  unfold ProbeCall.run effectiveRailwayOnlineStatusAfterProbe ProbeCall.failed afterFailedProbe
  dsimp only
  by_cases hon : c.onlineStatus = .online
  · rcases probeOutcome c.heartbeat with - | - | -
    · simp [hon]
    · simp only [hon, ne_eq, not_true_eq_false, if_false, decide_true, Bool.and_self, true_and]
      split <;> rfl
    · simp [hon]
  · simp [hon]

/-- The maps of a service say that it is exited just when its failures reach the threshold. -/
theorem ToldBy.maps {state : HeartbeatExitLifecycleState} {s : String}
    (h : ToldBy env calls (state.entry s)) :
    state.lifecycleExited.get s = some true ↔
      ∃ n, state.consecutiveFails.get s = some n ∧ heartbeatExitFailureThreshold env ≤ n := by
  have hexited : (state.lifecycleExited.get s).getD false =
      decide (heartbeatExitFailureThreshold env ≤ (state.consecutiveFails.get s).getD 0) := h.exited
  have hpos := heartbeatExitFailureThreshold_pos env
  have hflag : state.lifecycleExited.get s = some true ↔
      (state.lifecycleExited.get s).getD false = true := by
    rcases state.lifecycleExited.get s with - | - | - <;> simp
  rw [hflag, hexited, decide_eq_true_iff]
  cases state.consecutiveFails.get s with
  | none => simp only [Option.getD_none, reduceCtorEq, false_and, exists_false, iff_false]; omega
  | some n => simp

theorem onlineStatus_ne_exited (c : ProbeCall) : c.onlineStatus ≠ .exited := by
  unfold ProbeCall.onlineStatus deploymentStatusToRailwayUi
  dsimp only
  repeat' split
  all_goals nofun

end

/-- **The exited lifecycle is its history function**: after any calls for any services, a call
answers exited just when its service is online, its probe failed, and the failures since the last
recovery, this one counted, reach the threshold, and else what Railway says; and a service is marked
exited just while its failures reach it. -/
theorem exited_history (env : Environment) (before : List ProbeCall) (c : ProbeCall) :
    ((c.run env (afterCalls env before)).2 = .exited ↔
      c.failed ∧ heartbeatExitFailureThreshold env ≤
        failedProbes (callsOf c.serviceId (c :: before))) ∧
    ((c.run env (afterCalls env before)).2 ≠ .exited → (c.run env (afterCalls env before)).2 =
      c.onlineStatus) ∧
    ∀ s, (afterCalls env (c :: before)).lifecycleExited.get s = some true ↔
      ∃ n, (afterCalls env (c :: before)).consecutiveFails.get s = some n ∧
        heartbeatExitFailureThreshold env ≤ n := by
  have hbefore := afterCalls_toldBy env before c.serviceId
  have hcount : c.failed →
      failedProbes (callsOf c.serviceId (c :: before)) =
        (((afterCalls env before).entry c.serviceId).sync c.deploymentId).fails + 1 := by
    intro hfailed
    have hrec : c.recovers = false := by
      simp only [ProbeCall.failed, Bool.and_eq_true, decide_eq_true_eq] at hfailed
      simp [ProbeCall.recovers, hfailed.1, hfailed.2]
    rw [callsOf, List.filter_cons_of_pos (by simp), failedProbes_cons, hrec,
      if_neg Bool.false_ne_true, if_pos hfailed, (hbefore.sync c.deploymentId).1]
    rfl
  rw [run_status]
  refine ⟨?_, ?_, fun s => (afterCalls_toldBy env (c :: before) s).maps⟩
  · constructor
    · intro h
      split at h
      · rename_i hexits
        exact ⟨hexits.1, by rw [hcount hexits.1]; exact hexits.2⟩
      · exact absurd h (onlineStatus_ne_exited c)
    · rintro ⟨hfailed, hth⟩
      rw [hcount hfailed] at hth
      rw [if_pos ⟨hfailed, hth⟩]
  · intro h
    split at h
    · exact absurd rfl h
    · rename_i hnot
      rw [if_neg hnot]

end PeHackathon.Watchdog
