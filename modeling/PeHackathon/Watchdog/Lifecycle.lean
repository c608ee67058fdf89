import PeHackathon.Lib.Dict
import PeHackathon.Watchdog.Environment
import PeHackathon.Watchdog.Visibility

/-!
# The exited lifecycle

`heartbeat-lifecycle.ts`: when liveness probes fail again and again while Railway still reports the
service online, its lifecycle becomes exited, and a redeploy is scheduled for the next tick.

`ServiceLifecycle` is what the four maps say about one service. Each operation is one of that
service and leaves the others alone.
-/

namespace PeHackathon.Watchdog

open Lib

structure HeartbeatExitLifecycleState where
  consecutiveFails : Dict String Nat
  lastDeploymentId : Dict String String
  lifecycleExited : Dict String Bool
  redeemOnNextTick : Dict String Bool

def createHeartbeatExitLifecycleState : HeartbeatExitLifecycleState where
  consecutiveFails := .empty
  lastDeploymentId := .empty
  lifecycleExited := .empty
  redeemOnNextTick := .empty

/-- What a probe found, as far as it is read here. -/
structure HeartbeatPingResult where
  skipped : Bool
  /-- `none` is null. -/
  ok : Option Bool
  deriving DecidableEq, Repr

/-- What a probe says about the service; `none` where it says nothing. -/
def probeOutcome (heartbeat : Option HeartbeatPingResult) : Option Bool :=
  heartbeat.bind fun hb => if hb.skipped then none else hb.ok

section

variable (state : HeartbeatExitLifecycleState) (serviceId deploymentId : String)

def syncHeartbeatExitDeploymentId : HeartbeatExitLifecycleState :=
  if state.lastDeploymentId.get serviceId = some deploymentId then state
  else
    { lastDeploymentId := state.lastDeploymentId.set serviceId deploymentId
      consecutiveFails := state.consecutiveFails.delete serviceId
      lifecycleExited := state.lifecycleExited.delete serviceId
      redeemOnNextTick := state.redeemOnNextTick.delete serviceId }

/-- Whether a probe that failed while the service was online, after `sync`, is the first to show it
exited: `n >= th && firstExit`. -/
def showsFirstExit (env : Environment) : Bool :=
  decide (heartbeatExitFailureThreshold env ≤ (state.consecutiveFails.get serviceId).getD 0 + 1) &&
    !((state.lifecycleExited.get serviceId).getD false)

/-- The end of `effectiveRailwayOnlineStatusAfterProbe`: the probe of an online service failed. -/
def afterFailedProbe (env : Environment) (scheduleRedeem : Bool) :
    HeartbeatExitLifecycleState × RailwayOnlineStatus :=
  let th := heartbeatExitFailureThreshold env
  let n := (state.consecutiveFails.get serviceId).getD 0 + 1
  if th ≤ n then
    ({ state with
        consecutiveFails := state.consecutiveFails.set serviceId n
        lifecycleExited := state.lifecycleExited.set serviceId true
        redeemOnNextTick :=
          if showsFirstExit state serviceId env && railwayHeartbeatExitRedeployEnabled env &&
              scheduleRedeem then
            state.redeemOnNextTick.set serviceId true
          else state.redeemOnNextTick }, .exited)
  else ({ state with consecutiveFails := state.consecutiveFails.set serviceId n }, .online)

def effectiveRailwayOnlineStatusAfterProbe (env : Environment)
    (baseOnlineStatus : RailwayOnlineStatus) (heartbeat : Option HeartbeatPingResult)
    (scheduleRedeem : Bool) : HeartbeatExitLifecycleState × RailwayOnlineStatus :=
  let state := syncHeartbeatExitDeploymentId state serviceId deploymentId
  if baseOnlineStatus ≠ .online then
    ({ state with
        consecutiveFails := state.consecutiveFails.delete serviceId
        lifecycleExited := state.lifecycleExited.delete serviceId }, baseOnlineStatus)
  else
    match probeOutcome heartbeat with
    | none => (state, baseOnlineStatus)
    | some true =>
      ({ state with
          consecutiveFails := state.consecutiveFails.set serviceId 0
          lifecycleExited := state.lifecycleExited.delete serviceId
          redeemOnNextTick := state.redeemOnNextTick.delete serviceId }, .online)
    | some false => afterFailedProbe state serviceId env scheduleRedeem

/-- As the tick calls it: the probe was made (not skipped) and answered `ok`, and `scheduleRedeem`
is true. -/
def afterTickProbe (env : Environment) (baseOnlineStatus : RailwayOnlineStatus) (ok : Bool) :
    HeartbeatExitLifecycleState × RailwayOnlineStatus :=
  effectiveRailwayOnlineStatusAfterProbe state serviceId deploymentId env baseOnlineStatus
    (some ⟨false, some ok⟩) true

theorem afterTickProbe_eq (env : Environment) (baseOnlineStatus : RailwayOnlineStatus) (ok : Bool) :
    afterTickProbe state serviceId deploymentId env baseOnlineStatus ok =
      let state := syncHeartbeatExitDeploymentId state serviceId deploymentId
      if baseOnlineStatus ≠ .online then
        ({ state with
            consecutiveFails := state.consecutiveFails.delete serviceId
            lifecycleExited := state.lifecycleExited.delete serviceId }, baseOnlineStatus)
      else if ok then
        ({ state with
            consecutiveFails := state.consecutiveFails.set serviceId 0
            lifecycleExited := state.lifecycleExited.delete serviceId
            redeemOnNextTick := state.redeemOnNextTick.delete serviceId }, .online)
      else afterFailedProbe state serviceId env true := by
  cases ok <;> rfl

/-- True when a previous tick scheduled a redeploy after lifecycle became exited. -/
def peekExitLifecycleRedeem : Bool :=
  state.redeemOnNextTick.get serviceId = some true

def clearExitLifecycleRedeemFlag : HeartbeatExitLifecycleState :=
  { state with redeemOnNextTick := state.redeemOnNextTick.delete serviceId }

/-- After a successful exit-driven redeploy, reset lifecycle for the service. -/
def clearExitLifecycleForService : HeartbeatExitLifecycleState :=
  { state with
    consecutiveFails := state.consecutiveFails.delete serviceId
    lifecycleExited := state.lifecycleExited.delete serviceId
    redeemOnNextTick := state.redeemOnNextTick.delete serviceId }

/-- If exit redeploy failed, try again on the next tick. -/
def requeueExitLifecycleRedeem : HeartbeatExitLifecycleState :=
  { state with redeemOnNextTick := state.redeemOnNextTick.set serviceId true }

end

/-! ## One service -/

/-- What the maps say about one service; an entry that is missing counts as zero or false. -/
@[ext]
structure ServiceLifecycle where
  fails : Nat
  deployment : Option String
  exited : Bool
  redeem : Bool
  deriving DecidableEq, Repr

namespace ServiceLifecycle

variable (e : ServiceLifecycle) (deploymentId : String)

def sync : ServiceLifecycle :=
  if e.deployment = some deploymentId then e
  else { fails := 0, deployment := some deploymentId, exited := false, redeem := false }

/-- A failed probe of an online service makes it exited. -/
def exits (env : Environment) : Bool :=
  decide (heartbeatExitFailureThreshold env ≤ e.fails + 1) && !e.exited

/-- A probe goes in. -/
def probed (env : Environment) (onlineStatus : RailwayOnlineStatus) (ok : Bool) :
    ServiceLifecycle :=
  let e := e.sync deploymentId
  if onlineStatus ≠ .online then { e with fails := 0, exited := false }
  else if ok then { e with fails := 0, exited := false, redeem := false }
  else
    { e with
      fails := e.fails + 1
      exited := e.exited || decide (heartbeatExitFailureThreshold env ≤ e.fails + 1)
      redeem := e.redeem || (e.exits env && railwayHeartbeatExitRedeployEnabled env) }

theorem sync_redeem_le (h : (e.sync deploymentId).redeem = true) : e.redeem = true := by
  unfold sync at h
  split at h
  · exact h
  · cases h

theorem sync_deployment : (e.sync deploymentId).deployment = some deploymentId := by
  unfold sync
  split
  · assumption
  · rfl

/-- Failures that survive the synchronisation are those of the deployment. -/
theorem sync_fails (h : (e.sync deploymentId).fails ≠ 0) :
    e.deployment = some deploymentId ∧ (e.sync deploymentId).fails = e.fails := by
  unfold sync at h ⊢
  split
  · exact ⟨‹_›, rfl⟩
  · rw [if_neg ‹_›] at h
    exact absurd rfl h

theorem probed_deployment (env : Environment) (onlineStatus : RailwayOnlineStatus) (ok : Bool) :
    (e.probed deploymentId env onlineStatus ok).deployment = some deploymentId := by
  have h : (e.sync deploymentId).deployment = some deploymentId := e.sync_deployment deploymentId
  unfold probed
  split
  · exact h
  · split
    · exact h
    · exact h

theorem probed_fails (env : Environment) (onlineStatus : RailwayOnlineStatus) (ok : Bool) :
    (e.probed deploymentId env onlineStatus ok).fails =
      if onlineStatus = .online ∧ ok = false then (e.sync deploymentId).fails + 1 else 0 := by
  unfold probed
  by_cases hon : onlineStatus = .online
  · cases ok <;> simp [hon]
  · simp [hon]

/-- A probe leaves the redeem flag up only if it was up or the probe schedules it. -/
theorem probed_redeem {env : Environment} {onlineStatus : RailwayOnlineStatus} {ok : Bool}
    (h : (e.probed deploymentId env onlineStatus ok).redeem = true) :
    e.redeem = true ∨ (decide (onlineStatus = .online) && !ok && (e.sync deploymentId).exits env &&
      railwayHeartbeatExitRedeployEnabled env) = true := by
  unfold probed at h
  by_cases hon : onlineStatus = .online
  · cases ok with
    | true => simp [hon] at h
    | false =>
      simp only [hon, ne_eq, not_true_eq_false, if_false, Bool.false_eq_true,
        Bool.or_eq_true] at h
      rcases h with h | h
      · exact .inl (e.sync_redeem_le deploymentId h)
      · exact .inr (by simp [hon, h])
  · simp only [ne_eq, hon, not_false_eq_true, if_true] at h
    exact .inl (e.sync_redeem_le deploymentId h)

end ServiceLifecycle

namespace HeartbeatExitLifecycleState

variable (state : HeartbeatExitLifecycleState) (s s' d : String)

/-- The entry of a service. -/
def entry : ServiceLifecycle where
  fails := (state.consecutiveFails.get s).getD 0
  deployment := state.lastDeploymentId.get s
  exited := (state.lifecycleExited.get s).getD false
  redeem := peekExitLifecycleRedeem state s

@[simp] theorem create_entry : createHeartbeatExitLifecycleState.entry s =
    { fails := 0, deployment := none, exited := false, redeem := false } := by
  simp [entry, createHeartbeatExitLifecycleState, peekExitLifecycleRedeem]

theorem sync_entry :
    (syncHeartbeatExitDeploymentId state s d).entry s' =
      if s' = s then (state.entry s).sync d else state.entry s' := by
  unfold syncHeartbeatExitDeploymentId ServiceLifecycle.sync
  by_cases h : s' = s
  · subst h
    by_cases hd : state.lastDeploymentId.get s' = some d <;>
      simp [entry, peekExitLifecycleRedeem, hd]
  · by_cases hd : state.lastDeploymentId.get s = some d <;>
      simp [entry, peekExitLifecycleRedeem, hd, h, Dict.get_set, Dict.get_delete]

theorem afterFailedProbe_entry (env : Environment) (b : Bool) :
    (afterFailedProbe state s env b).1.entry s' =
      if s' = s then
        { state.entry s with
          fails := (state.entry s).fails + 1
          exited := (state.entry s).exited ||
            decide (heartbeatExitFailureThreshold env ≤ (state.entry s).fails + 1)
          redeem := (state.entry s).redeem ||
            ((state.entry s).exits env && railwayHeartbeatExitRedeployEnabled env && b) }
      else state.entry s' := by
  have hexits : (state.entry s).exits env = showsFirstExit state s env := rfl
  unfold afterFailedProbe
  rw [hexits]
  by_cases hth : heartbeatExitFailureThreshold env ≤ (state.consecutiveFails.get s).getD 0 + 1
  · simp only [if_pos hth]
    cases showsFirstExit state s env && railwayHeartbeatExitRedeployEnabled env && b
    all_goals
      by_cases h : s' = s
      · subst h
        simp [entry, peekExitLifecycleRedeem, hth]
      · simp [entry, peekExitLifecycleRedeem, h, Dict.get_set]
  · have hdec : decide (heartbeatExitFailureThreshold env ≤ (state.entry s).fails + 1) = false :=
      decide_eq_false hth
    have hex : showsFirstExit state s env = false := by
      rw [← hexits, ServiceLifecycle.exits, hdec, Bool.false_and]
    simp only [if_neg hth, hex, hdec, Bool.or_false, Bool.false_and]
    by_cases h : s' = s
    · subst h
      simp [entry, peekExitLifecycleRedeem]
    · simp [entry, peekExitLifecycleRedeem, h, Dict.get_set]

theorem probed_entry (env : Environment) (onlineStatus : RailwayOnlineStatus) (ok : Bool) :
    (afterTickProbe state s d env onlineStatus ok).1.entry s' =
      if s' = s then (state.entry s).probed d env onlineStatus ok else state.entry s' := by
  have hs : (state.entry s).sync d = (syncHeartbeatExitDeploymentId state s d).entry s := by
    rw [sync_entry, if_pos rfl]
  have hne : s' ≠ s → (syncHeartbeatExitDeploymentId state s d).entry s' = state.entry s' :=
    fun h => by rw [sync_entry, if_neg h]
  rw [afterTickProbe_eq]
  unfold ServiceLifecycle.probed
  rw [hs]
  generalize syncHeartbeatExitDeploymentId state s d = synced at hne ⊢
  by_cases hon : onlineStatus ≠ .online
  · simp only [if_pos hon]
    by_cases h : s' = s
    · subst h; simp [entry, peekExitLifecycleRedeem]
    · rw [if_neg h, ← hne h]
      simp [entry, peekExitLifecycleRedeem, h, Dict.get_delete]
  · simp only [if_neg hon]
    cases ok with
    | true =>
      by_cases h : s' = s
      · subst h; simp [entry, peekExitLifecycleRedeem]
      · rw [if_neg h, ← hne h]
        simp [entry, peekExitLifecycleRedeem, h, Dict.get_delete, Dict.get_set]
    | false =>
      simp only [Bool.false_eq_true, if_false, afterFailedProbe_entry, Bool.and_true]
      by_cases h : s' = s
      · simp [h]
      · rw [if_neg h, if_neg h, hne h]

theorem clearFlag_entry :
    (clearExitLifecycleRedeemFlag state s).entry s' =
      if s' = s then { state.entry s with redeem := false } else state.entry s' := by
  by_cases h : s' = s
  · subst h; simp [entry, clearExitLifecycleRedeemFlag, peekExitLifecycleRedeem]
  · simp [entry, clearExitLifecycleRedeemFlag, peekExitLifecycleRedeem, h, Dict.get_delete]

theorem clear_entry :
    (clearExitLifecycleForService state s).entry s' =
      if s' = s then { state.entry s with fails := 0, exited := false, redeem := false }
      else state.entry s' := by
  by_cases h : s' = s
  · subst h; simp [entry, clearExitLifecycleForService, peekExitLifecycleRedeem]
  · simp [entry, clearExitLifecycleForService, peekExitLifecycleRedeem, h, Dict.get_delete]

theorem requeue_entry :
    (requeueExitLifecycleRedeem state s).entry s' =
      if s' = s then { state.entry s with redeem := true } else state.entry s' := by
  by_cases h : s' = s
  · subst h; simp [entry, requeueExitLifecycleRedeem, peekExitLifecycleRedeem]
  · simp [entry, requeueExitLifecycleRedeem, peekExitLifecycleRedeem, h, Dict.get_set]

end HeartbeatExitLifecycleState

end PeHackathon.Watchdog
