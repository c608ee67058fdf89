import PeHackathon.Watchdog.RowCalls

/-!
# The entries of one service

`entries` is what the eight maps of the state have for a service. Each change a row makes is
`Keyed`: it leaves the other services alone, and what it does to its own depends on nothing else.
-/

namespace PeHackathon.Watchdog

open Lib

/-! ## The lifecycle -/

/-- What the four maps of the lifecycle have for one service. -/
structure LifecycleEntries where
  consecutiveFails : Option Nat
  lastDeploymentId : Option String
  lifecycleExited : Option Bool
  redeemOnNextTick : Option Bool
  deriving DecidableEq, Repr

namespace HeartbeatExitLifecycleState

variable {sid : String}

def entries (state : HeartbeatExitLifecycleState) (k : String) : LifecycleEntries where
  consecutiveFails := state.consecutiveFails.get k
  lastDeploymentId := state.lastDeploymentId.get k
  lifecycleExited := state.lifecycleExited.get k
  redeemOnNextTick := state.redeemOnNextTick.get k

theorem entries_eq_iff {l l' : HeartbeatExitLifecycleState} {k k' : String} :
    l.entries k = l'.entries k' ↔ l.consecutiveFails.get k = l'.consecutiveFails.get k' ∧
      l.lastDeploymentId.get k = l'.lastDeploymentId.get k' ∧
      l.lifecycleExited.get k = l'.lifecycleExited.get k' ∧
      l.redeemOnNextTick.get k = l'.redeemOnNextTick.get k' := by
  simp [entries]

/-- A change of one service, by what the maps have for it. -/
structure Keyed (sid : String) (f : HeartbeatExitLifecycleState → HeartbeatExitLifecycleState) :
    Prop where
  others : ∀ l k, k ≠ sid → (f l).entries k = l.entries k
  self : ∀ l l', l.entries sid = l'.entries sid → (f l).entries sid = (f l').entries sid

theorem Keyed.comp {f g : HeartbeatExitLifecycleState → HeartbeatExitLifecycleState}
    (hf : Keyed sid f) (hg : Keyed sid g) : Keyed sid fun l => g (f l) where
  others l k h := (hg.others (f l) k h).trans (hf.others l k h)
  self l l' h := hg.self _ _ (hf.self l l' h)

theorem keyed_clearFlag : Keyed sid (clearExitLifecycleRedeemFlag · sid) where
  others l k h := by simp [entries_eq_iff, clearExitLifecycleRedeemFlag, Dict.get_delete_ne _ h]
  self l l' h := by
    simp only [entries_eq_iff] at h
    simp [entries_eq_iff, clearExitLifecycleRedeemFlag, h]

theorem keyed_clearService : Keyed sid (clearExitLifecycleForService · sid) where
  others l k h := by simp [entries_eq_iff, clearExitLifecycleForService, Dict.get_delete_ne _ h]
  self l l' h := by
    simp only [entries_eq_iff] at h
    simp [entries_eq_iff, clearExitLifecycleForService, h]

theorem keyed_requeue : Keyed sid (requeueExitLifecycleRedeem · sid) where
  others l k h := by simp [entries_eq_iff, requeueExitLifecycleRedeem, Dict.get_set_ne _ _ h]
  self l l' h := by
    simp only [entries_eq_iff] at h
    simp [entries_eq_iff, requeueExitLifecycleRedeem, h]

theorem keyed_sync (deploymentId : String) :
    Keyed sid (syncHeartbeatExitDeploymentId · sid deploymentId) where
  others l k h := by
    unfold syncHeartbeatExitDeploymentId
    split
    · rfl
    · simp [entries_eq_iff, Dict.get_delete_ne _ h, Dict.get_set_ne _ _ h]
  self l l' h := by
    have hd := (entries_eq_iff.1 h).2.1
    unfold syncHeartbeatExitDeploymentId
    rw [hd]
    split
    · exact h
    · simp [entries_eq_iff]

theorem keyed_afterFailedProbe (env : Environment) (b : Bool) :
    Keyed sid fun l => (afterFailedProbe l sid env b).1 where
  others l k h := by
    unfold afterFailedProbe
    simp only
    split
    · simp only [entries_eq_iff, Dict.get_set_ne _ _ h, true_and]
      split
      · rw [Dict.get_set_ne _ _ h]
      · rfl
    · simp [entries_eq_iff, Dict.get_set_ne _ _ h]
  self l l' h := by
    obtain ⟨hfails, hdep, hexited, hredeem⟩ := entries_eq_iff.1 h
    unfold afterFailedProbe showsFirstExit
    simp only [hfails, hexited]
    split
    · simp only [entries_eq_iff, hdep, Dict.get_set_self, true_and]
      split
      · simp
      · exact hredeem
    · simp [entries_eq_iff, hdep, hexited, hredeem]

theorem keyed_probeNotOnline : Keyed sid fun l =>
    { l with
      consecutiveFails := l.consecutiveFails.delete sid
      lifecycleExited := l.lifecycleExited.delete sid } where
  others l k h := by simp [entries_eq_iff, Dict.get_delete_ne _ h]
  self l l' h := by
    simp only [entries_eq_iff] at h
    simp [entries_eq_iff, h]

theorem keyed_probeAnswered : Keyed sid fun l =>
    { l with
      consecutiveFails := l.consecutiveFails.set sid 0
      lifecycleExited := l.lifecycleExited.delete sid
      redeemOnNextTick := l.redeemOnNextTick.delete sid } where
  others l k h := by simp [entries_eq_iff, Dict.get_delete_ne _ h, Dict.get_set_ne _ _ h]
  self l l' h := by
    simp only [entries_eq_iff] at h
    simp [entries_eq_iff, h]

theorem keyed_probe (env : Environment) (deploymentId : String)
    (baseOnlineStatus : RailwayOnlineStatus) (ok : Bool) :
    Keyed sid fun l =>
      (afterTickProbe l sid deploymentId env baseOnlineStatus ok).1 := by
  simp only [afterTickProbe_eq]
  by_cases hon : baseOnlineStatus ≠ .online
  · simp only [if_pos hon]
    exact (keyed_sync deploymentId).comp keyed_probeNotOnline
  · simp only [if_neg hon]
    cases ok with
    | true => exact (keyed_sync deploymentId).comp keyed_probeAnswered
    | false => exact (keyed_sync deploymentId).comp (keyed_afterFailedProbe env true)

end HeartbeatExitLifecycleState

/-! ## The state -/

/-- What the maps have for one service. `H` is how its heartbeat object is given. -/
structure ServiceEntries (H : Type) where
  prev : Option WatchdogPrevEntry
  recoverCooldown : Option Nat
  heartbeatRecoverState : Option H
  heartbeatLastRecoverAt : Option Nat
  lifecycle : LifecycleEntries
  deriving DecidableEq, Repr

namespace WatchdogPersistentState

/-- The entries of a service, its heartbeat object by reference. -/
def entries (s : WatchdogPersistentState) (k : String) : ServiceEntries Nat where
  prev := s.prev.get k
  recoverCooldown := s.recoverCooldown.get k
  heartbeatRecoverState := s.heartbeatRecoverState.get k
  heartbeatLastRecoverAt := s.heartbeatLastRecoverAt.get k
  lifecycle := s.heartbeatExitLifecycle.entries k

theorem entries_eq_iff {s s' : WatchdogPersistentState} {k k' : String} :
    s.entries k = s'.entries k' ↔ s.prev.get k = s'.prev.get k' ∧
      s.recoverCooldown.get k = s'.recoverCooldown.get k' ∧
      s.heartbeatRecoverState.get k = s'.heartbeatRecoverState.get k' ∧
      s.heartbeatLastRecoverAt.get k = s'.heartbeatLastRecoverAt.get k' ∧
      s.heartbeatExitLifecycle.entries k = s'.heartbeatExitLifecycle.entries k' := by
  simp [entries]

end WatchdogPersistentState

end PeHackathon.Watchdog
