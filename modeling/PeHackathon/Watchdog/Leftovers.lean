import PeHackathon.Watchdog.Rules
import PeHackathon.Watchdog.SequentialTicks

/-!
# State that outlives its service

At its end a tick forgets the services that are gone in three of the eight maps. `nothing_left_iff`:
in a run of ticks, every map is within the services of the last poll exactly when, before each tick,
the five other maps have no service that its poll does not list. `leftover` is a service that comes
and goes.
-/

namespace PeHackathon.Watchdog

open Lib

/-- Every map is about these services. -/
structure KeysWithin (s : WatchdogPersistentState) (ids : List String) : Prop where
  prev : s.prev.keys ⊆ ids
  recoverCooldown : s.recoverCooldown.keys ⊆ ids
  heartbeatRecoverState : s.heartbeatRecoverState.keys ⊆ ids
  heartbeatLastRecoverAt : s.heartbeatLastRecoverAt.keys ⊆ ids
  consecutiveFails : s.heartbeatExitLifecycle.consecutiveFails.keys ⊆ ids
  lastDeploymentId : s.heartbeatExitLifecycle.lastDeploymentId.keys ⊆ ids
  lifecycleExited : s.heartbeatExitLifecycle.lifecycleExited.keys ⊆ ids
  redeemOnNextTick : s.heartbeatExitLifecycle.redeemOnNextTick.keys ⊆ ids

/-- The maps that no tick prunes are about these services. -/
structure UnprunedWithin (s : WatchdogPersistentState) (ids : List String) : Prop where
  recoverCooldown : s.recoverCooldown.keys ⊆ ids
  consecutiveFails : s.heartbeatExitLifecycle.consecutiveFails.keys ⊆ ids
  lastDeploymentId : s.heartbeatExitLifecycle.lastDeploymentId.keys ⊆ ids
  lifecycleExited : s.heartbeatExitLifecycle.lifecycleExited.keys ⊆ ids
  redeemOnNextTick : s.heartbeatExitLifecycle.redeemOnNextTick.keys ⊆ ids

/-! ## One tick -/

section

variable {s s' : WatchdogPersistentState} {ids : List String} {rows : List RailwayVisibilityRow}

/-- The keys outside `ids` are as they were. -/
theorem keys_subset_congr {V : Type} {d d' : Dict String V}
    (h : ∀ k, k ∉ ids → d'.get k = d.get k) : d'.keys ⊆ ids ↔ d.keys ⊆ ids := by
  rw [Dict.keys_subset_iff, Dict.keys_subset_iff]
  exact forall₂_congr fun k hk => by rw [h k hk]

/-- What the pruning leaves is within the services of the rows, where it prunes at all. -/
theorem forgetGone_within : KeysWithin (forgetGone rows s) (rows.map (·.railwayServiceId)) ↔
    UnprunedWithin s (rows.map (·.railwayServiceId)) := by
  have hpruned : ∀ {V : Type} (d : Dict String V),
      (d.deleteAll (d.keys.filter (· ∉ rows.map (·.railwayServiceId)))).keys ⊆
        rows.map (·.railwayServiceId) := by
    intro V d
    rw [Dict.keys_subset_iff]
    intro k hk
    have hget := d.get_deleteAll_filter (· ∈ rows.map (·.railwayServiceId)) k
    simp only [decide_not] at hget ⊢
    rw [hget, if_neg (by simpa using hk)]
  constructor
  · intro h
    exact ⟨h.recoverCooldown, h.consecutiveFails, h.lastDeploymentId, h.lifecycleExited,
      h.redeemOnNextTick⟩
  · intro h
    exact ⟨hpruned _, h.recoverCooldown, hpruned _, hpruned _, h.consecutiveFails,
      h.lastDeploymentId, h.lifecycleExited, h.redeemOnNextTick⟩

theorem unprunedWithin_congr (h : ∀ k, k ∉ ids → s'.entries k = s.entries k) :
    UnprunedWithin s' ids ↔ UnprunedWithin s ids := by
  have hentries := fun k hk => WatchdogPersistentState.entries_eq_iff.1 (h k hk)
  have hlifecycle := fun k hk =>
    HeartbeatExitLifecycleState.entries_eq_iff.1 (hentries k hk).2.2.2.2
  have h₁ := keys_subset_congr fun k hk => (hentries k hk).2.1
  have h₂ := keys_subset_congr fun k hk => (hlifecycle k hk).1
  have h₃ := keys_subset_congr fun k hk => (hlifecycle k hk).2.1
  have h₄ := keys_subset_congr fun k hk => (hlifecycle k hk).2.2.1
  have h₅ := keys_subset_congr fun k hk => (hlifecycle k hk).2.2.2
  constructor
  · intro h
    exact ⟨h₁.1 h.recoverCooldown, h₂.1 h.consecutiveFails, h₃.1 h.lastDeploymentId,
      h₄.1 h.lifecycleExited, h₅.1 h.redeemOnNextTick⟩
  · intro h
    exact ⟨h₁.2 h.recoverCooldown, h₂.2 h.consecutiveFails, h₃.2 h.lastDeploymentId,
      h₄.2 h.lifecycleExited, h₅.2 h.redeemOnNextTick⟩

theorem LogsOnly.keysWithin {w w' : World} (h : LogsOnly w w') :
    KeysWithin w'.state ids ↔ KeysWithin w.state ids := by
  rw [h.state]
  exact ⟨fun h => ⟨h.1, h.2, h.3, h.4, h.5, h.6, h.7, h.8⟩,
    fun h => ⟨h.1, h.2, h.3, h.4, h.5, h.6, h.7, h.8⟩⟩

/-- What is left of the services that are gone was there before the tick. -/
theorem TickRecord.Ran.keysWithin_iff {r : TickRecord} (h : r.Ran) (hsep : r.before.state.Separate)
    (hok : r.rows.errorText = none) :
    KeysWithin r.after.state r.ids ↔ UnprunedWithin r.before.state r.ids := by
  obtain ⟨time, ⟨herror, -⟩ | ⟨-, now, w, totals, w', hpoll, hloop, -, hend⟩⟩ := h.cases
  · exact absurd hok herror
  · have hothers := (loop_others (hpoll.separate hsep) hloop).2
    rw [hend.keysWithin]
    refine forgetGone_within.trans (unprunedWithin_congr fun k hk => ?_)
    exact (hothers k hk).trans (hpoll.entries k)

end

/-! ## A run -/

/-- **Nothing is left of a service that is gone**, in every tick whose poll did not fail, exactly
when each of these ticks begins without a service in the unpruned maps that its poll does not
list. -/
theorem nothing_left_iff {recs : List TickRecord} {w : World} (h : Sequential .start recs w) :
    (∀ r ∈ recs, r.rows.errorText = none → KeysWithin r.after.state r.ids) ↔
      ∀ r ∈ recs, r.rows.errorText = none → UnprunedWithin r.before.state r.ids := by
  refine forall₂_congr fun r hr => forall_congr' fun hok => ?_
  obtain ⟨hran, hsep⟩ := h.separate separate_empty r hr
  exact hran.keysWithin_iff hsep hok

/-- No state outlives its service. -/
def NoStateOutlives : Prop :=
  ∀ (recs : List TickRecord) (w : World), Sequential .start recs w →
    ∀ r ∈ recs, r.rows.errorText = none → KeysWithin r.after.state r.ids

/-- A service is probed, and is gone at the next poll. -/
def leftover : List Choice :=
  [sampleChoice 10 [sampleRow "SUCCESS" "d1"] true none, sampleChoice 20 [] true none]

/-- **The lifecycle keeps a service that is gone.** -/
theorem state_outlives : ¬ NoStateOutlives := by
  intro h
  have hlast : (replay sampleEnv leftover .start).any fun r =>
      r.rows.errorText = none && r.ids = [] &&
        r.after.state.heartbeatExitLifecycle.lastDeploymentId.keys ≠ [] := by
    decide +kernel
  obtain ⟨r, hr, hlast⟩ := List.any_eq_true.1 hlast
  simp only [Bool.and_eq_true, decide_eq_true_eq] at hlast
  obtain ⟨⟨hok, hids⟩, hkeys⟩ := hlast
  have hwithin := h _ _ (sequential_replay sampleEnv leftover .start) r hr hok
  refine hkeys (List.eq_nil_of_subset_nil ?_)
  rw [← hids]
  exact hwithin.lastDeploymentId

/-- A service without a public address, which is never probed, is gone at the second poll. -/
def unlisted : List Choice :=
  [sampleChoice 10 [visibilityRow "old" "job" none, sampleRow "SUCCESS" "d1"] true none,
    sampleChoice 20 [sampleRow "SUCCESS" "d1"] true none]

/-- The first tick has an entry for it, and the second leaves none behind. -/
theorem nothing_left_sample :
    (replay sampleEnv unlisted .start).map (fun r => (r.ids, r.after.state.prev.keys)) =
        [(["old", "svc"], ["svc", "old"]), (["svc"], ["svc"])] ∧
      ∀ r ∈ replay sampleEnv unlisted .start, r.rows.errorText = none →
        KeysWithin r.after.state r.ids := by
  have hkeys : ((replay sampleEnv unlisted .start).all fun r =>
      decide (r.before.state.recoverCooldown.keys ⊆ r.ids) &&
        (decide (r.before.state.heartbeatExitLifecycle.consecutiveFails.keys ⊆ r.ids) &&
        (decide (r.before.state.heartbeatExitLifecycle.lastDeploymentId.keys ⊆ r.ids) &&
        (decide (r.before.state.heartbeatExitLifecycle.lifecycleExited.keys ⊆ r.ids) &&
          decide (r.before.state.heartbeatExitLifecycle.redeemOnNextTick.keys ⊆ r.ids))))) := by
    decide +kernel
  refine ⟨by decide +kernel, (nothing_left_iff (sequential_replay sampleEnv unlisted .start)).2 ?_⟩
  intro r hr _
  have hwithin := List.all_eq_true.1 hkeys r hr
  simp only [Bool.and_eq_true, decide_eq_true_eq] at hwithin
  obtain ⟨h₁, h₂, h₃, h₄, h₅⟩ := hwithin
  exact ⟨h₁, h₂, h₃, h₄, h₅⟩

end PeHackathon.Watchdog
