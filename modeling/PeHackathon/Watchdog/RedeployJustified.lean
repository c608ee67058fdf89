import PeHackathon.Watchdog.Rules
import PeHackathon.Watchdog.Trace

/-!
# Why a service is redeployed

An exit redeploy is meant for the deployment whose probes failed. The flag that asks for it is read
before the lifecycle is synchronised with the row, so it may outlive that deployment, or a row that
is not online. `redeploys_justified`: where it does not, the redeployed deployment has failed
`heartbeatExitFailureThreshold` probes in a row while online. `redeploys_not_justified` is a run in
which a new deployment that was never probed is redeployed.
-/

namespace PeHackathon.Watchdog

open Lib

/-! ## Streaks of failures -/

/-- The last `n` probes of `s` failed, while it was online with deployment `d`, and since the first
of them every row of `s` was online. -/
def FailStreak (s d : String) : List Mark → Nat → Prop
  | _, 0 => True
  | [], _ + 1 => False
  | mark :: before, n + 1 => match mark.kind with
    | .probe p =>
      if p.serviceId = s then
        (p.deploymentId = d ∧ p.onlineStatus = .online ∧ p.ok = false) ∧ FailStreak s d before n
      else FailStreak s d before (n + 1)
    | .row _ row =>
      (row.railwayServiceId = s → row.railwayOnlineStatus = .online) ∧ FailStreak s d before (n + 1)
    | _ => FailStreak s d before (n + 1)

/-- The history before the last poll. -/
def beforePoll : List Mark → List Mark
  | [] => []
  | mark :: before => match mark.kind with
    | .fetched _ => before
    | _ => beforePoll before

/-- An exit redeploy of `s` is sent only for a deployment that failed often enough before the
tick. -/
def Justified (s : String) (mark : Mark) (before : List Mark) : Prop :=
  mark.kind = .attempt .exitRedeploy s → ∃ env row, currentRow before = some (env, row) ∧
    row.railwayServiceId = s ∧
    FailStreak s row.depId (beforePoll before) (heartbeatExitFailureThreshold env)

/-- A mark that no streak counts. -/
def MarkKind.Uncounted : MarkKind → Prop
  | .fetched _ | .row _ _ | .probe _ => False
  | _ => True

section

variable {s d : String} {t : Nat} {k : MarkKind} {before trace : List Mark}

/-- The mark is a probe of deployment `d` of `s`. -/
def Mark.probes (mark : Mark) (s d : String) : Bool :=
  match mark.kind with
  | .probe p => p.serviceId = s ∧ p.deploymentId = d
  | _ => false

/-- A streak has probes. -/
theorem FailStreak.exists_probe {n : Nat} (h : FailStreak s d trace n) (hn : 0 < n) :
    ∃ mark ∈ trace, mark.probes s d = true := by
  induction trace with
  | nil =>
    cases n with
    | zero => omega
    | succ n => exact h.elim
  | cons mark before ih =>
    obtain ⟨n, rfl⟩ := Nat.exists_eq_succ_of_ne_zero (Nat.pos_iff_ne_zero.1 hn)
    have hlater : FailStreak s d before (n + 1) → ∃ m ∈ mark :: before, m.probes s d = true := by
      intro hb
      obtain ⟨m, hm, hp⟩ := ih hb
      exact ⟨m, List.mem_cons_of_mem _ hm, hp⟩
    obtain ⟨t, k⟩ := mark
    cases k with
    | probe p =>
      by_cases hs : p.serviceId = s
      · simp only [FailStreak, if_pos hs] at h
        exact ⟨_, List.mem_cons_self, by simp [Mark.probes, hs, h.1.1]⟩
      · simp only [FailStreak, if_neg hs] at h
        exact hlater h
    | row env row => exact hlater h.2
    | fetched | attempt | outcome | healthy => exact hlater h

theorem beforePoll_subset : beforePoll trace ⊆ trace := by
  induction trace with
  | nil => exact List.Subset.refl _
  | cons mark before ih =>
    unfold beforePoll
    split
    · exact List.subset_cons_self _ _
    · exact List.Subset.trans ih (List.subset_cons_self _ _)

theorem failStreak_uncounted (hk : k.Uncounted) {n : Nat} :
    FailStreak s d (⟨t, k⟩ :: before) n ↔ FailStreak s d before n := by
  cases n with
  | zero => cases before <;> exact Iff.rfl
  | succ n =>
    cases k with
    | fetched | row | probe => exact hk.elim
    | _ => exact Iff.rfl

theorem failStreak_probe_ne {p : ProbeMark} (hp : p.serviceId ≠ s) {n : Nat} :
    FailStreak s d (⟨t, .probe p⟩ :: before) n ↔ FailStreak s d before n := by
  cases n with
  | zero => cases before <;> exact Iff.rfl
  | succ n => simp only [FailStreak, if_neg hp]

theorem beforePoll_uncounted (hk : k.Uncounted) :
    beforePoll (⟨t, k⟩ :: before) = beforePoll before := by
  cases k with
  | fetched | row | probe => exact hk.elim
  | _ => rfl

end

/-! ## Where the flag is not stale -/

/-- Since the first of the last `n` probes of `s`, no row of it has been passed over: neither online
nor to be probed. -/
def NonePassed (s : String) : List Mark → Nat → Prop
  | _, 0 => True
  | [], _ + 1 => True
  | mark :: before, n + 1 => match mark.kind with
    | .probe p => if p.serviceId = s then NonePassed s before n else NonePassed s before (n + 1)
    | .row env row =>
      (row.railwayServiceId = s → row.railwayOnlineStatus ≠ .online →
        (row.probedAt env).isSome = true) ∧
        NonePassed s before (n + 1)
    | _ => NonePassed s before (n + 1)

instance NonePassed.decidable (s : String) : ∀ trace n, Decidable (NonePassed s trace n)
  | [], 0 => inferInstanceAs (Decidable True)
  | _ :: _, 0 => inferInstanceAs (Decidable True)
  | [], _ + 1 => inferInstanceAs (Decidable True)
  | ⟨_, .probe p⟩ :: before, n + 1 =>
    have := NonePassed.decidable s before n
    have := NonePassed.decidable s before (n + 1)
    inferInstanceAs (Decidable (if p.serviceId = s then _ else _))
  | ⟨_, .row _ _⟩ :: before, n + 1 =>
    have := NonePassed.decidable s before (n + 1)
    inferInstanceAs (Decidable (_ ∧ _))
  | ⟨_, .fetched _⟩ :: before, n + 1 => NonePassed.decidable s before (n + 1)
  | ⟨_, .attempt _ _⟩ :: before, n + 1 => NonePassed.decidable s before (n + 1)
  | ⟨_, .outcome _ _ _⟩ :: before, n + 1 => NonePassed.decidable s before (n + 1)
  | ⟨_, .healthy _⟩ :: before, n + 1 => NonePassed.decidable s before (n + 1)

section

variable {s : String} {t n : Nat} {k : MarkKind} {before : List Mark}

theorem nonePassed_uncounted (hk : k.Uncounted) :
    NonePassed s (⟨t, k⟩ :: before) n ↔ NonePassed s before n := by
  cases n with
  | zero => cases before <;> exact Iff.rfl
  | succ n =>
    cases k with
    | fetched | row | probe => exact hk.elim
    | _ => exact Iff.rfl

theorem nonePassed_probe_ne {p : ProbeMark} (hp : p.serviceId ≠ s) :
    NonePassed s (⟨t, .probe p⟩ :: before) n ↔ NonePassed s before n := by
  cases n with
  | zero => cases before <;> exact Iff.rfl
  | succ n => simp only [NonePassed, if_neg hp]

end

/-- The exit redeploy of the row is not for another deployment: the failures on record are those of
the row's deployment, they are enough, and no row was passed over while they were counted. -/
structure RowCurrent (env : Environment) (row : RailwayVisibilityRow)
    (lifecycle : HeartbeatExitLifecycleState) (trace : List Mark) : Prop where
  deployment : (lifecycle.entry row.railwayServiceId).deployment = some row.depId
  enough : heartbeatExitFailureThreshold env ≤ (lifecycle.entry row.railwayServiceId).fails
  nonePassed :
    NonePassed row.railwayServiceId (beforePoll trace) (heartbeatExitFailureThreshold env)

instance (env : Environment) (row : RailwayVisibilityRow) (lifecycle : HeartbeatExitLifecycleState)
    (trace : List Mark) : Decidable (RowCurrent env row lifecycle trace) :=
  decidable_of_iff (_ ∧ _ ∧ _) ⟨fun h => ⟨h.1, h.2.1, h.2.2⟩, fun h => ⟨h.1, h.2, h.3⟩⟩

/-- A tick may take up the row: if its exit redeploy is due, it is not for another deployment. -/
def RowAllowed (env : Environment) (row : RailwayVisibilityRow)
    (lifecycle : HeartbeatExitLifecycleState) (trace : List Mark) : Prop :=
  exitRedeployDue (.of env "") row lifecycle = true → RowCurrent env row lifecycle trace

instance (env : Environment) (row : RailwayVisibilityRow) (lifecycle : HeartbeatExitLifecycleState)
    (trace : List Mark) : Decidable (RowAllowed env row lifecycle trace) :=
  inferInstanceAs (Decidable (_ → _))

/-- Rows are taken up where they may, and a poll lists no service twice. -/
def CallAllowed (c : Choice) (w : World) : Call → Prop
  | .takeUp env row => RowAllowed env row w.lifecycle w.trace
  | .fetchRows => (c.rows.containers.map (·.railwayServiceId)).Nodup
  | _ => True

/-! ## The invariant -/

/-- The failures on record for `s` are a streak of the deployment on record, as far back as no row
was passed over. -/
def Counted (s : String) (lifecycle : HeartbeatExitLifecycleState) (trace : List Mark) : Prop :=
  ∀ d, (lifecycle.entry s).deployment = some d → ∀ n ≤ (lifecycle.entry s).fails,
    NonePassed s trace n → FailStreak s d trace n

/-- Inside a tick. `pending` says that a row of `s` that is not online has been taken up and not yet
dealt with, `seen` that a row of `s` was taken up since the poll. -/
structure StreakKept (s : String) (pending seen : Prop) (w : World) : Prop where
  justified : Everywhere (Justified s) w.trace
  counted : ¬ pending → Counted s w.lifecycle w.trace
  fresh : ¬ seen → Counted s w.lifecycle (beforePoll w.trace)

section

variable {s : String} {pending seen : Prop} {w w' : World} {t : Nat} {k : MarkKind}

/-- The record of `s` loses failures at most. -/
theorem Counted.of_le {lifecycle lifecycle' : HeartbeatExitLifecycleState} {trace : List Mark}
    (h : Counted s lifecycle trace)
    (hdep : (lifecycle'.entry s).deployment = (lifecycle.entry s).deployment)
    (hfails : (lifecycle'.entry s).fails ≤ (lifecycle.entry s).fails) :
    Counted s lifecycle' trace :=
  fun d hd n hn => h d (hdep ▸ hd) n (hn.trans hfails)

theorem counted_of_passed {lifecycle : HeartbeatExitLifecycleState} {trace : List Mark}
    (h : ∀ n, ¬ NonePassed s trace (n + 1)) : Counted s lifecycle trace := by
  intro d _ n _ hnone
  cases n with
  | zero => cases trace <;> trivial
  | succ n => exact absurd hnone (h n)

theorem StreakKept.stable : Stable (StreakKept s pending seen) := by
  intro w w' h hw
  have hl : w'.lifecycle = w.lifecycle := h.lifecycle
  refine ⟨?_, ?_, ?_⟩
  · rw [h.trace]; exact hw.justified
  · rw [h.trace, hl]; exact hw.counted
  · rw [h.trace, hl]; exact hw.fresh

/-- A mark that no streak counts, while the record of `s` loses failures at most. -/
theorem StreakKept.mark (h : StreakKept s pending seen w) (hk : k.Uncounted)
    (hjust : Justified s ⟨t, k⟩ w.trace) (htrace : w'.trace = ⟨t, k⟩ :: w.trace)
    (hdep : (w'.lifecycle.entry s).deployment = (w.lifecycle.entry s).deployment)
    (hfails : (w'.lifecycle.entry s).fails ≤ (w.lifecycle.entry s).fails) :
    StreakKept s pending seen w' := by
  refine ⟨?_, fun hp d hd n hn => ?_, fun hs => ?_⟩
  · rw [htrace]
    exact ⟨hjust, h.justified⟩
  · rw [htrace, failStreak_uncounted hk, nonePassed_uncounted hk]
    exact (h.counted hp).of_le hdep hfails d hd n hn
  · rw [htrace, beforePoll_uncounted hk]
    exact (h.fresh hs).of_le hdep hfails

/-- A mark that changes nothing. -/
theorem StreakKept.irrelevant (h : StreakKept s pending seen w) (hk : k.Uncounted)
    (hne : k ≠ .attempt .exitRedeploy s) : StreakKept s pending seen (w.after t [k]) :=
  h.mark hk (fun he => absurd he hne) rfl rfl (Nat.le_refl _)

theorem StreakKept.mono {seen' : Prop} (h : StreakKept s pending seen w) (hs : seen → seen') :
    StreakKept s pending seen' w :=
  ⟨h.justified, h.counted, fun hn => h.fresh fun hseen => hn (hs hseen)⟩

end

/-- The contract of a tick that runs alone. -/
def streakContract (s : String) : Server.Contract Call Unit World where
  token _ := ()
  inv _ := StreakKept s False True
  safe w := Everywhere (Justified s) w.trace

theorem ofTrace_streak (s : String) : OfTrace (streakContract s).safe := by
  intro w w' h hw
  change Everywhere _ w'.trace
  rw [h]
  exact hw

/-! ## The parts of a tick -/

/-- The server of the runs in which rows are taken up where they may. -/
noncomputable def justifiedServer (ι : Type) : Server Answer ι Choice World :=
  (server ι).alone.restrict fun _ => CallAllowed

theorem serves_justifiedServer {ι : Type} :
    Serves (justifiedServer ι) fun _ => CallAllowed :=
  serves_server.alone.restrict _

section Parts

variable {ι : Type} {i : ι} {s : String} {env : Environment} {now : String}
  {row : RailwayVisibilityRow} {totals : TickTotals} {seen : Prop} {m : Unit} {w : World}

/-- A row of `s` that is not online has been taken up. -/
def Pending (s : String) (row : RailwayVisibilityRow) : Prop :=
  row.railwayServiceId = s ∧ row.railwayOnlineStatus ≠ .online

/-- If the row is pending and will not be probed, it is passed over. -/
def PassedIfUnprobed (s : String) (env : Environment) (row : RailwayVisibilityRow) (w : World) :
    Prop :=
  Pending s row → row.probedAt env = none → ∀ n, ¬ NonePassed s w.trace (n + 1)

theorem PassedIfUnprobed.mark {w' : World} {t : Nat} {k : MarkKind}
    (h : PassedIfUnprobed s env row w) (hk : k.Uncounted) (htrace : w'.trace = ⟨t, k⟩ :: w.trace) :
    PassedIfUnprobed s env row w' := by
  intro hpend hnone n
  rw [htrace, nonePassed_uncounted hk]
  exact h hpend hnone n

/-- A tick has just taken up a row it may take up. -/
structure TakenUp (s : String) (env : Environment) (row : RailwayVisibilityRow) (seen : Prop)
    (w : World) : Prop extends StreakKept s (Pending s row) seen w where
  current : currentRow w.trace = some (env, row)
  allowed : RowAllowed env row w.lifecycle w.trace
  passed : PassedIfUnprobed s env row w

theorem TakenUp.stable : Stable (TakenUp s env row seen) := by
  intro w w' h hw
  have hl : w'.lifecycle = w.lifecycle := h.lifecycle
  refine ⟨StreakKept.stable w w' h hw.toStreakKept, ?_, ?_, ?_⟩
  · rw [h.trace]; exact hw.current
  · rw [hl, h.trace]; exact hw.allowed
  · unfold PassedIfUnprobed
    rw [h.trace]
    exact hw.passed

/-- A tick turns to a row. -/
theorem StreakKept.takeUp {t : Nat} (h : StreakKept s False seen w)
    (hallowed : RowAllowed env row w.lifecycle w.trace) :
    TakenUp s env row seen (w.after t [.row env row]) := by
  have hcurrent : RowAllowed env row w.lifecycle (⟨t, .row env row⟩ :: w.trace) := fun hdue =>
    have h := hallowed hdue
    ⟨h.deployment, h.enough, h.nonePassed⟩
  refine ⟨⟨⟨fun he => (nomatch he), h.justified⟩, fun hp d hd n hn hnone => ?_, h.fresh⟩, rfl,
    hcurrent, ?_⟩
  · have hold := h.counted not_false d hd n hn
    change FailStreak s d (⟨t, .row env row⟩ :: w.trace) n
    cases n with
    | zero => trivial
    | succ n =>
      refine ⟨fun hs => ?_, hold hnone.2⟩
      by_contra hoff
      exact hp ⟨hs, hoff⟩
  · intro hpend hunprobed n hnone
    have hprobed := hnone.1 hpend.1 hpend.2
    rw [hunprobed] at hprobed
    cases hprobed

/-- The exit redeploy of the row is justified by the failures on record. -/
theorem TakenUp.attempt {t : Nat} (h : TakenUp s env row seen w)
    (hnew : row.railwayServiceId = s → ¬ seen)
    (hdue : exitRedeployDue (.of env now) row w.lifecycle = true) :
    Justified s ⟨t, .attempt .exitRedeploy row.railwayServiceId⟩ w.trace := by
  intro he
  have hs : row.railwayServiceId = s := by injection he
  subst hs
  refine ⟨env, row, h.current, rfl, ?_⟩
  have hcurrent := h.allowed (exitRedeployDue_iff.2 (exitRedeployDue_iff.1 hdue))
  exact h.fresh (hnew rfl) _ hcurrent.deployment _ hcurrent.enough hcurrent.nonePassed

theorem ensures_exitRedeploy_streak {seen' : Prop} (hw : TakenUp s env row seen w)
    (hnew : row.railwayServiceId = s → ¬ seen) (hseen : seen → seen') :
    Ensures (justifiedServer ι) i (streakContract s) (exitRedeploy (.of env now) row totals)
      (fun _ _ w => (streakContract s).safe w ∧
        StreakKept s (Pending s row) seen' w ∧ PassedIfUnprobed s env row w) m w := by
  have hstable : Stable fun w => StreakKept s (Pending s row) seen' w ∧
      PassedIfUnprobed s env row w := by
    rintro w w' h ⟨hk, hpassed⟩
    refine ⟨StreakKept.stable w w' h hk, ?_⟩
    unfold PassedIfUnprobed
    rw [h.trace]
    exact hpassed
  refine ensures_exitRedeploy serves_justifiedServer (ofTrace_streak s) (fun _ => hstable)
    hw.toStreakKept.justified (fun _ => ⟨hw.toStreakKept.mono hseen, hw.passed⟩) fun hdue w₁ h₁ _ =>
      ?_
  refine .deploy_alone serves_justifiedServer (fun _ => rfl) fun t₁ t₂ err _ _ => ?_
  have hflag : (w₁.lifecycle.entry s).deployment = (w.lifecycle.entry s).deployment ∧
      (w₁.lifecycle.entry s).fails = (w.lifecycle.entry s).fails := by
    have hentry : w₁.lifecycle.entry s = _ :=
      (congrArg (·.entry s) h₁.lifecycle).trans (w.lifecycle.clearFlag_entry _ _)
    rw [hentry]
    split
    · rename_i hs
      rw [hs]
      exact ⟨rfl, rfl⟩
    · exact ⟨rfl, rfl⟩
  have hsent : StreakKept s (Pending s row) seen'
      (w₁.after t₁ [.attempt .exitRedeploy row.railwayServiceId]) :=
    (hw.toStreakKept.mono hseen).mark (t := t₁) (k := .attempt .exitRedeploy row.railwayServiceId)
      trivial (hw.attempt hnew hdue) (congrArg _ h₁.trace) hflag.1 hflag.2.le
  have hanswered : StreakKept s (Pending s row) seen' ((w₁.after t₁ [.attempt .exitRedeploy
      row.railwayServiceId]).after t₂ [.outcome .exitRedeploy row.railwayServiceId err.isNone]) :=
    hsent.irrelevant trivial (fun h => nomatch h)
  refine ⟨hsent.justified, hanswered.justified, hanswered.justified, fun w₃ h₃ => ?_⟩
  have hend : (w₃.lifecycle.entry s).deployment = (w.lifecycle.entry s).deployment ∧
      (w₃.lifecycle.entry s).fails ≤ (w.lifecycle.entry s).fails := by
    rw [entry_answered h₁ h₃ s]
    split
    · refine ⟨rfl, ?_⟩
      change (if err.isNone then 0 else (w.lifecycle.entry s).fails) ≤ _
      split
      · exact Nat.zero_le _
      · exact Nat.le_refl _
    · exact ⟨rfl, Nat.le_refl _⟩
  refine ⟨hsent.mark (t := t₂) (k := .outcome .exitRedeploy row.railwayServiceId err.isNone) trivial
    (fun h => nomatch h) h₃.trace (hend.1.trans hflag.1.symm) (hend.2.trans hflag.2.ge), ?_⟩
  have hpassed : PassedIfUnprobed s env row
      (w₁.after t₁ [.attempt .exitRedeploy row.railwayServiceId]) :=
    hw.passed.mark (t := t₁) (k := .attempt .exitRedeploy row.railwayServiceId) trivial
      (congrArg _ h₁.trace)
  exact hpassed.mark (t := t₂) (k := .outcome .exitRedeploy row.railwayServiceId err.isNone)
    trivial h₃.trace

/-- A probe goes into the lifecycle. -/
theorem probed_streak (ok : Bool) (hw : StreakKept s (Pending s row) seen w)
    (hseen : ¬ seen → row.railwayServiceId ≠ s) :
    Probed (streakContract s) (.of env now) row ok (fun _ => StreakKept s False seen) m w := by
  intro t _
  have hkept : StreakKept s False seen (afterProbe (.of env now) row ok t w) := by
    refine ⟨⟨fun he => (nomatch he), hw.justified⟩, fun _ d hd n hn hnone => ?_, fun hs => ?_⟩
    · change NonePassed s (⟨t, .probe (probeMark (.of env now) row w.lifecycle ok)⟩ :: w.trace)
        n at hnone
      change FailStreak s d (⟨t, .probe (probeMark (.of env now) row w.lifecycle ok)⟩ :: w.trace) n
      rw [afterProbe_entry] at hd hn
      by_cases hs : s = row.railwayServiceId
      · subst hs
        rw [if_pos rfl] at hd hn
        rw [ServiceLifecycle.probed_deployment] at hd
        obtain rfl := Option.some.inj hd
        rw [ServiceLifecycle.probed_fails] at hn
        cases n with
        | zero => trivial
        | succ n =>
          split at hn
          · rename_i hfailed
            refine (if_pos rfl).mpr ⟨⟨rfl, hfailed.1, hfailed.2⟩, ?_⟩
            have hbefore : NonePassed row.railwayServiceId w.trace n := (if_pos rfl).mp hnone
            by_cases hzero : ((w.lifecycle.entry row.railwayServiceId).sync row.depId).fails = 0
            · rw [hzero] at hn
              obtain rfl : n = 0 := by omega
              cases w.trace <;> trivial
            · obtain ⟨hdep, hsame⟩ := ServiceLifecycle.sync_fails _ _ hzero
              rw [hsame] at hn
              exact hw.counted (fun hp => hp.2 hfailed.1) _ hdep n (Nat.le_of_succ_le_succ hn)
                hbefore
          · omega
      · rw [if_neg hs] at hd hn
        have hne : (probeMark (.of env now) row w.lifecycle ok).serviceId ≠ s := Ne.symm hs
        rw [failStreak_probe_ne hne]
        rw [nonePassed_probe_ne hne] at hnone
        exact hw.counted (fun hp => hs hp.1.symm) d hd n hn hnone
    · have hother :
          (afterProbe (.of env now) row ok t w).lifecycle.entry s = w.lifecycle.entry s := by
        rw [afterProbe_entry, if_neg (Ne.symm (hseen hs))]
      exact (hw.fresh hs).of_le (congrArg _ hother) (congrArg _ hother).le
  exact ⟨hkept.justified, hkept⟩

/-- A deploy for another reason. -/
theorem ensures_otherDeploy_streak {site : DeploySite} {pending : Prop} {environmentId : String}
    {post : Option String → Unit → World → Prop} (hsite : site ≠ .exitRedeploy)
    (hw : StreakKept s pending seen w)
    (hpost : ∀ err m w', StreakKept s pending seen w' → post err m w') :
    Ensures (justifiedServer ι) i (streakContract s)
      (railwayServiceInstanceDeployLatest site environmentId row.railwayServiceId)
      (fun err m w => (streakContract s).safe w ∧ post err m w) m w := by
  refine .deploy_alone serves_justifiedServer (fun _ => rfl) fun t₁ t₂ err _ _ => ?_
  have hsent : StreakKept s pending seen (w.after t₁ [.attempt site row.railwayServiceId]) :=
    hw.irrelevant trivial fun h => hsite (by injection h)
  have hanswered :
      StreakKept s pending seen ((w.after t₁ [.attempt site row.railwayServiceId]).after
      t₂ [.outcome site row.railwayServiceId err.isNone]) :=
    hsent.irrelevant trivial fun h => nomatch h
  exact ⟨hsent.justified, hanswered.justified, hanswered.justified, hpost err _ _ hanswered⟩

theorem ensures_heartbeat_streak (hw : StreakKept s (Pending s row) seen w)
    (hpassed : PassedIfUnprobed s env row w) (hseen : ¬ seen → row.railwayServiceId ≠ s) :
    Ensures (justifiedServer ι) i (streakContract s) (heartbeat (.of env now) row totals)
      (fun _ _ w => (streakContract s).safe w ∧ StreakKept s False seen w) m w := by
  refine ensures_heartbeat serves_justifiedServer (ofTrace_streak s) (fun _ => StreakKept.stable)
    hw.justified (fun hnone => ⟨hw.justified, fun _ => ?_, hw.fresh⟩) fun probeUrl _ w₁ h₁ _ => ?_
  · by_cases hpend : Pending s row
    · exact counted_of_passed (hpassed hpend hnone)
    · exact hw.counted hpend
  refine .sync serves_justifiedServer rfl fun c hc _ => ?_
  have hw₂ : StreakKept s (Pending s row) seen (serve c w₁ (.ping probeUrl)).2 :=
    StreakKept.stable w₁ _ ⟨rfl, rfl, rfl, hc⟩ (StreakKept.stable w w₁ h₁ hw)
  refine ⟨hw₂.justified, hw₂.justified, probed_streak _ hw₂ hseen, fun _ w₃ h₃ _ => ?_⟩
  exact ensures_otherDeploy_streak (fun h => nomatch h) (StreakKept.stable _ w₃ h₃ hw₂)
    fun err _ w₄ h₄ => probed_streak _ h₄ hseen

theorem ensures_forgetCooldown_streak (hw : StreakKept s False seen w) :
    Ensures (justifiedServer ι) i (streakContract s) (forgetCooldown row)
      (fun _ _ w => (streakContract s).safe w ∧ StreakKept s False seen w) m w := by
  refine ensures_forgetCooldown serves_justifiedServer hw.justified (fun _ => hw) fun _ t _ => ?_
  have h : StreakKept s False seen (afterHealthy row t w) :=
    hw.mark (t := t) (k := .healthy row.railwayServiceId) trivial (fun h => nomatch h) rfl rfl
      (Nat.le_refl _)
  exact ⟨h.justified, h⟩

theorem ensures_autoRecover_streak (hw : StreakKept s False seen w) :
    Ensures (justifiedServer ι) i (streakContract s) (autoRecover (.of env now) row totals)
      (fun _ _ w => (streakContract s).safe w ∧ StreakKept s False seen w) m w := by
  refine ensures_autoRecover serves_justifiedServer (ofTrace_streak s) (fun _ => StreakKept.stable)
    hw.justified hw fun _ _ w₁ h₁ _ _ => ?_
  refine ensures_otherDeploy_streak (fun h => nomatch h) (StreakKept.stable w w₁ h₁ hw)
    fun err _ w₂ h₂ => ?_
  cases err with
  | some msg => exact h₂
  | none =>
    intro started _ w₃ h₃ _
    have hl : w₃.lifecycle = w₂.lifecycle := h₃.lifecycle
    refine ⟨?_, ?_, ?_⟩
    · rw [h₃.trace]; exact h₂.justified
    · rw [h₃.trace, hl]; exact h₂.counted
    · rw [h₃.trace, hl]; exact h₂.fresh

/-- **One row**, the first of its service in this tick. -/
theorem ensures_row_streak {seen' : Prop} (hnew : row.railwayServiceId = s → ¬ seen)
    (hseen : seen → seen') (hseen' : ¬ seen' → row.railwayServiceId ≠ s)
    (hw : StreakKept s False seen w) :
    Ensures (justifiedServer ι) i (streakContract s) (processRow (.of env now) row totals)
      (fun _ _ w => (streakContract s).safe w ∧ StreakKept s False seen' w) m w := by
  refine ensures_processRow serves_justifiedServer (ofTrace_streak s)
    (fun _ => TakenUp s env row seen)
    (fun _ w => StreakKept s (Pending s row) seen' w ∧ PassedIfUnprobed s env row w)
    (fun _ => StreakKept s False seen') (fun _ => StreakKept s False seen')
    (fun _ => StreakKept.stable) (fun _ => TakenUp.stable) ?takeUp
    (fun m w _ h => ensures_exitRedeploy_streak h hnew hseen)
    (fun totals m w _ h => ensures_heartbeat_streak h.1 h.2 hseen')
    (fun m w _ h => ensures_forgetCooldown_streak h)
    (fun totals m w _ h => ensures_autoRecover_streak h)
  intro c _ hallowed
  have h : TakenUp s env row seen (w.after c.now [.row env row]) := hw.takeUp hallowed
  exact ⟨h.toStreakKept.justified, h⟩

/-- One tick. -/
theorem ensures_tick_streak (hw : StreakKept s False True w) :
    Ensures (justifiedServer ι) i (streakContract s) (runRailwayWatchdogTick env)
      (fun _ => (streakContract s).inv) m w := by
  let seenIn (done : List RailwayVisibilityRow) : Prop := s ∈ done.map (·.railwayServiceId)
  refine ensures_runRailwayWatchdogTick serves_justifiedServer (ofTrace_streak s)
    (fun rows done _ w => (rows.map (·.railwayServiceId)).Nodup ∧
      StreakKept s False (seenIn done) w)
    ?stable (fun _ => StreakKept.stable) hw.justified ?fetch ?row
    fun _ _ _ h => h.2.mono fun _ => trivial
  case stable =>
    intro rows done m w w' h hk
    exact ⟨hk.1, StreakKept.stable w w' h hk.2⟩
  case fetch =>
    intro w₁ h₁ _
    have hw₁ : StreakKept s False True w₁ := StreakKept.stable w w₁ h₁ hw
    refine .sync serves_justifiedServer rfl fun c _ hnodup => ?_
    have hcounted : Counted s w₁.lifecycle (⟨c.now, .fetched c.rows⟩ :: w₁.trace) := by
      intro d hd n hn hnone
      have hold := hw₁.counted not_false d hd n hn
      cases n with
      | zero => trivial
      | succ n => exact hold hnone
    have hfetched : StreakKept s False False (serve c w₁ .fetchRows).2 :=
      ⟨⟨fun he => (nomatch he), hw₁.justified⟩, fun _ => hcounted, fun _ => hw₁.counted not_false⟩
    exact ⟨hfetched.justified, hfetched.justified, fun _ => hfetched.mono False.elim,
      fun _ => ⟨hnodup, hfetched.mono False.elim⟩⟩
  case row =>
    rintro now rows done row rest hrows totals m w _ ⟨hnodup, hk⟩
    have hnew : row.railwayServiceId ∉ done.map (·.railwayServiceId) := by
      rw [hrows, List.map_append, List.map_cons, List.nodup_append] at hnodup
      intro hmem
      exact hnodup.2.2 _ hmem _ List.mem_cons_self rfl
    have hseen : seenIn done → seenIn (done ++ [row]) := by
      intro hmem
      simp only [seenIn, List.map_append, List.mem_append] at hmem ⊢
      exact .inl hmem
    refine (ensures_row_streak (fun hs hmem => hnew (hs ▸ hmem)) hseen
      (fun hn hs => hn (by simp [seenIn, hs])) hk).mono fun _ _ _ h => ⟨h.1, hnodup, h.2⟩

end Parts

/-! ## Runs -/

instance (c : Choice) (w : World) (q : Call) : Decidable (CallAllowed c w q) := by
  cases q <;> unfold CallAllowed <;> infer_instance

/-- The next step is allowed. -/
def StepAllowed {ι : Type} (p : Pool Answer ι World WatchdogPayload) (i : ι) (c : Choice) : Prop :=
  ∀ q ∈ (p.procs i).next?, CallAllowed c p.world q

instance {ι : Type} (p : Pool Answer ι World WatchdogPayload) (i : ι) (c : Choice) :
    Decidable (StepAllowed p i c) :=
  inferInstanceAs (Decidable (∀ q ∈ (p.procs i).next?, CallAllowed c p.world q))

theorem streakKept_start (s : String) : StreakKept s False True .start where
  justified := trivial
  counted _ _ hd := by simp at hd
  fresh h := absurd trivial h

/-- **Redeploys are justified** where the flag is not stale: in ticks that run one after the other
from the empty state and take up rows where they may, every exit redeploy is sent for a deployment
whose last `heartbeatExitFailureThreshold` probes before the tick failed while it was online, with
no row of the service that was not online since the first of them. -/
theorem redeploys_justified {ι : Type} [DecidableEq ι] [Fintype ι] (env : ι → Environment)
    {p : Pool Answer ι World WatchdogPayload}
    (h : Pool.Steps (server ι).alone StepAllowed (ticks env .start) p) (s : String) :
    Everywhere (Justified s) p.world.trace := by
  have hrun : Pool.Steps (justifiedServer ι) StepAllowed (ticks env .start) p :=
    h.restrict fun p i c q k hP hq => hP q (by rw [hq]; rfl)
  exact (ticks_kept (K := streakContract s) serves_justifiedServer (streakKept_start s)
    (fun _ _ h => h.justified) (fun _ _ _ hw => ensures_tick_streak hw) hrun).safe

/-- Two failed probes, and the redeploy of the deployment that failed. -/
theorem redeploys_justified_sample : ∃ p : Pool Answer (Fin 3) World WatchdogPayload,
    p.world.trace.any (·.attempts .exitRedeploy "svc") = true ∧
      Everywhere (Justified "svc") p.world.trace := by
  let c := sampleChoice 10 [sampleRow "SUCCESS" "d1"] false none
  obtain ⟨p, hrun, hattempt⟩ := Pool.Steps.exists_of_runIf (S := (server (Fin 3)).alone)
    (P := StepAllowed) (p := ticks (fun _ => sampleEnv) .start)
    (l := stretch 24 0 c ++ stretch 23 1 c ++ stretch 34 2 c)
    (J := fun p => p.world.trace.any (·.attempts .exitRedeploy "svc")) (by decide +kernel)
  exact ⟨p, hattempt, redeploys_justified _ hrun "svc"⟩

/-- In all ticks that run one after the other from the empty state, exit redeploys are justified. -/
def RedeploysJustified : Prop :=
  ∀ (ι : Type) [DecidableEq ι] [Fintype ι] (env : ι → Environment)
    (p : Pool Answer ι World WatchdogPayload) (s : String),
    Pool.Steps (server ι).alone (fun _ _ _ => True) (ticks env .start) p →
    Everywhere (Justified s) p.world.trace

/-- The last step sent an exit redeploy of `s` at a row with deployment `d`, which was never
probed. -/
def redeploysUnprobed (s d : String) : List Mark → Bool
  | [] => false
  | mark :: before => mark.attempts .exitRedeploy s &&
      decide ((currentRow before).map (·.2.depId) = some d) && !before.any (·.probes s d)

/-- **The flag outlives its deployment**: two probes of `d1` fail, the next tick finds the healthy
deployment `d2`, and redeploys it before any probe of it. -/
theorem redeploys_not_justified : ¬ RedeploysJustified := by
  intro h
  let c := sampleChoice 10 [sampleRow "SUCCESS" "d1"] false none
  let c' := sampleChoice 20 [sampleRow "SUCCESS" "d2"] true none
  obtain ⟨p, hrun, hlast⟩ := Pool.Steps.exists_of_runIf (S := (server (Fin 3)).alone)
    (P := fun _ _ _ => True) (p := ticks (fun _ => sampleEnv) .start)
    (l := stretch 24 0 c ++ stretch 23 1 c ++ stretch 12 2 c')
    (J := fun p => redeploysUnprobed "svc" "d2" p.world.trace) (by decide +kernel)
  have hall := h _ _ p "svc" hrun
  generalize p.world.trace = trace at hlast hall
  cases trace with
  | nil => cases hlast
  | cons mark before =>
    simp only [redeploysUnprobed, Bool.and_eq_true, decide_eq_true_eq, Bool.not_eq_true',
      List.any_eq_false] at hlast
    obtain ⟨⟨hattempt, hdep⟩, hnone⟩ := hlast
    obtain ⟨env, row, hcur, -, hstreak⟩ := hall.1 (Mark.attempts_iff.1 hattempt)
    rw [hcur] at hdep
    have hd2 : row.depId = "d2" := Option.some.inj hdep
    rw [hd2] at hstreak
    obtain ⟨m, hm, hprobe⟩ := hstreak.exists_probe (heartbeatExitFailureThreshold_pos env)
    exact hnone m (beforePoll_subset hm) hprobe

end PeHackathon.Watchdog
