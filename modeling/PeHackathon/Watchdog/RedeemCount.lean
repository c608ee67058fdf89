import PeHackathon.Watchdog.Rules
import PeHackathon.Watchdog.Trace

/-!
# How often a service is redeployed

Any number of ticks share one state, and interleave wherever one waits. A scheduled redeem is one of
three things at any time: still the flag, an exit redeploy that waits for its answer, or at most one
successful redeploy. A tick holds a token while it waits for an exit redeploy of the service.
-/

namespace PeHackathon.Watchdog

open Lib

/-- The mark schedules the redeem flag of `sid`. -/
def Mark.schedules (mark : Mark) (sid : String) : Bool :=
  match mark.kind with
  | .probe p => p.serviceId = sid ∧ p.schedules
  | _ => false

/-- The mark is a successful exit redeploy of `sid`. -/
def Mark.redeploys (mark : Mark) (sid : String) : Bool :=
  match mark.kind with
  | .outcome .exitRedeploy sid' ok => sid' = sid ∧ ok
  | _ => false

def timesScheduled (sid : String) (trace : List Mark) : Nat := trace.countP (·.schedules sid)

def timesRedeployed (sid : String) (trace : List Mark) : Nat := trace.countP (·.redeploys sid)

section

variable {ι : Type} (sid : String)

/-- One while the tick waits for an exit redeploy of the service. -/
def redeemToken : Call → Nat
  | .awaitDeploy .exitRedeploy sid' => if sid' = sid then 1 else 0
  | _ => 0

/-- Redeploys, exit redeploys under way, and the flag, are covered by what was scheduled. -/
def Covered (underWay : Nat) (w : World) : Prop :=
  timesRedeployed sid w.trace + underWay + (w.lifecycle.entry sid).redeem.toNat ≤
    timesScheduled sid w.trace

/-- The contract of ticks that interleave. -/
def redeemContract : Server.Contract Call Nat World where
  token := redeemToken sid
  inv := Covered sid
  safe w := timesRedeployed sid w.trace ≤ timesScheduled sid w.trace

@[simp] theorem redeemContract_token (q : Call) :
    (redeemContract sid).token q = redeemToken sid q := rfl

@[simp] theorem redeemContract_inv (m : Nat) (w : World) :
    (redeemContract sid).inv m w ↔ Covered sid m w := Iff.rfl

theorem redeemToken_exit : redeemToken sid (.awaitDeploy .exitRedeploy sid) = 1 := if_pos rfl

theorem ofTrace_redeem : OfTrace (redeemContract sid).safe := by
  intro w w' h hs
  simp only [redeemContract, h]
  exact hs

variable {sid} {i : ι} {env : Environment} {now : String} {row : RailwayVisibilityRow}
  {totals : TickTotals} {m : Nat} {w w' : World}

theorem Covered.safe (h : Covered sid m w) : (redeemContract sid).safe w := by
  unfold Covered at h
  change timesRedeployed sid w.trace ≤ _
  omega

theorem stable_covered (m : Nat) : Stable (Covered sid m) := by
  intro w w' h hc
  unfold Covered
  rw [h.trace, h.lifecycle]
  exact hc

theorem covered_start : Covered sid 0 .start := by
  unfold Covered
  rw [World.start_lifecycle, HeartbeatExitLifecycleState.create_entry]
  exact Nat.le_refl 0

/-- A mark that neither schedules nor redeploys. -/
theorem Covered.after {t : Nat} {k : MarkKind} (h : Covered sid m w)
    (hs : (⟨t, k⟩ : Mark).schedules sid = false) (hr : (⟨t, k⟩ : Mark).redeploys sid = false) :
    Covered sid m (w.after t [k]) := by
  simpa [Covered, World.after, timesRedeployed, timesScheduled, World.lifecycle, hs, hr] using h

theorem timesRedeployed_outcome (t : Nat) (ok : Bool) (w : World) :
    timesRedeployed sid (w.after t [.outcome .exitRedeploy sid ok]).trace =
      timesRedeployed sid w.trace + ok.toNat := by
  cases ok <;> simp [timesRedeployed, World.after, Mark.redeploys]

theorem timesScheduled_outcome (t : Nat) (ok : Bool) (w : World) :
    timesScheduled sid (w.after t [.outcome .exitRedeploy sid ok]).trace =
      timesScheduled sid w.trace := by
  simp [timesScheduled, World.after, Mark.schedules]

/-- A deploy that is not an exit redeploy of the service. -/
theorem ensures_deploy_uncounted {site : DeploySite} {environmentId sid' : String}
    {post : Option String → Nat → World → Prop} (hother : site = .exitRedeploy → sid' ≠ sid)
    (hw : Covered sid m w) (hpost : ∀ err m₁ w₁, Covered sid m₁ w₁ → post err m₁ w₁) :
    Ensures (server ι) i (redeemContract sid)
      (railwayServiceInstanceDeployLatest site environmentId sid')
      (fun err m₁ w₁ => (redeemContract sid).safe w₁ ∧ post err m₁ w₁) m w := by
  have htoken : redeemToken sid (.awaitDeploy site sid') = 0 := by
    cases site with
    | exitRedeploy => exact if_neg (hother rfl)
    | _ => rfl
  refine .deploy serves_server fun c _ _ => ?_
  have hsent : Covered sid m (w.after c.now [.attempt site sid']) := hw.after rfl rfl
  refine ⟨hsent.safe, .wait serves_server rfl ?_ fun m₁ w₁ h₁ c' _ _ => ?_⟩
  · rw [redeemContract_token, htoken]
    exact hsent
  · rw [redeemContract_token, htoken] at h₁
    have hanswered :
        Covered sid m₁ (w₁.after c'.now [.outcome site sid' c'.deployError.isNone]) := by
      refine h₁.after rfl ?_
      cases site with
      | exitRedeploy => simp [Mark.redeploys, hother rfl]
      | _ => rfl
    exact ⟨hanswered.safe, hanswered.safe, hpost _ _ _ hanswered⟩

/-- The answer to an exit redeploy turns the token into a redeploy, or back into the flag. -/
theorem covered_answer {e : Option String} {t : Nat} (h : Covered sid (m + 1) w) :
    (redeemContract sid).safe (w.after t [.outcome .exitRedeploy sid e.isNone]) ∧
      ∀ w', Edit (match e with
          | none => (clearExitLifecycleForService · sid)
          | some _ => (requeueExitLifecycleRedeem · sid)) id
          (w.after t [.outcome .exitRedeploy sid e.isNone]) w' → Covered sid m w' := by
  unfold Covered at h
  constructor
  · change timesRedeployed sid _ ≤ timesScheduled sid _
    rw [timesRedeployed_outcome, timesScheduled_outcome]
    have := Bool.toNat_le e.isNone
    omega
  · intro w' h'
    unfold Covered
    rw [h'.trace, h'.lifecycle, timesRedeployed_outcome, timesScheduled_outcome]
    cases e with
    | none =>
      simp only [HeartbeatExitLifecycleState.clear_entry, if_pos, Bool.toNat_false,
        Option.isNone_none, Bool.toNat_true]
      omega
    | some msg =>
      simp only [HeartbeatExitLifecycleState.requeue_entry, if_pos, Bool.toNat_true,
        Option.isNone_some, Bool.toNat_false]
      omega

/-- **The exit redeploy** of a row: its flag becomes a token, and the token a redeploy or the
flag. -/
theorem ensures_exitRedeploy_covered (hw : Covered sid m w) :
    Ensures (server ι) i (redeemContract sid) (exitRedeploy (.of env now) row totals)
      (fun _ m w => (redeemContract sid).safe w ∧ Covered sid m w) m w := by
  refine ensures_exitRedeploy serves_server (ofTrace_redeem sid) stable_covered hw.safe
    (fun _ => hw) fun hdue w₁ h₁ _ => ?_
  have hentry : w₁.lifecycle.entry sid = _ :=
    (congrArg (·.entry sid) h₁.lifecycle).trans (w.lifecycle.clearFlag_entry _ _)
  by_cases hsid : row.railwayServiceId = sid
  · subst hsid
    have hredeem := (exitRedeployDue_iff.1 hdue).2.2.2.1
    rw [if_pos rfl] at hentry
    refine .deploy serves_server fun c _ _ => ?_
    -- the flag is down and the token is held
    have hheld : Covered row.railwayServiceId (m + 1)
        (w₁.after c.now [.attempt .exitRedeploy row.railwayServiceId]) := by
      refine Covered.after ?_ rfl rfl
      unfold Covered at hw ⊢
      rw [h₁.trace, hentry]
      simp only [hredeem, Bool.toNat_true, Bool.toNat_false] at hw ⊢
      omega
    refine ⟨(Covered.safe hheld), .wait serves_server rfl ?_ fun m₂ w₂ h₂ c' _ _ => ?_⟩
    · rw [redeemContract_token, redeemToken_exit]
      exact hheld
    · rw [redeemContract_token, redeemToken_exit] at h₂
      have hans := covered_answer (e := c'.deployError) (t := c'.now) h₂
      exact ⟨hans.1, hans⟩
  · rw [if_neg (Ne.symm hsid)] at hentry
    have hw₁ : Covered sid m w₁ := by
      unfold Covered at hw ⊢
      rw [h₁.trace, hentry]
      exact hw
    refine ensures_deploy_uncounted (fun _ => hsid) hw₁ fun err m₂ w₂ hw₂ w₃ h₃ => ?_
    have hentry₃ : w₃.lifecycle.entry sid = w₂.lifecycle.entry sid := by
      rw [h₃.lifecycle]
      cases err with
      | none => exact (w₂.lifecycle.clear_entry _ _).trans (if_neg (Ne.symm hsid))
      | some msg => exact (w₂.lifecycle.requeue_entry _ _).trans (if_neg (Ne.symm hsid))
    unfold Covered at hw₂ ⊢
    rw [h₃.trace, hentry₃]
    exact hw₂

theorem timesRedeployed_probe (t : TickLocals) (ok : Bool) (now : Nat) :
    timesRedeployed sid (afterProbe t row ok now w).trace = timesRedeployed sid w.trace := by
  simp [timesRedeployed, afterProbe, World.after, World.setState, Mark.redeploys]

theorem timesScheduled_probe (t : TickLocals) (ok : Bool) (now : Nat) :
    timesScheduled sid (afterProbe t row ok now w).trace = timesScheduled sid w.trace +
      (if row.railwayServiceId = sid then (probeMark t row w.lifecycle ok).schedules.toNat
        else 0) := by
  have hsid : (probeMark t row w.lifecycle ok).serviceId = row.railwayServiceId := rfl
  by_cases h : row.railwayServiceId = sid
  · cases hs : (probeMark t row w.lifecycle ok).schedules <;>
      simp [timesScheduled, afterProbe, World.after, World.setState, Mark.schedules, hsid, h, hs]
  · simp [timesScheduled, afterProbe, World.after, World.setState, Mark.schedules, hsid, h]

/-- A probe schedules the flag, or leaves it down. -/
theorem probed_covered (ok : Bool) (h : Covered sid m w) :
    Probed (redeemContract sid) (.of env now) row ok (Covered sid) m w := by
  intro t _
  have hcov : Covered sid m (afterProbe (.of env now) row ok t w) := by
    unfold Covered at h ⊢
    rw [afterProbe_entry, timesRedeployed_probe, timesScheduled_probe]
    by_cases hsid : sid = row.railwayServiceId
    · subst hsid
      simp only [if_pos]
      have hflag :
          ((w.lifecycle.entry row.railwayServiceId).probed row.depId (TickLocals.of env now).env
          row.railwayOnlineStatus ok).redeem.toNat ≤
          (w.lifecycle.entry row.railwayServiceId).redeem.toNat +
            (probeMark (.of env now) row w.lifecycle ok).schedules.toNat := by
        cases hup : ((w.lifecycle.entry row.railwayServiceId).probed row.depId
          (TickLocals.of env now).env row.railwayOnlineStatus ok).redeem with
        | false => exact Nat.zero_le _
        | true =>
          rcases ServiceLifecycle.probed_redeem _ _ hup with hr | hs
          · simp [hr]
          · rw [← probeMark_becomesExited] at hs
            have : (probeMark (.of env now) row w.lifecycle ok).schedules = true := hs
            simp [this]
      omega
    · rw [if_neg hsid, if_neg (Ne.symm hsid)]
      exact h
  exact ⟨hcov.safe, hcov⟩

theorem ensures_heartbeat_covered (hw : Covered sid m w) :
    Ensures (server ι) i (redeemContract sid) (heartbeat (.of env now) row totals)
      (fun _ m w => (redeemContract sid).safe w ∧ Covered sid m w) m w := by
  refine ensures_heartbeat serves_server (ofTrace_redeem sid) stable_covered hw.safe (fun _ => hw)
    fun probeUrl _ w₁ h₁ _ => ?_
  have hw₁ : Covered sid m w₁ := stable_covered m _ _ h₁ hw
  refine .wait serves_server rfl hw₁ fun m₂ w₂ h₂ c hc _ => ?_
  have hw₃ : Covered sid m₂ (serve c w₂ (.ping probeUrl)).2 := h₂
  refine ⟨hw₃.safe, hw₃.safe, probed_covered _ hw₃, fun _ w₄ h₄ _ => ?_⟩
  exact ensures_deploy_uncounted (fun h => nomatch h) (stable_covered _ _ _ h₄ hw₃)
    fun _ m₅ w₅ h₅ => probed_covered _ h₅

/-- A row keeps the count. -/
theorem ensures_row_covered (hw : Covered sid m w) :
    Ensures (server ι) i (redeemContract sid) (processRow (.of env now) row totals)
      (fun _ m w => (redeemContract sid).safe w ∧ Covered sid m w) m w := by
  have hK := ofTrace_redeem sid
  refine ensures_processRow serves_server hK (Covered sid) (Covered sid) (Covered sid) (Covered sid)
    stable_covered stable_covered ?takeUp
    (fun m w _ h => ensures_exitRedeploy_covered h)
    (fun totals m w _ h => ensures_heartbeat_covered h) ?forget ?auto
  case takeUp =>
    intro c _ _
    have h : Covered sid m (w.after c.now [.row env row]) := hw.after rfl rfl
    exact ⟨h.safe, h⟩
  case forget =>
    intro m w hsafe h
    refine ensures_forgetCooldown serves_server hsafe (fun _ => h) fun _ t _ => ?_
    have h' : Covered sid m (afterHealthy row t w) :=
      Covered.after (t := t) (k := .healthy row.railwayServiceId) h rfl rfl
    exact ⟨h'.safe, h'⟩
  case auto =>
    intro totals m w hsafe h
    refine ensures_autoRecover serves_server hK stable_covered hsafe h fun _ _ w₁ h₁ _ _ => ?_
    refine ensures_deploy_uncounted (fun h => nomatch h) (stable_covered _ _ _ h₁ h)
      fun err m₂ w₂ h₂ => ?_
    cases err with
    | some msg => exact h₂
    | none =>
      intro t _ w₃ h₃ _
      unfold Covered at h₂ ⊢
      rw [h₃.trace, h₃.lifecycle]
      exact h₂

theorem ensures_tick_covered (hw : Covered sid m w) :
    Ensures (server ι) i (redeemContract sid) (runRailwayWatchdogTick env)
      (fun _ => (redeemContract sid).inv) m w := by
  refine ensures_runRailwayWatchdogTick serves_server (ofTrace_redeem sid)
    (fun _ _ => Covered sid) (fun _ _ => stable_covered) stable_covered hw.safe ?_
    (fun now rows done row rest _ totals m w _ h => ensures_row_covered h) fun _ _ _ h => h
  intro w₁ h₁ _
  refine .wait serves_server rfl (stable_covered m _ _ h₁ hw) fun m₂ w₂ h₂ c hc _ => ?_
  have h₃ : Covered sid m₂ (serve c w₂ .fetchRows).2 :=
    Covered.after (t := c.now) (k := .fetched c.rows) h₂ rfl rfl
  exact ⟨h₃.safe, h₃.safe, fun _ => h₃, fun _ => h₃⟩

end

/-- **Exit redeploys do not multiply**: in every interleaving of ticks that share one state, empty
at first, a service has never had more successful exit redeploys than its redeem flag was
scheduled. -/
theorem exit_redeploys_le_scheduled {ι : Type} [DecidableEq ι] [Fintype ι] (env : ι → Environment)
    {p : Pool Answer ι World WatchdogPayload}
    (h : Pool.Steps (server ι) (fun _ _ _ => True) (ticks env .start) p) (sid : String) :
    timesRedeployed sid p.world.trace ≤ timesScheduled sid p.world.trace :=
  (ticks_kept (K := redeemContract sid) serves_server covered_start (fun _ _ => Covered.safe)
    (fun _ _ _ hw => ensures_tick_covered hw) h).safe

/-- Two ticks schedule a redeem; the third sends it, and a fourth runs while it waits. -/
theorem exit_redeploys_le_scheduled_sample : ∃ p : Pool Answer (Fin 4) World WatchdogPayload,
    timesScheduled "svc" p.world.trace = 1 ∧ timesRedeployed "svc" p.world.trace = 1 ∧
      timesRedeployed "svc" p.world.trace ≤ timesScheduled "svc" p.world.trace := by
  let c := sampleChoice 10 [sampleRow "SUCCESS" "d1"] false none
  obtain ⟨p, hrun, hcounts⟩ := Pool.Steps.exists_of_runIf (S := server (Fin 4))
    (P := fun _ _ _ => True) (p := ticks (fun _ => sampleEnv) .start)
    (l := stretch 24 0 c ++ stretch 23 1 c ++ stretch 12 2 c ++ stretch 23 3 c ++ stretch 22 2 c)
    (J := fun p => timesScheduled "svc" p.world.trace = 1 ∧ timesRedeployed "svc" p.world.trace = 1)
    (by decide +kernel)
  obtain ⟨hs, hr⟩ := of_decide_eq_true hcounts
  exact ⟨p, hs, hr, exit_redeploys_le_scheduled _ hrun "svc"⟩

end PeHackathon.Watchdog
