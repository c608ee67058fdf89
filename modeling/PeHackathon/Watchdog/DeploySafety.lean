import PeHackathon.Watchdog.Rules
import PeHackathon.Watchdog.Trace

/-!
# Which rows are redeployed

In ticks that run one after the other, from any state, every `serviceInstanceDeploy` is the only one
of its row, and the row is one that Railway says is up or has failed. A service that was stopped or
removed on purpose is left alone.
-/

namespace PeHackathon.Watchdog

open Lib Js

/-- The statuses a row may be redeployed in. -/
def isDeployable (row : RailwayVisibilityRow) : Bool :=
  toUpperCase (trim (row.deploymentStatus.getD "UNKNOWN")) ∈
    ["SUCCESS", "SLEEPING", "CRASHED", "FAILED"]

/-- A deploy of `sid` may be sent: the tick is at a row of `sid` that is deployable, recovery is on,
and none was sent for this row. -/
def DeployAllowed (sid : String) (before : List Mark) : Prop :=
  ∃ env row, currentRow before = some (env, row) ∧ row.railwayServiceId = sid ∧
    isDeployable row = true ∧ railwayWatchdogAutoRecoverEnabled env = true ∧
    railwayEnvironmentId env ≠ "" ∧ attempted before = false

/-- Every deploy was allowed. -/
def DeploySafe (trace : List Mark) : Prop :=
  Everywhere (fun mark before => ∀ site sid, mark.kind = .attempt site sid →
    DeployAllowed sid before) trace

/-- The marks since `w₀` satisfy `Q`. -/
def Since (w₀ : World) (Q : List Mark → Prop) (w : World) : Prop :=
  ∃ new, w.trace = new ++ w₀.trace ∧ Q new

theorem Since.of_trace {w₀ w w' : World} {Q : List Mark → Prop} (h : w'.trace = w.trace)
    (hs : Since w₀ Q w) : Since w₀ Q w' := by
  unfold Since
  rw [h]
  exact hs

theorem Since.after {w₀ w : World} {Q Q' : List Mark → Prop} {now : Nat} {kind : MarkKind}
    (hs : Since w₀ Q w) (hQ : ∀ new, Q new → Q' (⟨now, kind⟩ :: new)) :
    Since w₀ Q' (w.after now [kind]) := by
  obtain ⟨new, htrace, hnew⟩ := hs
  exact ⟨⟨now, kind⟩ :: new, by simp [World.after, htrace], hQ new hnew⟩

theorem Since.mono {w₀ w : World} {Q Q' : List Mark → Prop} (hs : Since w₀ Q w)
    (hQ : ∀ new, Q new → Q' new) : Since w₀ Q' w := by
  obtain ⟨new, htrace, hnew⟩ := hs
  exact ⟨new, htrace, hQ new hnew⟩

theorem isDeployable_of_isHealthy {row : RailwayVisibilityRow} (h : isHealthy row.cur = true) :
    isDeployable row = true := by
  simp only [isHealthy, isDeployable, RailwayVisibilityRow.cur, decide_eq_true_eq, List.mem_cons,
    List.not_mem_nil, or_false] at h ⊢
  rcases h with h | h <;> simp [h]

theorem isDeployable_of_needsAutoRecover {row : RailwayVisibilityRow}
    (h : needsAutoRecoverTrigger row.cur = true) : isDeployable row = true := by
  simp only [needsAutoRecoverTrigger, isDeployable, RailwayVisibilityRow.cur, decide_eq_true_eq,
    List.mem_cons, List.not_mem_nil, or_false] at h ⊢
  rcases h with h | h <;> simp [h]

/-- A tick is at this row; if a deploy was sent for it, `used` holds. -/
structure AtRow (env : Environment) (row : RailwayVisibilityRow) (used : Prop) (new : List Mark) :
    Prop where
  safe : DeploySafe new
  current : currentRow new = some (env, row)
  used : attempted new = true → used

namespace AtRow

variable {env : Environment} {row : RailwayVisibilityRow} {used used' : Prop} {new : List Mark}
  {now : Nat}

theorem takeUp (h : DeploySafe new) : AtRow env row False (⟨now, .row env row⟩ :: new) where
  safe := ⟨fun _ _ h => (nomatch h), h⟩
  current := rfl
  used h := nomatch h

theorem mono (h : AtRow env row used new) (hused : used → used') : AtRow env row used' new :=
  ⟨h.safe, h.current, hused ∘ h.used⟩

/-- A mark that is neither a row nor a deploy. -/
theorem other (h : AtRow env row used new) {kind : MarkKind} (hrow : ∀ env row, kind ≠ .row env row)
    (hattempt : ∀ site sid, kind ≠ .attempt site sid) :
    AtRow env row used (⟨now, kind⟩ :: new) := by
  refine ⟨⟨fun site sid hk => absurd hk (hattempt site sid), h.safe⟩, ?_, ?_⟩
  · cases kind with
    | row env row => exact absurd rfl (hrow env row)
    | _ => exact h.current
  · cases kind with
    | row env row => exact absurd rfl (hrow env row)
    | attempt site sid => exact absurd rfl (hattempt site sid)
    | _ => exact h.used

/-- The one deploy of the row. -/
theorem attempt (h : AtRow env row False new) (hdep : isDeployable row = true)
    (hauto : autoRecoverOn env = true) {site : DeploySite} :
    AtRow env row True (⟨now, .attempt site row.railwayServiceId⟩ :: new) := by
  obtain ⟨hen, hid⟩ := autoRecoverOn_iff.1 hauto
  refine ⟨⟨fun site' sid hk => ?_, h.safe⟩, h.current, fun _ => trivial⟩
  cases hk
  exact ⟨env, row, h.current, rfl, hdep, hen, hid, Bool.eq_false_iff.2 h.used⟩

end AtRow

section

variable {ι : Type} (w₀ : World)

/-- The contract of a tick that runs alone: every deploy since `w₀` was allowed. -/
def safeContract : Server.Contract Call Unit World where
  token _ := ()
  inv _ := Since w₀ DeploySafe
  safe := Since w₀ DeploySafe

theorem ofTrace_safe : OfTrace (safeContract w₀).safe := fun _ _ h hs => hs.of_trace h

variable {w₀} {i : ι} {env : Environment} {now : String} {row : RailwayVisibilityRow}
  {totals : TickTotals} {w : World}

/-- A deploy of the row, where none was sent before. -/
theorem ensures_deploy {site : DeploySite} {post : Option String → World → Prop}
    (hw : Since w₀ (AtRow env row False) w) (hdep : isDeployable row = true)
    (hauto : autoRecoverOn env = true)
    (hpost : ∀ err w₂, Since w₀ (AtRow env row True) w₂ → post err w₂) (environmentId : String) :
    Ensures (server ι).alone i (safeContract w₀)
      (railwayServiceInstanceDeployLatest site environmentId row.railwayServiceId)
      (fun err _ w₂ => Since w₀ DeploySafe w₂ ∧ post err w₂) () w := by
  refine .deploy_alone serves_server.alone (fun _ => rfl) fun t₁ t₂ err _ _ => ?_
  have h₁ : Since w₀ (AtRow env row True) (w.after t₁ [.attempt site row.railwayServiceId]) :=
    hw.after fun new h => h.attempt hdep hauto
  have h₂ :
      Since w₀ (AtRow env row True) ((w.after t₁ [.attempt site row.railwayServiceId]).after t₂
      [.outcome site row.railwayServiceId err.isNone]) :=
    h₁.after fun new h => h.other (fun _ _ h => nomatch h) (fun _ _ h => nomatch h)
  exact ⟨h₁.mono fun _ h => h.safe, h₂.mono fun _ h => h.safe, h₂.mono fun _ h => h.safe,
    hpost err _ h₂⟩

theorem stable_since (Q : List Mark → Prop) : Stable (Since w₀ Q) :=
  fun _ _ h hs => hs.of_trace h.trace

/-- One row: at most one deploy, and only of a deployable row. -/
theorem ensures_row_safe (hw : Since w₀ DeploySafe w) :
    Ensures (server ι).alone i (safeContract w₀) (processRow (.of env now) row totals)
      (fun _ _ w => Since w₀ DeploySafe w ∧ Since w₀ DeploySafe w) () w := by
  have hS : Serves (server ι).alone fun _ _ _ _ => True := serves_server.alone
  have hK := ofTrace_safe w₀
  -- what a deploy of each part says about the row
  let healthy := isHealthy row.cur = true
  let viaExit := healthy ∧ railwayHeartbeatExitRedeployEnabled env = true
  refine ensures_processRow hS hK (fun _ => Since w₀ (AtRow env row False))
    (fun _ => Since w₀ (AtRow env row viaExit))
    (fun _ => Since w₀ (AtRow env row healthy))
    (fun _ => Since w₀ (AtRow env row healthy))
    (fun _ => stable_since _) (fun _ => stable_since _) ?takeUp ?exit ?heartbeat ?forget ?auto
  case takeUp =>
    intro c _ _
    have h : Since w₀ (AtRow env row False) (w.after c.now [.row env row]) :=
      hw.after fun new h => .takeUp h
    exact ⟨h.mono fun _ h => h.safe, h⟩
  case exit =>
    intro m w hsafe h
    refine ensures_exitRedeploy hS hK (fun _ => stable_since _) hsafe
      (fun _ => h.mono fun _ h => h.mono False.elim) fun hdue w₁ h₁ _ => ?_
    obtain ⟨-, hexit, hauto, -, hhealthy, -⟩ := exitRedeployDue_iff.1 hdue
    exact ensures_deploy (h.of_trace h₁.trace) (isDeployable_of_isHealthy hhealthy) hauto
      (fun err w₂ h₂ w₃ h₃ => (h₂.mono fun _ h => h.mono fun _ => ⟨hhealthy, hexit⟩).of_trace
        h₃.trace) _
  case heartbeat =>
    intro totals m w hsafe h
    have hmark : ∀ ok : Bool, ∀ w, Since w₀ (AtRow env row healthy) w →
        Probed (safeContract w₀) (.of env now) row ok (fun _ => Since w₀ (AtRow env row healthy)) ()
          w := by
      intro ok w h now' _
      have h' : Since w₀ (AtRow env row healthy) (w.after now' [.probe (probeMark (.of env now) row
          w.lifecycle ok)]) :=
        h.after fun new h => h.other (fun _ _ h => nomatch h) (fun _ _ h => nomatch h)
      exact ⟨h'.mono fun _ h => h.safe, h'⟩
    refine ensures_heartbeat hS hK (fun _ => stable_since _) hsafe
      (fun _ => h.mono fun _ h => h.mono And.left) fun probeUrl _ w₁ h₁ hw₁ => ?_
    refine Ensures.sync hS rfl fun c _ _ => ?_
    have h₂ : Since w₀ (AtRow env row viaExit) (serve c w₁ (.ping probeUrl)).2 :=
      h.of_trace h₁.trace
    refine ⟨h₂.mono fun _ h => h.safe, h₂.mono fun _ h => h.safe,
      hmark _ _ (h₂.mono fun _ h => h.mono And.left), fun hdue w₃ h₃ _ => ?_⟩
    obtain ⟨hexit, -, hauto, hhealthy⟩ := heartbeatRecoverDue_iff.1 hdue
    have hunused : Since w₀ (AtRow env row False) w₃ :=
      (h₂.of_trace h₃.trace).mono fun _ h => h.mono fun hu => by
        have := hu.2.symm.trans hexit
        cases this
    exact ensures_deploy hunused (isDeployable_of_isHealthy hhealthy) hauto
      (fun err w₄ h₄ => hmark _ _ (h₄.mono fun _ h => h.mono fun _ => hhealthy)) _
  case forget =>
    intro m w hsafe h
    refine ensures_forgetCooldown hS hsafe (fun _ => h) fun _ now' _ => ?_
    have h' : Since w₀ (AtRow env row healthy) (w.after now' [.healthy row.railwayServiceId]) :=
      h.after fun new h => h.other (fun _ _ h => nomatch h) (fun _ _ h => nomatch h)
    exact ⟨h'.mono fun _ h => h.safe, h'⟩
  case auto =>
    intro totals m w hsafe h
    refine ensures_autoRecover hS hK (fun _ => stable_since _) hsafe (h.mono fun _ h => h.safe)
      fun hauto hneeds w₁ h₁ _ _ => ?_
    rw [TickLocals.of_autoRecover] at hauto
    have hunused : Since w₀ (AtRow env row False) w₁ :=
      (h.of_trace h₁.trace).mono fun _ h => h.mono fun hh => by
        have := (needsAutoRecoverTrigger_of_isHealthy hh).symm.trans hneeds
        cases this
    refine ensures_deploy hunused (isDeployable_of_needsAutoRecover hneeds) hauto
      (fun err w₂ h₂ => ?_) _
    cases err with
    | none => exact fun _ _ w₃ h₃ _ => (h₂.mono fun _ h => h.safe).of_trace h₃.trace
    | some msg => exact h₂.mono fun _ h => h.safe

/-- One tick. -/
theorem ensures_tick_safe (hw : Since w₀ DeploySafe w) :
    Ensures (server ι).alone i (safeContract w₀) (runRailwayWatchdogTick env)
      (fun _ => (safeContract w₀).inv) () w := by
  have hS : Serves (server ι).alone fun _ _ _ _ => True := serves_server.alone
  refine ensures_runRailwayWatchdogTick hS (ofTrace_safe w₀)
    (fun _ _ _ => Since w₀ DeploySafe) (fun _ _ _ => stable_since _)
    (fun _ => stable_since _) hw (fun w₁ h₁ hw₁ => ?_)
        (fun now rows done row rest _ totals m w hw _ =>
      ensures_row_safe hw) fun _ _ _ h => h
  refine Ensures.sync hS rfl fun c _ _ => ?_
  have h : Since w₀ DeploySafe (serve c w₁ .fetchRows).2 :=
    hw₁.after fun new h => ⟨fun _ _ h => (nomatch h), h⟩
  exact ⟨h, h, fun _ => h, fun _ => h⟩

end

/-- A service all of whose rows are not deployable gets no deploy. -/
theorem DeploySafe.none_of_not_deployable {sid : String} {trace : List Mark} (h : DeploySafe trace)
    (hrows : ∀ mark ∈ trace, ∀ env row, mark.kind = .row env row → row.railwayServiceId = sid →
      isDeployable row = false) :
    ∀ mark ∈ trace, ∀ site, mark.kind ≠ .attempt site sid := by
  intro mark hmark site hk
  obtain ⟨later, before, rfl⟩ := List.append_of_mem hmark
  obtain ⟨env, row, hcur, hsid, hdep, -⟩ :=
    everywhere_iff.1 h later mark before rfl site sid hk
  obtain ⟨m, hm, hrow⟩ := currentRow_mem hcur
  have := hrows m (List.mem_append_right _ (List.mem_cons_of_mem _ hm)) env row hrow hsid
  rw [hdep] at this
  cases this

/-- **Deploy safety**: from any state, in ticks that run one after the other, every deploy is the
only one of its row, for the service of the row, in a deployable status and with recovery on; and
while every row of a service is in another status, nothing is deployed for it. -/
theorem deploys_safe {ι : Type} [DecidableEq ι] [Fintype ι] (env : ι → Environment) (w₀ : World)
    {p : Pool Answer ι World WatchdogPayload}
    (h : Pool.Steps (server ι).alone (fun _ _ _ => True) (ticks env w₀) p) :
    ∃ new, p.world.trace = new ++ w₀.trace ∧ DeploySafe new ∧
      ∀ sid, (∀ mark ∈ new, ∀ env row, mark.kind = .row env row → row.railwayServiceId = sid →
        isDeployable row = false) → ∀ mark ∈ new, ∀ site, mark.kind ≠ .attempt site sid := by
  have hkept : Pool.Kept (server ι).alone (safeContract w₀) p :=
    ticks_kept serves_server.alone ⟨[], rfl, trivial⟩ (fun _ _ h => h)
      (fun i m w hw => ensures_tick_safe hw) h
  obtain ⟨new, htrace, hsafe⟩ := hkept.safe
  exact ⟨new, htrace, hsafe, fun sid => hsafe.none_of_not_deployable⟩

/-- A tick that redeploys a crashed service. -/
theorem deploys_safe_sample : ∃ p : Pool Answer (Fin 1) World WatchdogPayload,
    p.world.trace.any (·.attempts .autoRecover "svc") = true ∧
      ∃ new, p.world.trace = new ++ World.start.trace ∧ DeploySafe new := by
  obtain ⟨p, hrun, hattempt⟩ := Pool.Steps.exists_of_runIf (S := (server (Fin 1)).alone)
    (P := fun _ _ _ => True) (p := ticks (fun _ => sampleEnv) .start)
    (l := stretch 37 0 (sampleChoice 10 [sampleRow "CRASHED" "d1"] true none))
    (J := fun p => p.world.trace.any (·.attempts .autoRecover "svc")) (by decide +kernel)
  obtain ⟨new, htrace, hsafe, -⟩ := deploys_safe _ _ hrun
  exact ⟨p, hattempt, new, htrace, hsafe⟩

end PeHackathon.Watchdog
