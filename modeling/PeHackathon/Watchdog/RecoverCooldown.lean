import PeHackathon.Watchdog.Rules
import PeHackathon.Watchdog.Trace

/-!
# The cooldown of the auto-recovery

Ticks share one state and interleave wherever one waits. The cooldown of a service starts when a
redeploy is answered with success, so it says nothing while the answer is awaited or after a
failure. `attempts_spaced`: where no attempt begins too early after one that is unanswered or has
failed, the attempts for a service are `RECOVER_COOLDOWN_MS` apart. `attempts_not_spaced` is a run
with a failure.
-/

namespace PeHackathon.Watchdog

open Lib

/-- When the last attempt for `sid` was sent, since `sid` was last seen healthy. -/
def lastAttempt (sid : String) : List Mark → Option Nat
  | [] => none
  | mark :: before => match mark.kind with
    | .healthy sid' => if sid' = sid then none else lastAttempt sid before
    | .attempt .autoRecover sid' => if sid' = sid then some mark.time else lastAttempt sid before
    | _ => lastAttempt sid before

/-- An attempt for `sid` was answered with success since the last one was sent, and since `sid` was
last seen healthy. -/
def answered (sid : String) : List Mark → Bool
  | [] => false
  | mark :: before => match mark.kind with
    | .healthy sid' => if sid' = sid then false else answered sid before
    | .attempt .autoRecover sid' => if sid' = sid then false else answered sid before
    | .outcome .autoRecover sid' ok => if sid' = sid ∧ ok then true else answered sid before
    | _ => answered sid before

/-- An attempt for `sid` may begin at `now`: if the last one has no successful answer, the cooldown
is over all the same. -/
def MayAttempt (sid : String) (trace : List Mark) (now : Nat) : Prop :=
  answered sid trace = true ∨
    ∀ sent ∈ lastAttempt sid trace, sent + RECOVER_COOLDOWN_MS ≤ now

instance (sid : String) (trace : List Mark) (now : Nat) : Decidable (MayAttempt sid trace now) :=
  inferInstanceAs (Decidable (_ ∨ _))

/-- Every attempt for `sid` comes `RECOVER_COOLDOWN_MS` after the last one. -/
def Spaced (sid : String) (trace : List Mark) : Prop :=
  Everywhere (fun mark before => mark.attempts .autoRecover sid = true →
    ∀ sent ∈ lastAttempt sid before, sent + RECOVER_COOLDOWN_MS ≤ mark.time) trace

/-- While the service is not seen healthy, the last attempt is not before an earlier one. -/
theorem Spaced.le_lastAttempt {sid : String} {between before : List Mark} {first : Mark}
    (h : Spaced sid (between ++ first :: before)) (hfirst : first.attempts .autoRecover sid = true)
    (hhealthy : ∀ mark ∈ between, mark.kind ≠ .healthy sid) :
    ∃ sent, lastAttempt sid (between ++ first :: before) = some sent ∧ first.time ≤ sent := by
  induction between with
  | nil =>
    refine ⟨first.time, ?_, Nat.le_refl _⟩
    simp [lastAttempt, Mark.attempts_iff.1 hfirst]
  | cons mark between ih =>
    obtain ⟨sent, hsent, hle⟩ := ih h.2 fun m hm => hhealthy m (List.mem_cons_of_mem _ hm)
    by_cases hmark : mark.attempts .autoRecover sid = true
    · refine ⟨mark.time, by simp [lastAttempt, Mark.attempts_iff.1 hmark], ?_⟩
      have := h.1 hmark sent hsent
      omega
    · refine ⟨sent, ?_, hle⟩
      have hne := hhealthy mark List.mem_cons_self
      rw [Mark.attempts_iff] at hmark
      rw [List.cons_append, lastAttempt]
      split
      · rename_i sid' hk
        rw [if_neg (by rintro rfl; exact hne hk), hsent]
      · rename_i sid' hk
        rw [if_neg (by rintro rfl; exact hmark hk), hsent]
      · exact hsent

section

variable {ι : Type} (sid : String)

/-- The attempts are spaced, and a success that counts has started a cooldown that covers them. -/
structure CooledDown (w : World) : Prop where
  spaced : Spaced sid w.trace
  cooldown : answered sid w.trace = true → ∃ last, w.recoverCooldown.get sid = some last ∧
    ∀ sent ∈ lastAttempt sid w.trace, sent ≤ last
  past : ∀ sent ∈ lastAttempt sid w.trace, sent ≤ w.clock

def cooldownContract : Server.Contract Call Unit World where
  token _ := ()
  inv _ := CooledDown sid
  safe w := Spaced sid w.trace

/-- Attempts begin only where they may. -/
def AttemptsWhereAllowed (_ : ι) (c : Choice) (w : World) (q : Call) : Prop :=
  ∀ environmentId, q = .sendDeploy .autoRecover environmentId sid → MayAttempt sid w.trace c.now

theorem ofTrace_spaced : OfTrace (cooldownContract sid).safe := by
  intro w w' h hs
  simp only [cooldownContract, h]
  exact hs

variable {sid} {i : ι} {env : Environment} {now : String} {row : RailwayVisibilityRow}
  {totals : TickTotals} {m : Unit} {w w' : World} {t : Nat}

theorem cooledDown_of_empty (h : w.trace = []) : CooledDown sid w := by
  constructor
  · rw [h]; trivial
  · rw [h]; exact fun hans => nomatch hans
  · rw [h]; exact fun _ hsent => nomatch hsent

theorem stable_cooledDown : Stable (CooledDown sid) := by
  intro w w' h hc
  refine ⟨?_, ?_, ?_⟩
  · rw [h.trace]; exact hc.spaced
  · rw [h.trace, h.recoverCooldown]; exact hc.cooldown
  · rw [h.trace]; exact fun sent hs => Nat.le_trans (hc.past sent hs) h.clock

/-- The mark says nothing about the attempts for `sid`. -/
def MarkKind.Irrelevant (sid : String) : MarkKind → Prop
  | .attempt .autoRecover sid' => sid' ≠ sid
  | .outcome .autoRecover sid' ok => sid' = sid → ok = false
  | .healthy sid' => sid' ≠ sid
  | _ => True

theorem MarkKind.Irrelevant.lastAttempt {kind : MarkKind} (h : kind.Irrelevant sid)
    (before : List Mark) :
    lastAttempt sid (⟨t, kind⟩ :: before) = Watchdog.lastAttempt sid before := by
  cases kind with
  | attempt site sid' =>
    cases site with
    | autoRecover => exact if_neg h
    | _ => rfl
  | healthy sid' => exact if_neg h
  | _ => rfl

theorem MarkKind.Irrelevant.answered {kind : MarkKind} (h : kind.Irrelevant sid)
    (before : List Mark) : answered sid (⟨t, kind⟩ :: before) = Watchdog.answered sid before := by
  cases kind with
  | attempt site sid' =>
    cases site with
    | autoRecover => exact if_neg h
    | _ => rfl
  | outcome site sid' ok =>
    cases site with
    | autoRecover =>
      refine if_neg fun ⟨hsid, hok⟩ => ?_
      rw [h hsid] at hok
      cases hok
    | _ => rfl
  | healthy sid' => exact if_neg h
  | _ => rfl

theorem MarkKind.Irrelevant.attempts {kind : MarkKind} (h : kind.Irrelevant sid) :
    (⟨t, kind⟩ : Mark).attempts .autoRecover sid = false := by
  refine Bool.eq_false_iff.2 fun hm => ?_
  rw [Mark.attempts_iff] at hm
  subst hm
  exact h rfl

theorem CooledDown.irrelevant {kind : MarkKind} (h : CooledDown sid w) (hk : kind.Irrelevant sid)
    (ht : w.clock ≤ t) : CooledDown sid (w.after t [kind]) where
  spaced := ⟨fun hm => absurd hm (by rw [hk.attempts]; exact Bool.false_ne_true), h.spaced⟩
  cooldown := by
    change Watchdog.answered sid (⟨t, kind⟩ :: w.trace) = true →
      ∃ last, w.recoverCooldown.get sid = _ ∧
      ∀ sent ∈ Watchdog.lastAttempt sid (⟨t, kind⟩ :: w.trace), _
    rw [hk.answered, hk.lastAttempt]
    exact h.cooldown
  past := by
    change ∀ sent ∈ Watchdog.lastAttempt sid (⟨t, kind⟩ :: w.trace), _
    rw [hk.lastAttempt]
    exact fun sent hs => Nat.le_trans (h.past sent hs) ht

/-- An attempt where one may begin. -/
theorem CooledDown.attempt (h : CooledDown sid w) (ht : w.clock ≤ t)
    (hmay : MayAttempt sid w.trace t)
    (hcool : ∀ last, w.recoverCooldown.get sid = some last → last + RECOVER_COOLDOWN_MS ≤ w.clock) :
    CooledDown sid (w.after t [.attempt .autoRecover sid]) where
  spaced := by
    refine ⟨fun _ sent hsent => ?_, h.spaced⟩
    rcases hmay with hans | hover
    · obtain ⟨last, hlast, hle⟩ := h.cooldown hans
      calc sent + RECOVER_COOLDOWN_MS ≤ last + RECOVER_COOLDOWN_MS :=
            Nat.add_le_add_right (hle sent hsent) _
        _ ≤ w.clock := hcool last hlast
        _ ≤ t := ht
    · exact hover sent hsent
  cooldown hans := by
    change Watchdog.answered sid (⟨t, .attempt .autoRecover sid⟩ :: w.trace) = true at hans
    simp [Watchdog.answered] at hans
  past sent hsent := by
    change sent ∈ Watchdog.lastAttempt sid (⟨t, .attempt .autoRecover sid⟩ :: w.trace) at hsent
    simp only [Watchdog.lastAttempt, if_pos, Option.mem_some_iff] at hsent
    exact Nat.le_of_eq hsent.symm

/-- A successful answer, once it has started the cooldown. -/
theorem CooledDown.success (h : CooledDown sid w) (ht : w.clock ≤ t) {started : Nat}
    (hstarted : t ≤ started)
    (h' : Edit id (·.set sid started) (w.after t [.outcome .autoRecover sid true]) w')
    (hclock : started ≤ w'.clock) : CooledDown sid w' := by
  have hlast : lastAttempt sid w'.trace = lastAttempt sid w.trace := by
    rw [h'.trace]
    rfl
  refine ⟨?_, fun _ => ⟨started, ?_, ?_⟩, ?_⟩
  · rw [h'.trace]
    exact ⟨fun hm => absurd hm Bool.false_ne_true, h.spaced⟩
  · rw [h'.recoverCooldown]
    exact Dict.get_set_self _ _ _
  · rw [hlast]
    exact fun sent hs => Nat.le_trans (h.past sent hs) (Nat.le_trans ht hstarted)
  · rw [hlast]
    exact fun sent hs =>
      Nat.le_trans (h.past sent hs) (Nat.le_trans ht (Nat.le_trans hstarted hclock))

/-- The service is seen healthy. -/
theorem CooledDown.healthy (h : CooledDown row.railwayServiceId w) :
    CooledDown row.railwayServiceId (afterHealthy row t w) where
  spaced := ⟨fun hm => absurd hm Bool.false_ne_true, h.spaced⟩
  cooldown hans := by
    change Watchdog.answered _ (⟨t, .healthy row.railwayServiceId⟩ :: w.trace) = true at hans
    simp [Watchdog.answered] at hans
  past sent hsent := by
    change sent ∈ Watchdog.lastAttempt _ (⟨t, .healthy row.railwayServiceId⟩ :: w.trace) at hsent
    simp [Watchdog.lastAttempt] at hsent

/-- The cooldown of another service changes. -/
theorem CooledDown.other {f : HeartbeatExitLifecycleState → HeartbeatExitLifecycleState}
    {g : Dict String Nat → Dict String Nat} (h : CooledDown sid w) (h' : Edit f g w w')
    (hg : (g w.recoverCooldown).get sid = w.recoverCooldown.get sid) : CooledDown sid w' := by
  refine ⟨?_, ?_, ?_⟩
  · rw [h'.trace]; exact h.spaced
  · rw [h'.trace, h'.recoverCooldown, hg]; exact h.cooldown
  · rw [h'.trace]; exact fun sent hs => Nat.le_trans (h.past sent hs) h'.clock

/-! ## Ticks -/

/-- The server of the runs in which attempts begin only where they may. -/
noncomputable def spacedServer (ι : Type) (sid : String) : Server Answer ι Choice World :=
  (server ι).restrict (AttemptsWhereAllowed sid)

theorem serves_spacedServer : Serves (spacedServer ι sid) (AttemptsWhereAllowed sid) :=
  serves_server.restrict _

/-- A wait keeps the invariant when its mark is irrelevant. -/
theorem ensures_wait_cooledDown {q : Call} {post : Answer q → Unit → World → Prop}
    (hq : q.waits = true) (hw : CooledDown sid w)
    (hserve : ∀ c w, w.clock ≤ c.now → CooledDown sid w → CooledDown sid (serve c w q).2)
    (hpost : ∀ r m w, CooledDown sid w → post r m w) :
    Ensures (spacedServer ι sid) i (cooldownContract sid) (step q)
      (fun r m w => (cooldownContract sid).safe w ∧ post r m w) m w :=
  .wait serves_spacedServer hq hw fun _ w₁ h₁ c hc _ =>
    have h₂ := hserve c w₁ hc h₁
    ⟨h₂.spaced, h₂.spaced, hpost _ _ _ h₂⟩

/-- A deploy that is not an attempt for the service. -/
theorem ensures_deploy_irrelevant {site : DeploySite} {environmentId sid' : String}
    {post : Option String → Unit → World → Prop} (hother : site = .autoRecover → sid' ≠ sid)
    (hw : CooledDown sid w) (hpost : ∀ r m w, CooledDown sid w → post r m w) :
    Ensures (spacedServer ι sid) i (cooldownContract sid)
      (railwayServiceInstanceDeployLatest site environmentId sid')
      (fun r m w => (cooldownContract sid).safe w ∧ post r m w) m w := by
  refine .deploy serves_spacedServer fun c hc _ => ?_
  have hsent : CooledDown sid (w.after c.now [.attempt site sid']) := by
    refine hw.irrelevant ?_ hc
    cases site with
    | autoRecover => exact hother rfl
    | _ => trivial
  refine ⟨hsent.spaced, ensures_wait_cooledDown rfl hsent (fun c w hc h => ?_) hpost⟩
  refine h.irrelevant ?_ hc
  cases site with
  | autoRecover => exact fun h => absurd h (hother rfl)
  | _ => trivial

theorem probed_cooledDown (ok : Bool) (h : CooledDown sid w) :
    Probed (cooldownContract sid) (.of env now) row ok (fun _ => CooledDown sid) m w := by
  intro t ht
  have h₁ : CooledDown sid
      (w.after t [.probe (probeMark (.of env now) row w.lifecycle ok)]) := h.irrelevant trivial ht
  have h₂ : CooledDown sid (afterProbe (.of env now) row ok t w) :=
    h₁.other (f := fun lifecycle => (afterTickProbe lifecycle
      row.railwayServiceId row.depId env row.railwayOnlineStatus ok).1) (g := id)
      ⟨rfl, rfl, rfl, Nat.le_refl _⟩ rfl
  exact ⟨h₂.spaced, h₂⟩

theorem ensures_exitRedeploy_cooledDown (hw : CooledDown sid w) :
    Ensures (spacedServer ι sid) i (cooldownContract sid) (exitRedeploy (.of env now) row totals)
      (fun _ _ w => (cooldownContract sid).safe w ∧ CooledDown sid w) m w := by
  refine ensures_exitRedeploy serves_spacedServer (ofTrace_spaced sid)
    (fun _ => stable_cooledDown) hw.spaced (fun _ => hw) fun _ w₁ h₁ _ => ?_
  exact ensures_deploy_irrelevant (fun h => nomatch h) (hw.other h₁ rfl)
    fun err _ w₂ h₂ w₃ h₃ => h₂.other h₃ rfl

theorem ensures_heartbeat_cooledDown (hw : CooledDown sid w) :
    Ensures (spacedServer ι sid) i (cooldownContract sid) (heartbeat (.of env now) row totals)
      (fun _ _ w => (cooldownContract sid).safe w ∧ CooledDown sid w) m w := by
  refine ensures_heartbeat serves_spacedServer (ofTrace_spaced sid) (fun _ => stable_cooledDown)
    hw.spaced (fun _ => hw) fun probeUrl _ w₁ h₁ _ => ?_
  refine ensures_wait_cooledDown rfl (stable_cooledDown _ _ h₁ hw)
    (fun c w hc h => stable_cooledDown w _ ⟨rfl, rfl, rfl, hc⟩ h) fun pr _ w₂ h₂ =>
      ⟨probed_cooledDown _ h₂, fun _ w₃ h₃ _ => ?_⟩
  exact ensures_deploy_irrelevant (fun h => nomatch h) (stable_cooledDown _ _ h₃ h₂)
    fun _ _ w₄ h₄ => probed_cooledDown _ h₄

theorem ensures_forgetCooldown_cooledDown (hw : CooledDown sid w) :
    Ensures (spacedServer ι sid) i (cooldownContract sid) (forgetCooldown row)
      (fun _ _ w => (cooldownContract sid).safe w ∧ CooledDown sid w) m w := by
  refine ensures_forgetCooldown serves_spacedServer hw.spaced (fun _ => hw) fun _ t ht => ?_
  have h : CooledDown sid (afterHealthy row t w) := by
    by_cases hsid : row.railwayServiceId = sid
    · subst hsid
      exact hw.healthy
    · have h₁ : CooledDown sid (w.after t [.healthy row.railwayServiceId]) := hw.irrelevant hsid ht
      exact h₁.other (f := id) (g := (·.delete row.railwayServiceId))
        ⟨rfl, rfl, rfl, Nat.le_refl _⟩ (Dict.get_delete_ne _ (Ne.symm hsid))
  exact ⟨h.spaced, h⟩

/-- **The auto-recovery**: an attempt for the service begins where it may, and a success starts the
cooldown before any other tick runs. -/
theorem ensures_autoRecover_cooledDown (hw : CooledDown sid w) :
    Ensures (spacedServer ι sid) i (cooldownContract sid) (autoRecover (.of env now) row totals)
      (fun _ _ w => (cooldownContract sid).safe w ∧ CooledDown sid w) m w := by
  refine ensures_autoRecover serves_spacedServer (ofTrace_spaced sid) (fun _ => stable_cooledDown)
    hw.spaced hw fun _ _ w₁ h₁ hcool _ => ?_
  have hw₁ : CooledDown sid w₁ := stable_cooledDown _ _ h₁ hw
  by_cases hsid : row.railwayServiceId = sid
  · subst hsid
    refine .deploy serves_spacedServer fun c hc hok => ?_
    have hsent : CooledDown row.railwayServiceId
        (w₁.after c.now [.attempt .autoRecover row.railwayServiceId]) :=
      hw₁.attempt hc (hok _ rfl) hcool
    refine ⟨hsent.spaced, .wait serves_spacedServer rfl hsent fun _ w₂ h₂ c' hc' _ => ?_⟩
    have hsafe : Spaced row.railwayServiceId
        (serve c' w₂ (.awaitDeploy .autoRecover row.railwayServiceId)).2.trace :=
      ⟨fun hm => absurd hm Bool.false_ne_true, h₂.spaced⟩
    refine ⟨hsafe, hsafe, ?_⟩
    have hanswer :
        (serve c' w₂ (.awaitDeploy .autoRecover row.railwayServiceId)).1 = c'.deployError := rfl
    rw [hanswer]
    cases herr : c'.deployError with
    | none =>
      intro started hstarted w₃ h₃ hclock
      refine h₂.success hc' hstarted ?_ hclock
      simpa [serve, herr] using h₃
    | some msg =>
      have : CooledDown row.railwayServiceId
          (w₂.after c'.now [.outcome .autoRecover row.railwayServiceId false]) :=
        h₂.irrelevant (fun _ => rfl) hc'
      simpa [serve, herr] using this
  · refine ensures_deploy_irrelevant (fun _ => hsid) hw₁ fun err _ w₂ h₂ => ?_
    cases err with
    | none =>
      exact fun started _ w₃ h₃ _ => h₂.other h₃ (Dict.get_set_ne _ _ (Ne.symm hsid))
    | some msg => exact h₂

theorem ensures_tick_cooledDown (hw : CooledDown sid w) :
    Ensures (spacedServer ι sid) i (cooldownContract sid) (runRailwayWatchdogTick env)
      (fun _ => (cooldownContract sid).inv) m w := by
  have hS : Serves (spacedServer ι sid) (AttemptsWhereAllowed sid) := serves_spacedServer
  have hK := ofTrace_spaced sid
  refine ensures_runRailwayWatchdogTick hS hK (fun _ _ _ => CooledDown sid)
    (fun _ _ _ => stable_cooledDown) (fun _ => stable_cooledDown) hw.spaced ?fetch ?row
    fun _ _ _ h => h
  case fetch =>
    intro w₁ h₁ _
    exact ensures_wait_cooledDown rfl (stable_cooledDown _ _ h₁ hw)
      (fun c w hc h => h.irrelevant trivial hc) fun rows _ w₂ h₂ => ⟨fun _ => h₂, fun _ => h₂⟩
  case row =>
    intro now rows done row rest _ totals m w _ h
    refine ensures_processRow hS hK (fun _ => CooledDown sid) (fun _ => CooledDown sid)
      (fun _ => CooledDown sid) (fun _ => CooledDown sid)
      (fun _ => stable_cooledDown) (fun _ => stable_cooledDown)
      (fun c hc _ => ?_) (fun m w _ h => ensures_exitRedeploy_cooledDown h)
      (fun totals m w _ h => ensures_heartbeat_cooledDown h)
      (fun m w _ h => ensures_forgetCooldown_cooledDown h)
      (fun totals m w _ h => ensures_autoRecover_cooledDown h)
    have h₁ : CooledDown sid (w.after c.now [.row env row]) := h.irrelevant trivial hc
    exact ⟨h₁.spaced, h₁⟩

end

/-- The service the program is about to send an auto-recover deploy for. -/
def nextAttempt {α : Type} : Tick α → Option String
  | .call (.sendDeploy .autoRecover _ sid) _ => some sid
  | _ => none

/-- The step does not send an attempt too early after one that is unanswered or has failed. -/
def AttemptAllowed {ι : Type} (p : Pool Answer ι World WatchdogPayload) (i : ι) (c : Choice) :
    Prop :=
  ∀ sid ∈ nextAttempt (p.procs i), MayAttempt sid p.world.trace c.now

instance {ι : Type} (p : Pool Answer ι World WatchdogPayload) (i : ι) (c : Choice) :
    Decidable (AttemptAllowed p i c) :=
  inferInstanceAs (Decidable (∀ sid ∈ nextAttempt (p.procs i), MayAttempt sid p.world.trace c.now))

/-- **The cooldown holds**: in every interleaving of ticks from any state in which no attempt begins
too early after one that is unanswered or has failed, two attempts for a service between which no
tick sees it healthy begin at least `RECOVER_COOLDOWN_MS` apart. -/
theorem attempts_spaced {ι : Type} [DecidableEq ι] [Fintype ι] (env : ι → Environment) {w₀ : World}
    (hw₀ : w₀.trace = []) {p : Pool Answer ι World WatchdogPayload}
    (h : Pool.Steps (server ι) AttemptAllowed (ticks env w₀) p) {sid : String}
    {later between before : List Mark} {first second : Mark}
    (htrace : p.world.trace = later ++ second :: (between ++ first :: before))
    (hfirst : first.kind = .attempt .autoRecover sid)
    (hsecond : second.kind = .attempt .autoRecover sid)
    (hhealthy : ∀ mark ∈ between, mark.kind ≠ .healthy sid) :
    first.time + RECOVER_COOLDOWN_MS ≤ second.time := by
  have hrun : Pool.Steps (spacedServer ι sid) AttemptAllowed (ticks env w₀) p :=
    h.restrict fun p i c q k hP hq environmentId hsend => hP sid (by subst hsend; rw [hq]; rfl)
  have hspaced : Spaced sid p.world.trace :=
    (ticks_kept (K := cooldownContract sid) serves_spacedServer (cooledDown_of_empty hw₀)
      (fun _ _ h => h.spaced) (fun _ _ _ hw => ensures_tick_cooledDown hw) hrun).safe
  rw [htrace] at hspaced
  have hpair := everywhere_iff.1 hspaced later second _ rfl (Mark.attempts_iff.2 hsecond)
  have hrest : Spaced sid (between ++ first :: before) :=
    everywhere_iff.2 fun later' mark before' hl => everywhere_iff.1 hspaced
      (later ++ second :: later') mark before' (by rw [hl, List.append_assoc, List.cons_append])
  obtain ⟨sent, hsent, hle⟩ := hrest.le_lastAttempt (Mark.attempts_iff.2 hfirst) hhealthy
  have := hpair sent hsent
  omega

/-- The attempts for `sid` in a history in which no tick sees a service healthy, by their times. -/
def attemptTimes (sid : String) (trace : List Mark) : Option (List Nat) :=
  if trace.any fun mark => match mark.kind with | .healthy _ => true | _ => false then none
  else some ((trace.filter (·.attempts .autoRecover sid)).map (·.time))

theorem exists_of_attemptTimes {sid : String} {trace : List Mark} {t₂ t₁ : Nat}
    (h : attemptTimes sid trace = some [t₂, t₁]) :
    ∃ later second between first before, trace = later ++ second :: (between ++ first :: before) ∧
      first.kind = .attempt .autoRecover sid ∧ second.kind = .attempt .autoRecover sid ∧
      (∀ mark ∈ between, mark.kind ≠ .healthy sid) ∧ second.time = t₂ ∧ first.time = t₁ := by
  unfold attemptTimes at h
  split at h
  · cases h
  · rename_i hnone
    obtain ⟨second, rest, hfilter, hsecond, hrest⟩ := List.map_eq_cons_iff.1 (Option.some.inj h)
    obtain ⟨first, rest', rfl, hfirst, hrest'⟩ := List.map_eq_cons_iff.1 hrest
    obtain ⟨later, l, rfl, -, ha₂, hl⟩ := List.filter_eq_cons_iff.1 hfilter
    obtain ⟨between, before, rfl, -, ha₁, -⟩ := List.filter_eq_cons_iff.1 hl
    refine ⟨later, second, between, first, before, rfl, Mark.attempts_iff.1 ha₁,
      Mark.attempts_iff.1 ha₂, fun mark hmark hk => hnone ?_, hsecond, hfirst⟩
    exact List.any_eq_true.2 ⟨mark, by simp [hmark], by rw [hk]⟩

/-- A success, and an attempt when its cooldown is over. -/
theorem attempts_spaced_sample : ∃ (p : Pool Answer (Fin 2) World WatchdogPayload)
    (first second : Mark), first ∈ p.world.trace ∧ second ∈ p.world.trace ∧ first.time = 10 ∧
      first.time + RECOVER_COOLDOWN_MS ≤ second.time := by
  let rows := [sampleRow "CRASHED" "d1"]
  obtain ⟨p, hrun, htimes⟩ := Pool.Steps.exists_of_runIf (S := server (Fin 2))
    (P := AttemptAllowed) (p := ticks (fun _ => sampleEnv) .start)
    (l := stretch 37 0 (sampleChoice 10 rows true none) ++
      stretch 37 1 (sampleChoice 50010 rows true none))
    (J := fun p => attemptTimes "svc" p.world.trace = some [50010, 10]) (by decide +kernel)
  obtain ⟨later, second, between, first, before, htrace, h₁, h₂, hhealthy, -, ht⟩ :=
    exists_of_attemptTimes (of_decide_eq_true htimes)
  exact ⟨p, first, second, by simp [htrace], by simp [htrace], ht,
    attempts_spaced _ rfl hrun htrace h₁ h₂ hhealthy⟩

/-- In every interleaving, two attempts for a service between which no tick sees it healthy begin at
least `RECOVER_COOLDOWN_MS` apart. -/
def AttemptsSpaced : Prop :=
  ∀ (ι : Type) [DecidableEq ι] [Fintype ι] (env : ι → Environment)
    (p : Pool Answer ι World WatchdogPayload) (sid : String) (later between before : List Mark)
    (first second : Mark),
    Pool.Steps (server ι) (fun _ _ _ => True) (ticks env .start) p →
    p.world.trace = later ++ second :: (between ++ first :: before) →
    first.kind = .attempt .autoRecover sid → second.kind = .attempt .autoRecover sid →
    (∀ mark ∈ between, mark.kind ≠ .healthy sid) → first.time + RECOVER_COOLDOWN_MS ≤ second.time

/-- **A failure starts no cooldown**: the deploy of a crashed service fails, and the next tick, ten
milliseconds later, tries again. -/
theorem attempts_not_spaced : ¬ AttemptsSpaced := by
  intro h
  let rows := [sampleRow "CRASHED" "d1"]
  obtain ⟨p, hrun, htimes⟩ := Pool.Steps.exists_of_runIf (S := server (Fin 2))
    (P := fun _ _ _ => True) (p := ticks (fun _ => sampleEnv) .start)
    (l := stretch 30 0 (sampleChoice 10 rows true (some "Railway API HTTP 500")) ++
      stretch 29 1 (sampleChoice 20 rows true (some "Railway API HTTP 500")))
    (J := fun p => attemptTimes "svc" p.world.trace = some [20, 10]) (by decide +kernel)
  obtain ⟨later, second, between, first, before, htrace, h₁, h₂, hhealthy, ht₂, ht₁⟩ :=
    exists_of_attemptTimes (of_decide_eq_true htimes)
  have := h _ _ p _ _ _ _ _ _ hrun htrace h₁ h₂ hhealthy
  rw [ht₁, ht₂] at this
  exact absurd this (by decide)

end PeHackathon.Watchdog
