import PeHackathon.Watchdog.Rules
import PeHackathon.Watchdog.Trace

/-!
# No scheduled redeploy is lost

Ticks run one after the other in a fixed environment with heartbeats, exit redeploys and recovery
on. Once a deployment of a service is seen exited, a redeploy is owed to it: until one succeeds, a
probe answers, or the service shows another deployment. `redeploys_kept`: every healthy row of that
deployment is followed at once by an attempt, and a tick takes up every row of its poll.
-/

namespace PeHackathon.Watchdog

open Lib

/-! ## What is owed -/

/-- What a mark makes of a redeploy owed to deployment `d` of `s`. -/
def Mark.leavesOwed (s d : String) (owed : Bool) (mark : Mark) : Bool :=
  match mark.kind with
  | .probe p =>
    if p.serviceId = s then
      p.deploymentId = d && (p.becomesExited || (owed && !p.ok))
    else owed
  | .outcome .exitRedeploy s' ok => owed && !(decide (s' = s) && ok)
  | .row _ row => owed && (decide (row.railwayServiceId ≠ s) || decide (row.depId = d))
  | _ => owed

/-- A redeploy is owed to deployment `d` of `s`. -/
def owed (s d : String) : List Mark → Bool
  | [] => false
  | mark :: before => mark.leavesOwed s d (owed s d before)

/-- A tick has just turned to a healthy row to which a redeploy is owed. -/
def Due (s d : String) (trace : List Mark) : Prop :=
  ∃ t env row before, trace = ⟨t, .row env row⟩ :: before ∧ row.railwayServiceId = s ∧
    row.depId = d ∧ isHealthy row.cur = true ∧ owed s d before = true

/-- The rows of the last poll. -/
def polled : List Mark → List RailwayVisibilityRow
  | [] => []
  | mark :: before => match mark.kind with
    | .fetched result => if result.errorText = none then result.containers else []
    | _ => polled before

/-- The rows taken up since the last poll. -/
def rowsTaken : List Mark → List RailwayVisibilityRow
  | [] => []
  | mark :: before => match mark.kind with
    | .fetched _ => []
    | .row _ row => rowsTaken before ++ [row]
    | _ => rowsTaken before

/-- A row that is due is followed by an attempt, and a poll comes only after every row of the last
one was taken up. -/
def KeepsRedeem (s d : String) (mark : Mark) (before : List Mark) : Prop :=
  (Due s d before → mark.kind = .attempt .exitRedeploy s) ∧
    ∀ result, mark.kind = .fetched result → rowsTaken before = polled before

/-- Neither a poll nor a row. -/
def MarkKind.inRow : MarkKind → Prop
  | .fetched _ | .row _ _ => False
  | _ => True

section Marks

variable {s d : String} {t : Nat} {k : MarkKind} {before : List Mark}

theorem not_due_of_inRow (hk : k.inRow) : ¬ Due s d (⟨t, k⟩ :: before) := by
  rintro ⟨t', env, row, before', h, -⟩
  injection h with hmark
  injection hmark with _ hkind
  subst hkind
  exact hk

theorem polled_of_inRow (hk : k.inRow) : polled (⟨t, k⟩ :: before) = polled before := by
  cases k with
  | fetched | row => exact hk.elim
  | _ => rfl

theorem rowsTaken_of_inRow (hk : k.inRow) : rowsTaken (⟨t, k⟩ :: before) = rowsTaken before := by
  cases k with
  | fetched | row => exact hk.elim
  | _ => rfl

theorem keepsRedeem_of_inRow (hk : k.inRow) (h : Due s d before → k = .attempt .exitRedeploy s) :
    KeepsRedeem s d ⟨t, k⟩ before := by
  refine ⟨h, fun result hf => ?_⟩
  have hkind : k = .fetched result := hf
  subst hkind
  exact hk.elim

end Marks

/-! ## One service -/

namespace ServiceLifecycle

variable {e : ServiceLifecycle} {d : String} {env : Environment}
  {onlineStatus : RailwayOnlineStatus}

/-- A failed probe of the same deployment leaves the flag up. -/
theorem probed_redeem_of_failed (hd : e.deployment = some d) (h : e.redeem = true) :
    (e.probed d env onlineStatus false).redeem = true := by
  have hs : e.sync d = e := if_pos hd
  unfold probed
  rw [hs]
  split
  · exact h
  · simp [h]

/-- The probe that shows the service exited puts the flag up. -/
theorem probed_redeem_of_exits (hexit : railwayHeartbeatExitRedeployEnabled env = true)
    (h : (e.sync d).exits env = true) : (e.probed d env .online false).redeem = true := by
  unfold probed
  simp [h, hexit]

end ServiceLifecycle

/-! ## The invariant -/

/-- The history inside a tick that polled `rows` and has taken up `done`. -/
structure KeptHistory (s d : String) (rows done : List RailwayVisibilityRow) (trace : List Mark) :
    Prop where
  attempted : Everywhere (KeepsRedeem s d) trace
  polled : polled trace = rows
  taken : rowsTaken trace = done

/-- Nothing owed is forgotten. -/
structure FlagKept (s d : String) (rows done : List RailwayVisibilityRow) (w : World) : Prop where
  history : KeptHistory s d rows done w.trace
  /-- What is owed is in the redeem flag, under the deployment it is owed to. -/
  flag : owed s d w.trace = true →
    (w.lifecycle.entry s).redeem = true ∧ (w.lifecycle.entry s).deployment = some d

/-- Besides, no row waits for its attempt. -/
structure Settled (s d : String) (rows done : List RailwayVisibilityRow) (w : World) : Prop extends
    FlagKept s d rows done w where
  settled : ¬ Due s d w.trace

section

variable {s d : String} {rows done : List RailwayVisibilityRow} {w w' : World}

/-- A mark inside a row. -/
theorem KeptHistory.inRow {trace : List Mark} {t : Nat} {k : MarkKind}
    (h : KeptHistory s d rows done trace) (hk : k.inRow)
    (hdue : Due s d trace → k = .attempt .exitRedeploy s) :
    KeptHistory s d rows done (⟨t, k⟩ :: trace) where
  attempted := ⟨keepsRedeem_of_inRow hk hdue, h.attempted⟩
  polled := (polled_of_inRow hk).trans h.polled
  taken := (rowsTaken_of_inRow hk).trans h.taken

theorem FlagKept.stable : Stable (FlagKept s d rows done) := by
  intro w w' h hw
  have hl : w'.lifecycle = w.lifecycle := h.lifecycle
  exact ⟨h.trace ▸ hw.history, by rw [h.trace, hl]; exact hw.flag⟩

theorem Settled.stable : Stable (Settled s d rows done) :=
  fun w w' h hw => ⟨FlagKept.stable w w' h hw.toFlagKept, h.trace ▸ hw.settled⟩

/-- A mark inside a row, after which what is owed is in the flag. -/
theorem Settled.mark {t : Nat} {k : MarkKind} (h : Settled s d rows done w) (hk : k.inRow)
    (htrace : w'.trace = ⟨t, k⟩ :: w.trace)
    (hflag : owed s d (⟨t, k⟩ :: w.trace) = true →
      (w'.lifecycle.entry s).redeem = true ∧ (w'.lifecycle.entry s).deployment = some d) :
    Settled s d rows done w' := by
  refine ⟨⟨?_, ?_⟩, ?_⟩
  · rw [htrace]
    exact h.history.inRow hk fun hdue => absurd hdue h.settled
  · rw [htrace]
    exact hflag
  · rw [htrace]
    exact not_due_of_inRow hk

/-- A mark that changes neither what is owed nor the lifecycle. -/
theorem Settled.irrelevant {t : Nat} {k : MarkKind} (h : Settled s d rows done w) (hk : k.inRow)
    (howed : owed s d (⟨t, k⟩ :: w.trace) = owed s d w.trace) :
    Settled s d rows done (w.after t [k]) :=
  h.mark hk rfl fun ho => h.flag (howed ▸ ho)

end

/-- The contract of a tick that runs alone. -/
def owedContract (s d : String) : Server.Contract Call Unit World where
  token _ := ()
  inv _ w := ∃ rows, Settled s d rows rows w
  safe w := Everywhere (KeepsRedeem s d) w.trace

theorem ofTrace_owed (s d : String) : OfTrace (owedContract s d).safe := by
  intro w w' h hw
  change Everywhere _ w'.trace
  rw [h]
  exact hw

/-! ## The parts of a tick -/

section Parts

variable {ι : Type} {i : ι} {s d : String} {env : Environment} {now : String}
  {row : RailwayVisibilityRow} {totals : TickTotals} {rows done : List RailwayVisibilityRow}
  {m : Unit} {w : World}

/-- A tick turns to the next row. -/
theorem FlagKept.takeUp {t : Nat} (h : Settled s d rows done w) :
    FlagKept s d rows (done ++ [row]) (w.after t [.row env row]) where
  history :=
    { attempted := ⟨⟨fun hdue => absurd hdue h.settled, fun _ hf => nomatch hf⟩,
      h.history.attempted⟩
      polled := h.history.polled
      taken := congrArg (· ++ [row]) h.history.taken }
  flag ho := by
    have hand : (owed s d w.trace && (decide (row.railwayServiceId ≠ s) || decide (row.depId = d)))
        = true := ho
    exact h.flag (Bool.and_eq_true_iff.1 hand).1

/-- A row that is not due for a redeploy is not owed one. -/
theorem FlagKept.settle {t : Nat} {before : List Mark} (hd : d ≠ "")
    (hhb : railwayHeartbeatEnabled env = true)
    (hexit : railwayHeartbeatExitRedeployEnabled env = true) (hauto : autoRecoverOn env = true)
    (h : FlagKept s d rows done w) (hat : w.trace = ⟨t, .row env row⟩ :: before)
    (hskip : exitRedeployDue (.of env now) row w.lifecycle = false) : Settled s d rows done w := by
  refine ⟨h, ?_⟩
  rintro ⟨t', env', row', before', htrace, hsid, hdep, hhealthy, howed⟩
  rw [hat] at htrace
  cases htrace
  have howed' : owed s d w.trace = true := by
    rw [hat]
    have hdec : decide (row.depId = d) = true := decide_eq_true hdep
    change (owed s d before && (decide (row.railwayServiceId ≠ s) || decide (row.depId = d))) = true
    rw [howed, hdec, Bool.or_true, Bool.and_true]
  have hdue : exitRedeployDue (.of env now) row w.lifecycle = true := by
    refine exitRedeployDue_iff.2 ⟨hhb, hexit, hauto, ?_, hhealthy, hdep ▸ hd⟩
    rw [hsid]
    exact (h.flag howed').1
  rw [hdue] at hskip
  cases hskip

/-- The history after an attempt for the row a tick has just taken up. -/
theorem FlagKept.sent {t t₁ : Nat} {before : List Mark} (h : FlagKept s d rows done w)
    (hat : w.trace = ⟨t, .row env row⟩ :: before) :
    KeptHistory s d rows done (⟨t₁, .attempt .exitRedeploy row.railwayServiceId⟩ :: w.trace) := by
  refine h.history.inRow trivial ?_
  rintro ⟨t', env', row', before', htrace, hsid, -⟩
  rw [hat] at htrace
  cases htrace
  rw [hsid]

/-- And after its answer. -/
theorem FlagKept.answered {t t₁ t₂ : Nat} {ok : Bool} {before : List Mark}
    (h : FlagKept s d rows done w) (hat : w.trace = ⟨t, .row env row⟩ :: before) :
    KeptHistory s d rows done (⟨t₂, .outcome .exitRedeploy row.railwayServiceId ok⟩ ::
      ⟨t₁, .attempt .exitRedeploy row.railwayServiceId⟩ :: w.trace) :=
  (h.sent hat).inRow trivial fun hdue => absurd hdue (not_due_of_inRow trivial)

/-- What is owed after the answer is still in the flag. -/
theorem FlagKept.settle_answered {t t₁ t₂ : Nat} {before : List Mark} {err : Option String}
    {w₁ w₂ : World} (h : FlagKept s d rows done w) (hat : w.trace = ⟨t, .row env row⟩ :: before)
    (hclear : Edit (clearExitLifecycleRedeemFlag · row.railwayServiceId) id w w₁)
    (hend : Edit (match err with
        | none => (clearExitLifecycleForService · row.railwayServiceId)
        | some _ => (requeueExitLifecycleRedeem · row.railwayServiceId)) id
      ((w₁.after t₁ [.attempt .exitRedeploy row.railwayServiceId]).after t₂
        [.outcome .exitRedeploy row.railwayServiceId err.isNone]) w₂) :
    Settled s d rows done w₂ := by
  have htrace : w₂.trace = ⟨t₂, .outcome .exitRedeploy row.railwayServiceId err.isNone⟩ ::
      ⟨t₁, .attempt .exitRedeploy row.railwayServiceId⟩ :: w.trace := by
    rw [← hclear.trace]
    exact hend.trace
  have hentry := entry_answered hclear hend s
  refine ⟨⟨?_, fun ho => ?_⟩, ?_⟩
  · rw [htrace]
    exact h.answered hat
  · rw [htrace] at ho
    have hand : (owed s d w.trace && !(decide (row.railwayServiceId = s) && err.isNone)) = true :=
      ho
    obtain ⟨howed, hopen⟩ := Bool.and_eq_true_iff.1 hand
    obtain ⟨hredeem, hdep⟩ := h.flag howed
    rw [hentry]
    split
    · rename_i hs
      refine ⟨?_, hdep⟩
      rw [decide_eq_true hs.symm, Bool.true_and] at hopen
      exact hopen
    · exact ⟨hredeem, hdep⟩
  · rw [htrace]
    exact not_due_of_inRow trivial

/-- The exit redeploy of the row a tick has just taken up. -/
theorem ensures_exitRedeploy_settled {t : Nat} {before : List Mark} (hd : d ≠ "")
    (hhb : railwayHeartbeatEnabled env = true)
    (hexit : railwayHeartbeatExitRedeployEnabled env = true) (hauto : autoRecoverOn env = true)
    (hw : FlagKept s d rows done w) (hat : w.trace = ⟨t, .row env row⟩ :: before) :
    Ensures (server ι).alone i (owedContract s d) (exitRedeploy (.of env now) row totals)
      (fun _ _ w => (owedContract s d).safe w ∧ Settled s d rows done w) m w := by
  refine ensures_exitRedeploy serves_server.alone (ofTrace_owed s d) (fun _ => Settled.stable)
    hw.history.attempted (fun hskip => hw.settle hd hhb hexit hauto hat hskip) fun _ w₁ h₁ _ => ?_
  refine .deploy_alone serves_server.alone (fun _ => rfl) fun t₁ t₂ err ht₁ ht₂ => ?_
  have hsent : Everywhere (KeepsRedeem s d)
      (w₁.after t₁ [.attempt .exitRedeploy row.railwayServiceId]).trace := by
    change Everywhere _ (_ :: w₁.trace)
    rw [h₁.trace]
    exact (hw.sent hat).attempted
  have hanswered : Everywhere (KeepsRedeem s d)
      ((w₁.after t₁ [.attempt .exitRedeploy row.railwayServiceId]).after t₂
        [.outcome .exitRedeploy row.railwayServiceId err.isNone]).trace := by
    change Everywhere _ (_ :: _ :: w₁.trace)
    rw [h₁.trace]
    exact (hw.answered hat).attempted
  exact ⟨hsent, hanswered, hanswered, fun w₃ h₃ => hw.settle_answered hat h₁ h₃⟩

/-- A probe goes into the lifecycle. -/
theorem probed_settled (hexit : railwayHeartbeatExitRedeployEnabled env = true) (ok : Bool)
    (hw : Settled s d rows done w) :
    Probed (owedContract s d) (.of env now) row ok (fun _ => Settled s d rows done) m w := by
  intro t _
  have hsettled : Settled s d rows done (afterProbe (.of env now) row ok t w) := by
    refine hw.mark (t := t) (k := .probe (probeMark (.of env now) row w.lifecycle ok)) trivial rfl
      fun ho => ?_
    rw [afterProbe_entry]
    simp only [owed, Mark.leavesOwed, probeMark_becomesExited] at ho
    by_cases hs : s = row.railwayServiceId
    · rw [if_pos hs]
      rw [if_pos (show (probeMark _ row w.lifecycle ok).serviceId = s from hs.symm)] at ho
      simp only [Bool.and_eq_true, Bool.or_eq_true, decide_eq_true_eq, Bool.not_eq_true'] at ho
      obtain ⟨hdep, hwhy⟩ := ho
      have hdep' : row.depId = d := hdep
      refine ⟨?_, by rw [← hdep']; exact ServiceLifecycle.probed_deployment _ _ _ _ _⟩
      rcases hwhy with ⟨⟨hon, hok⟩, hexits⟩ | ⟨howed, hok⟩
      · rw [hon, hok]
        exact ServiceLifecycle.probed_redeem_of_exits hexit hexits
      · obtain ⟨hredeem, hentry⟩ := hw.flag howed
        have hok' : ok = false := hok
        rw [hok', ← hs]
        exact ServiceLifecycle.probed_redeem_of_failed (hdep'.symm ▸ hentry) hredeem
    · rw [if_neg hs]
      rw [if_neg (show ¬ (probeMark _ row w.lifecycle ok).serviceId = s from Ne.symm hs)] at ho
      exact hw.flag ho
  exact ⟨hsettled.history.attempted, hsettled⟩

theorem ensures_heartbeat_settled (hexit : railwayHeartbeatExitRedeployEnabled env = true)
    (hw : Settled s d rows done w) :
    Ensures (server ι).alone i (owedContract s d) (heartbeat (.of env now) row totals)
      (fun _ _ w => (owedContract s d).safe w ∧ Settled s d rows done w) m w := by
  refine ensures_heartbeat serves_server.alone (ofTrace_owed s d) (fun _ => Settled.stable)
    hw.history.attempted (fun _ => hw) fun probeUrl _ w₁ h₁ _ => ?_
  refine .sync serves_server.alone rfl fun c hc _ => ?_
  have hw₂ : Settled s d rows done (serve c w₁ (.ping probeUrl)).2 :=
    Settled.stable w₁ _ ⟨rfl, rfl, rfl, hc⟩ (Settled.stable w w₁ h₁ hw)
  refine ⟨hw₂.history.attempted, hw₂.history.attempted, probed_settled hexit _ hw₂, fun hdue => ?_⟩
  have hoff := (heartbeatRecoverDue_iff.1 hdue).1
  rw [hexit] at hoff
  cases hoff

theorem ensures_forgetCooldown_settled (hw : Settled s d rows done w) :
    Ensures (server ι).alone i (owedContract s d) (forgetCooldown row)
      (fun _ _ w => (owedContract s d).safe w ∧ Settled s d rows done w) m w := by
  refine ensures_forgetCooldown serves_server.alone hw.history.attempted (fun _ => hw)
    fun _ t _ => ?_
  have h : Settled s d rows done (afterHealthy row t w) :=
    hw.mark (t := t) (k := .healthy row.railwayServiceId) trivial rfl hw.flag
  exact ⟨h.history.attempted, h⟩

theorem ensures_autoRecover_settled (hw : Settled s d rows done w) :
    Ensures (server ι).alone i (owedContract s d) (autoRecover (.of env now) row totals)
      (fun _ _ w => (owedContract s d).safe w ∧ Settled s d rows done w) m w := by
  refine ensures_autoRecover serves_server.alone (ofTrace_owed s d) (fun _ => Settled.stable)
    hw.history.attempted hw fun _ _ w₁ h₁ _ _ => ?_
  have hw₁ : Settled s d rows done w₁ := Settled.stable w w₁ h₁ hw
  refine .deploy_alone serves_server.alone (fun _ => rfl) fun t₁ t₂ err _ _ => ?_
  have hsent : Settled s d rows done (w₁.after t₁ [.attempt .autoRecover row.railwayServiceId]) :=
    hw₁.irrelevant trivial rfl
  have hanswered : Settled s d rows done ((w₁.after t₁ [.attempt .autoRecover
      row.railwayServiceId]).after t₂ [.outcome .autoRecover row.railwayServiceId err.isNone]) :=
    hsent.irrelevant trivial rfl
  refine ⟨hsent.history.attempted, hanswered.history.attempted, hanswered.history.attempted, ?_⟩
  cases err with
  | some msg => exact hanswered
  | none =>
    intro started _ w₃ h₃ _
    have hl : w₃.lifecycle = _ := h₃.lifecycle
    refine ⟨⟨?_, ?_⟩, ?_⟩
    · rw [h₃.trace]
      exact hanswered.history
    · rw [h₃.trace, hl]
      exact hanswered.flag
    · rw [h₃.trace]
      exact hanswered.settled

/-- **One row**: it is taken up, and an attempt is made if one is due. -/
theorem ensures_row_settled (hd : d ≠ "") (hhb : railwayHeartbeatEnabled env = true)
    (hexit : railwayHeartbeatExitRedeployEnabled env = true) (hauto : autoRecoverOn env = true)
    (hw : Settled s d rows done w) :
    Ensures (server ι).alone i (owedContract s d) (processRow (.of env now) row totals)
      (fun _ _ w => (owedContract s d).safe w ∧ Settled s d rows (done ++ [row]) w) m w := by
  refine ensures_processRow serves_server.alone (ofTrace_owed s d)
    (fun _ w => FlagKept s d rows (done ++ [row]) w ∧
      ∃ t before, w.trace = ⟨t, .row env row⟩ :: before)
    (fun _ => Settled s d rows (done ++ [row])) (fun _ => Settled s d rows (done ++ [row]))
    (fun _ => Settled s d rows (done ++ [row])) (fun _ => Settled.stable) ?stable ?takeUp ?exit
    (fun totals m w _ h => ensures_heartbeat_settled hexit h)
    (fun m w _ h => ensures_forgetCooldown_settled h)
    (fun totals m w _ h => ensures_autoRecover_settled h)
  case stable =>
    rintro m w w' h ⟨hk, hat⟩
    exact ⟨FlagKept.stable w w' h hk, h.trace ▸ hat⟩
  case takeUp =>
    intro c _ _
    have h : FlagKept s d rows (done ++ [row]) (w.after c.now [.row env row]) := .takeUp hw
    exact ⟨h.history.attempted, h, c.now, w.trace, rfl⟩
  case exit =>
    rintro m w _ ⟨hk, t, before, hat⟩
    exact ensures_exitRedeploy_settled hd hhb hexit hauto hk hat

/-- One tick. -/
theorem ensures_tick_settled (hd : d ≠ "") (hhb : railwayHeartbeatEnabled env = true)
    (hexit : railwayHeartbeatExitRedeployEnabled env = true) (hauto : autoRecoverOn env = true)
    (hw : (owedContract s d).inv m w) :
    Ensures (server ι).alone i (owedContract s d) (runRailwayWatchdogTick env)
      (fun _ => (owedContract s d).inv) m w := by
  obtain ⟨rows, hw⟩ := hw
  refine ensures_runRailwayWatchdogTick serves_server.alone (ofTrace_owed s d)
    (fun rows done _ => Settled s d rows done) (fun _ _ _ => Settled.stable)
    (fun _ w w' h ⟨rows, hs⟩ => ⟨rows, Settled.stable w w' h hs⟩) hw.history.attempted ?fetch
    (fun now rows done row rest _ totals m w _ h => ensures_row_settled hd hhb hexit hauto h)
    fun rows _ _ h => ⟨rows, h⟩
  intro w₁ h₁ _
  have hw₁ : Settled s d rows rows w₁ := Settled.stable w w₁ h₁ hw
  refine .sync serves_server.alone rfl fun c _ _ => ?_
  have hat : Everywhere (KeepsRedeem s d) (⟨c.now, .fetched c.rows⟩ :: w₁.trace) :=
    ⟨⟨fun hdue => absurd hdue hw₁.settled, fun _ _ => hw₁.history.taken.trans
      hw₁.history.polled.symm⟩, hw₁.history.attempted⟩
  have hdue : ¬ Due s d (⟨c.now, .fetched c.rows⟩ :: w₁.trace) := by
    rintro ⟨t, env, row, before, htrace, -⟩
    cases htrace
  have hfetched : Settled s d (if c.rows.errorText = none then c.rows.containers else []) []
      (serve c w₁ .fetchRows).2 := ⟨⟨⟨hat, rfl, rfl⟩, hw₁.flag⟩, hdue⟩
  refine ⟨hat, hat, ?_, fun hok => ?_⟩
  · rintro ⟨error, herr⟩
    have hfailed : ¬ c.rows.errorText = none := fun hok =>
      absurd (herr.symm.trans hok) (Option.some_ne_none error)
    rw [if_neg hfailed] at hfetched
    exact ⟨[], hfetched⟩
  · have hok' : c.rows.errorText = none := hok
    rw [if_pos hok'] at hfetched
    exact hfetched

end Parts

/-- Before the first tick nothing is owed. -/
theorem settled_start (s d : String) : Settled s d [] [] .start where
  history := { attempted := trivial, polled := rfl, taken := rfl }
  flag h := nomatch h
  settled := by rintro ⟨t, env, row, before, htrace, -⟩; cases htrace

/-- **No scheduled redeploy is lost**: in ticks that run one after the other from the empty state,
with heartbeats, exit redeploys and recovery on, every healthy row to which a redeploy is owed is
followed at once by an attempt for its service, and every tick takes up all the rows of its poll. -/
theorem redeploys_kept {ι : Type} [DecidableEq ι] [Fintype ι] {env : Environment}
    (hhb : railwayHeartbeatEnabled env = true)
    (hexit : railwayHeartbeatExitRedeployEnabled env = true) (hauto : autoRecoverOn env = true)
    {p : Pool Answer ι World WatchdogPayload}
    (h : Pool.Steps (server ι).alone (fun _ _ _ => True) (ticks (fun _ => env) .start) p)
    (s d : String) (hd : d ≠ "") :
    Everywhere (KeepsRedeem s d) p.world.trace ∧
      (p.holder = none → ¬ Due s d p.world.trace ∧
        rowsTaken p.world.trace = polled p.world.trace) := by
  have hkept : Pool.Kept (server ι).alone (owedContract s d) p :=
    ticks_kept serves_server.alone ⟨[], settled_start s d⟩ (fun _ _ ⟨_, h⟩ => h.history.attempted)
      (fun _ _ _ hw => ensures_tick_settled hd hhb hexit hauto hw) h
  refine ⟨hkept.safe, fun hfree => ?_⟩
  obtain ⟨rows, hs⟩ := hkept.free hfree
  exact ⟨hs.settled, hs.history.taken.trans hs.history.polled.symm⟩

/-- Two ticks schedule a redeploy, the third attempts it in vain, and the fourth tries again. -/
theorem redeploys_kept_sample : ∃ p : Pool Answer (Fin 4) World WatchdogPayload,
    p.world.trace.countP (·.attempts .exitRedeploy "svc") = 2 ∧
      Everywhere (KeepsRedeem "svc" "d1") p.world.trace := by
  let c := sampleChoice 10 [sampleRow "SUCCESS" "d1"] false none
  let cFail := sampleChoice 10 [sampleRow "SUCCESS" "d1"] false (some "unavailable")
  obtain ⟨p, hrun, hcount⟩ := Pool.Steps.exists_of_runIf (S := (server (Fin 4)).alone)
    (P := fun _ _ _ => True) (p := ticks (fun _ => sampleEnv) .start)
    (l := stretch 24 0 c ++ stretch 23 1 c ++ stretch 29 2 cFail ++ stretch 12 3 c)
    (J := fun p => p.world.trace.countP (·.attempts .exitRedeploy "svc") = 2)
    (by decide +kernel)
  exact ⟨p, of_decide_eq_true hcount, (redeploys_kept (by decide) (by decide) (by decide) hrun "svc"
    "d1" (by decide)).1⟩

end PeHackathon.Watchdog
