import PeHackathon.Watchdog.Rules
import PeHackathon.Watchdog.SequentialTicks
import PeHackathon.Watchdog.Trace

/-!
# The budget of the heartbeat recovery

A service is redeployed by its heartbeat at most `RAILWAY_HEARTBEAT_MAX_RECOVER` times for one
deployment, as long as no tick drops its heartbeat object: one whose poll does not list the service,
or lists it without an address to probe, or with another deployment. `recoveries_le` has the
condition, `budgetRefreshed` a run in which a missing address renews the budget.
-/

namespace PeHackathon.Watchdog

open Lib

/-- The mark answers a heartbeat redeploy of `sid` with success. -/
def Mark.recovers (mark : Mark) (sid : String) : Bool :=
  match mark.kind with
  | .outcome .heartbeatRecover sid' ok => sid' = sid ∧ ok
  | _ => false

/-- The successful heartbeat redeploys of `sid` at rows with deployment `d`. -/
def recoveries (sid d : String) : List Mark → Nat
  | [] => 0
  | mark :: before => recoveries sid d before +
      if mark.recovers sid && (currentRow before).any (·.2.depId = d) then 1 else 0

/-- What the heartbeat object of a service says about deployment `d`. -/
def spent (s : WatchdogPersistentState) (sid d : String) : Nat :=
  match s.heartbeatRecoverState.get sid with
  | some ref => if (s.heartbeatObjects ref).deploymentId = d then
      (s.heartbeatObjects ref).recoveriesUsed else 0
  | none => 0

theorem spent_of_get {s : WatchdogPersistentState} {sid d : String} {ref : Nat}
    (href : s.heartbeatRecoverState.get sid = some ref)
    (hdep : (s.heartbeatObjects ref).deploymentId = d) :
    spent s sid d = (s.heartbeatObjects ref).recoveriesUsed := by
  unfold spent
  rw [href]
  exact if_pos hdep

/-! ## Outside of the heartbeat -/

/-- The heartbeat objects, the count and the row are as they were. -/
structure Kept (sid d : String) (w w' : World) : Prop where
  refs : w'.state.heartbeatRecoverState = w.state.heartbeatRecoverState
  objects : w'.state.heartbeatObjects = w.state.heartbeatObjects
  count : recoveries sid d w'.trace = recoveries sid d w.trace
  current : currentRow w'.trace = currentRow w.trace

section

variable {env : Environment} {row : RailwayVisibilityRow} {rows : List RailwayVisibilityRow}
  {sid d : String} {m k ref : Nat} {w w' : World}

theorem Kept.spent (h : Kept sid d w w') : spent w'.state sid d = spent w.state sid d := by
  unfold Watchdog.spent
  rw [h.refs, h.objects]

/-- A mark that is neither a recovery nor a row. -/
theorem kept_mark (sid d : String) (mark : Mark) (trace : List Mark)
    (hrecovers : mark.recovers sid = false) (hrow : mark.kind.isRow = false) :
    recoveries sid d (mark :: trace) = recoveries sid d trace ∧
      currentRow (mark :: trace) = currentRow trace := by
  refine ⟨by simp [recoveries, hrecovers], ?_⟩
  rw [currentRow]
  split
  · rename_i env row hk
    rw [hk] at hrow
    cases hrow
  · rfl

theorem OutsideHeartbeat.kept {q : Call} (h : OutsideHeartbeat sid q) (c : Choice) (w : World)
    (sid' d : String) : Kept sid' d w (serve c w q).2 := by
  cases h with
  | log f hf =>
    have hstate : (serve c w (.update f)).2.state = _ := hf w.state
    exact ⟨by rw [hstate], by rw [hstate], rfl, rfl⟩
  | healthy =>
    obtain ⟨hcount, hcurrent⟩ := kept_mark sid' d ⟨c.now, .healthy sid⟩ w.trace rfl rfl
    exact ⟨rfl, rfl, hcount, hcurrent⟩
  | @sendDeploy site _ hsite =>
    obtain ⟨hcount, hcurrent⟩ := kept_mark sid' d ⟨c.now, .attempt site sid⟩ w.trace rfl rfl
    exact ⟨rfl, rfl, hcount, hcurrent⟩
  | @awaitDeploy site hsite =>
    have hno : Mark.recovers ⟨c.now, .outcome site sid c.deployError.isNone⟩ sid' = false := by
      cases site with
      | heartbeatRecover => exact absurd rfl hsite
      | exitRedeploy | autoRecover => rfl
    obtain ⟨hcount, hcurrent⟩ := kept_mark sid' d _ w.trace hno rfl
    exact ⟨rfl, rfl, hcount, hcurrent⟩
  | _ => exact ⟨rfl, rfl, rfl, rfl⟩

theorem Kept.get (c : Choice) (w : World) (sid d : String) : Kept sid d w (serve c w .get).2 :=
  ⟨rfl, rfl, rfl, rfl⟩

/-- What rests on the heartbeat objects, the count and the row survives the other parts of a row. -/
theorem Kept.triple {α : Type} {p : Tick α} {ψ : α → Prop} {P : World → Prop}
    (hP : ∀ w w', Kept sid d w w' → P w → P w') {sid' : String}
    (hp : p.Obeys (OrGet (OutsideHeartbeat sid')) ψ) : solo.Triple () P p fun _ => P := by
  refine .mono (.of_obeys (fun q c w r w' hq hw hr => ?_) hp) (fun _ h => h) fun _ _ h => h.2
  obtain rfl : (serve c w q).2 = w' := congrArg Prod.snd (Option.some.inj hr)
  rcases hq with rfl | hq
  · exact hP _ _ (.get c w sid d) hw
  · exact hP _ _ (hq.kept c w sid d) hw

/-! ## The heartbeat of a row -/

/-- A row, what is spent for its deployment, and the count. -/
structure RowBudget (env : Environment) (row : RailwayVisibilityRow) (m k : Nat) (w : World) :
    Prop where
  spent : spent w.state row.railwayServiceId row.depId = m
  count : recoveries row.railwayServiceId row.depId w.trace = k
  current : currentRow w.trace = some (env, row)

/-- The same once the row has its heartbeat object. -/
structure WithObject (env : Environment) (row : RailwayVisibilityRow) (ref m k : Nat) (w : World) :
    Prop where
  deployment : (w.state.heartbeatObjects ref).deploymentId = row.depId
  used : (w.state.heartbeatObjects ref).recoveriesUsed = m
  count : recoveries row.railwayServiceId row.depId w.trace = k
  current : currentRow w.trace = some (env, row)

/-- No recovery, or one within the budget. -/
def AtMostOne (P : Nat → Nat → World → Prop) (max m k : Nat) (w : World) : Prop :=
  P m k w ∨ (m < max ∧ P (m + 1) (k + 1) w)

theorem RowBudget.stable (h : Kept row.railwayServiceId row.depId w w')
    (hw : RowBudget env row m k w) :
    RowBudget env row m k w' :=
  ⟨h.spent.trans hw.spent, h.count.trans hw.count, h.current.trans hw.current⟩

theorem WithObject.stable (h : Kept row.railwayServiceId row.depId w w')
    (hw : WithObject env row ref m k w) : WithObject env row ref m k w' :=
  ⟨by rw [h.objects, hw.deployment], by rw [h.objects, hw.used], h.count.trans hw.count,
    h.current.trans hw.current⟩

theorem newHeartbeatObject_ran (h : solo.Runs () (newHeartbeatObject row) w ref w') :
    (w'.state.heartbeatObjects ref).deploymentId = row.depId ∧
      (w'.state.heartbeatObjects ref).recoveriesUsed = 0 ∧ w'.trace = w.trace := by
  unfold newHeartbeatObject at h
  obtain ⟨s, w₁, hread, h⟩ := (solo.runs_bind ()).1 h
  obtain ⟨c, hc⟩ := Server.runs_perform.1 hread
  obtain ⟨rfl, rfl⟩ := Prod.mk.inj (Option.some.inj hc)
  obtain ⟨_, w₂, hupdate, hret⟩ := (solo.runs_bind ()).1 h
  obtain ⟨rfl, rfl⟩ := (solo.runs_ret ()).1 hret
  obtain ⟨c', hc'⟩ := Server.runs_perform.1 hupdate
  obtain ⟨-, rfl⟩ := Prod.mk.inj (Option.some.inj hc')
  simp [World.setState, World.after]

theorem atRow_heartbeatObject :
    solo.Triple () (RowBudget env row m k) (heartbeatObject row) (WithObject env row · m k) := by
  intro w ref w' hw h
  unfold heartbeatObject at h
  obtain ⟨s, w₁, hread, h⟩ := (solo.runs_bind ()).1 h
  obtain ⟨c, hc⟩ := Server.runs_perform.1 hread
  obtain ⟨rfl, rfl⟩ := Prod.mk.inj (Option.some.inj hc)
  have hnew : m = 0 → solo.Runs () (newHeartbeatObject row) (w.after c.now []) ref w' →
      WithObject env row ref m k w' := by
    rintro rfl hrun
    obtain ⟨hdep, hused, htrace⟩ := newHeartbeatObject_ran hrun
    have htrace : w'.trace = w.trace := htrace
    exact ⟨hdep, hused, by rw [htrace, hw.count], by rw [htrace, hw.current]⟩
  have hspent := hw.spent
  unfold Watchdog.spent at hspent
  cases hget : w.state.heartbeatRecoverState.get row.railwayServiceId with
  | none =>
    simp only [hget] at h hspent
    exact hnew hspent.symm h
  | some old =>
    simp only [hget] at h hspent
    by_cases hdep : (w.state.heartbeatObjects old).deploymentId = row.depId
    · rw [if_neg (not_not.2 hdep)] at h
      rw [if_pos hdep] at hspent
      obtain ⟨_, w₂, hupdate, hret⟩ := (solo.runs_bind ()).1 h
      obtain ⟨rfl, rfl⟩ := (solo.runs_ret ()).1 hret
      obtain ⟨c', hc'⟩ := Server.runs_perform.1 hupdate
      obtain ⟨-, rfl⟩ := Prod.mk.inj (Option.some.inj hc')
      exact ⟨by simpa [World.setState, World.after] using hdep,
        by simpa [World.setState, World.after] using hspent, hw.count, hw.current⟩
    · rw [if_pos hdep] at h
      rw [if_neg hdep] at hspent
      exact hnew hspent.symm h

namespace WithObject

theorem outside {α : Type} {p : Tick α} {ψ : α → Prop}
    (hp : p.Obeys (OutsideHeartbeat row.railwayServiceId) ψ) :
    solo.Triple () (WithObject env row ref m k) p fun _ => WithObject env row ref m k :=
  Kept.triple (fun _ _ h hw => hw.stable h) (hp.mono (fun _ => .inr) fun _ => id)

theorem readState : solo.Triple () (WithObject env row ref m k) readState fun s w =>
    (s.heartbeatObjects ref).recoveriesUsed = m ∧ WithObject env row ref m k w := by
  refine .perform fun c w s w' hw hr => ?_
  obtain ⟨rfl, rfl⟩ := Prod.mk.inj (Option.some.inj hr)
  exact ⟨hw.used, hw.stable (.get c w _ _)⟩

/-- A change of the object. -/
theorem update (m' : Nat) {f : HeartbeatRecoverState → HeartbeatRecoverState}
    (hdep : ∀ o, (f o).deploymentId = o.deploymentId)
    (hused : ∀ o, o.recoveriesUsed = m → (f o).recoveriesUsed = m') :
    solo.Triple () (WithObject env row ref m k) (updateHeartbeatObject ref f)
      fun _ => WithObject env row ref m' k := by
  refine .perform fun c w _ w' hw hr => ?_
  obtain ⟨-, rfl⟩ := Prod.mk.inj (Option.some.inj hr)
  refine ⟨?_, ?_, hw.count, hw.current⟩
  · simpa [World.setState, World.after, hdep] using hw.deployment
  · simpa [World.setState, World.after] using hused _ hw.used

theorem ping (probeUrl : String) : solo.Triple () (WithObject env row ref m k)
    (pingHeartbeatUrl probeUrl) fun _ => WithObject env row ref m k := by
  refine .perform fun c w _ w' hw hr => ?_
  obtain ⟨-, rfl⟩ := Prod.mk.inj (Option.some.inj hr)
  exact ⟨hw.deployment, hw.used, hw.count, hw.current⟩

theorem lastRecover (now : Nat) : solo.Triple () (WithObject env row ref m k)
    (Watchdog.update fun s =>
      { s with heartbeatLastRecoverAt := s.heartbeatLastRecoverAt.set row.railwayServiceId now })
    fun _ => WithObject env row ref m k := by
  refine .perform fun c w _ w' hw hr => ?_
  obtain ⟨-, rfl⟩ := Prod.mk.inj (Option.some.inj hr)
  exact ⟨hw.deployment, hw.used, hw.count, hw.current⟩

/-- The answer to a redeploy. -/
theorem deploy (environmentId : String) :
    solo.Triple () (WithObject env row ref m k)
      (railwayServiceInstanceDeployLatest .heartbeatRecover environmentId row.railwayServiceId)
      fun err => WithObject env row ref m (if err.isNone then k + 1 else k) := by
  have hsend : solo.Triple () (WithObject env row ref m k)
      (step (.sendDeploy .heartbeatRecover environmentId row.railwayServiceId))
      fun _ => WithObject env row ref m k := by
    refine .perform fun c w _ w' hw hr => ?_
    obtain ⟨-, rfl⟩ := Prod.mk.inj (Option.some.inj hr)
    obtain ⟨hcount, hcurrent⟩ := kept_mark row.railwayServiceId row.depId
      ⟨c.now, .attempt .heartbeatRecover row.railwayServiceId⟩ w.trace rfl rfl
    exact ⟨hw.deployment, hw.used, hcount.trans hw.count, hcurrent.trans hw.current⟩
  refine hsend.bind fun _ => .perform fun c w err w' hw hr => ?_
  obtain ⟨rfl, rfl⟩ := Prod.mk.inj (Option.some.inj hr)
  refine ⟨hw.deployment, hw.used, ?_, hw.current⟩
  have hany : (currentRow w.trace).any (·.2.depId = row.depId) = true := by
    rw [hw.current]
    simp
  simp only [World.after, List.map_cons, List.map_nil, List.cons_append, List.nil_append,
    recoveries, Mark.recovers, hw.count, hany]
  cases c.deployError <;> simp

variable {t : TickLocals} {totals : TickTotals} {max : Nat}

theorem recover (hm : m < max) : solo.Triple () (WithObject env row ref m k)
    (heartbeatRecover t row totals ref) fun _ => AtMostOne (WithObject env row ref) max m k := by
  unfold heartbeatRecover
  refine (outside outside_performanceNow).bind fun _ => ?_
  refine (deploy t.environmentId).bind fun err => ?_
  cases err with
  | none =>
    refine (outside (outside_elapsedMs _)).bind fun _ => ?_
    refine (outside (outside_pushActivity _)).bind fun _ => ?_
    refine Server.Triple.bind (update (m + 1) (fun _ => rfl) fun o ho => ?_) fun _ => ?_
    · rw [ho]
    refine (outside outside_dateNow).bind fun now => (lastRecover now).bind fun _ => ?_
    refine (outside outside_dateNow).bind fun _ => readState.bind fun s => .assume fun _ => ?_
    exact (outside (outside_pushLogLine _)).bind fun _ => .ret fun w hw => .inr ⟨hm, hw⟩
  | some msg =>
    exact (outside (outside_pushLogLine _)).bind fun _ => .ret fun w hw => .inl hw

theorem missed : solo.Triple () (WithObject env row ref m k) (heartbeatMissed t row totals ref)
    fun _ => AtMostOne (WithObject env row ref) t.hbMaxRecover m k := by
  unfold heartbeatMissed
  refine Server.Triple.bind (update m (fun _ => rfl) fun o ho => ho) fun _ => ?_
  refine readState.bind fun s => .assume fun hused => ?_
  refine (outside (outside_heartbeatCooldownOk _)).bind fun cooldownOk => ?_
  refine .ite (fun hgo => recover ?_) fun _ => .ite (fun _ => ?_) fun _ =>
    .ite (fun _ => ?_) fun _ => ?_
  · rw [← hused]
    exact hgo.2.1.2
  · refine Server.Triple.bind (update m (fun _ => rfl) fun o ho => ho) fun _ => ?_
    refine (outside outside_dateNow).bind fun _ => ?_
    exact (outside (outside_pushLogLine _)).bind fun _ => .ret fun w hw => .inl hw
  · refine Server.Triple.bind (update m (fun _ => rfl) fun o ho => ho) fun _ => ?_
    exact (outside (outside_pushLogLine _)).bind fun _ => .ret fun w hw => .inl hw
  · exact .ret fun w hw => .inl hw

theorem answered (pr : PingResult) :
    solo.Triple () (WithObject env row ref m k) (heartbeatAnswered t row totals ref pr)
      fun _ => AtMostOne (WithObject env row ref) t.hbMaxRecover m k := by
  unfold heartbeatAnswered
  refine .ite (fun _ => ?_) fun _ => .ite (fun _ => missed) fun _ => .ite (fun _ => ?_) fun _ => ?_
  · exact Server.Triple.bind (update m (fun _ => rfl) fun o ho => ho) fun _ =>
      .ret fun w hw => .inl hw
  · exact Server.Triple.bind (update m (fun _ => rfl) fun o ho => ho) fun _ =>
      .ret fun w hw => .inl hw
  · exact .ret fun w hw => .inl hw

/-- The probe is recorded, and the object goes into the map. -/
theorem settle (ok : Bool) :
    solo.Triple () (WithObject env row ref m k)
      (do
        recordProbe t row ok
        Watchdog.update fun s =>
          { s with heartbeatRecoverState := s.heartbeatRecoverState.set row.railwayServiceId ref }
        return totals)
      fun _ => RowBudget env row m k := by
  have hprobe : solo.Triple () (WithObject env row ref m k) (recordProbe t row ok)
      fun _ => WithObject env row ref m k := by
    refine .perform fun c w _ w' hw hr => ?_
    obtain ⟨-, rfl⟩ := Prod.mk.inj (Option.some.inj hr)
    obtain ⟨hcount, hcurrent⟩ := kept_mark row.railwayServiceId row.depId
      ⟨c.now, .probe (probeMark t row w.state.heartbeatExitLifecycle ok)⟩ w.trace rfl rfl
    exact ⟨hw.deployment, hw.used, hcount.trans hw.count, hcurrent.trans hw.current⟩
  refine hprobe.bind fun _ => Server.Triple.bind (.perform fun c w _ w' hw hr => ?_) fun _ =>
    .ret fun _ h => h
  obtain ⟨-, rfl⟩ := Prod.mk.inj (Option.some.inj hr)
  refine ⟨?_, hw.count, hw.current⟩
  have hset := Dict.get_set_self w.state.heartbeatRecoverState row.railwayServiceId ref
  have hspent := spent_of_get
    (s := { w.state with
      heartbeatRecoverState := w.state.heartbeatRecoverState.set row.railwayServiceId ref })
    hset hw.deployment
  exact hspent.trans hw.used

end WithObject

/-- The heartbeat of a row that is probed. -/
theorem atRow_heartbeat {t : TickLocals} {totals : TickTotals} {probeUrl : String}
    (hurl : row.probedAt t.env = some probeUrl) :
    solo.Triple () (RowBudget env row m k) (heartbeat t row totals)
      fun _ => AtMostOne (RowBudget env row) t.hbMaxRecover m k := by
  rw [heartbeat_eq]
  refine atRow_heartbeatObject.bind fun ref => ?_
  unfold afterObject
  simp only [hurl]
  refine (WithObject.outside outside_performanceNow).bind fun _ => ?_
  refine (WithObject.ping probeUrl).bind fun pr => ?_
  refine (WithObject.outside (outside_elapsedMs _)).bind fun _ => ?_
  refine (WithObject.outside (outside_pushActivity _)).bind fun _ => ?_
  refine (WithObject.answered pr).bind fun after w a w' hw hrun => ?_
  rcases hw with hw | ⟨hm, hw⟩
  · exact .inl (WithObject.settle pr.ok w a w' hw hrun)
  · exact .inr ⟨hm, WithObject.settle pr.ok w a w' hw hrun⟩

/-! ## A row that is not probed -/

/-- A call that makes no mark. -/
def Call.Silent (q : Call) : Prop := ∀ c w, (serve c w q).2.trace = w.trace

theorem silent_of_logCall {q : Call} (h : LogCall q) : q.Silent := fun c w => (h.serve c w).trace

theorem silent_update (f : WatchdogPersistentState → WatchdogPersistentState) :
    (update f).Obeys Call.Silent fun _ => True := by
  have h : (Call.update f).Silent := fun _ _ => rfl
  exact .perform h

theorem silent_readState : readState.Obeys Call.Silent fun _ => True := by
  have h : Call.get.Silent := fun _ _ => rfl
  exact .perform h

theorem silent_newHeartbeatObject : (newHeartbeatObject row).Obeys Call.Silent fun _ => True :=
  silent_readState.bind fun _ _ => (silent_update _).bind fun _ _ => .ret trivial

theorem silent_heartbeatObject : (heartbeatObject row).Obeys Call.Silent fun _ => True := by
  unfold heartbeatObject
  refine silent_readState.bind fun s _ => ?_
  cases s.heartbeatRecoverState.get row.railwayServiceId with
  | none => exact silent_newHeartbeatObject
  | some ref =>
    exact .ite (fun _ => silent_newHeartbeatObject) fun _ => (silent_update _).bind fun _ _ =>
      .ret trivial

theorem silent_heartbeatSkipped {t : TickLocals} {totals : TickTotals} :
    (heartbeatSkipped t row totals).Obeys Call.Silent fun _ => True := by
  have hpush : (pushSkipped t row).Obeys LogCall fun _ => True := by
    unfold pushSkipped
    exact .ite (fun _ => log_pushActivity _) fun _ => .ite (fun _ => log_pushActivity _) fun _ =>
      .ret trivial
  unfold heartbeatSkipped
  exact (silent_update _).bind fun _ _ =>
    (hpush.mono (fun _ => silent_of_logCall) fun _ => id).bind fun _ _ => .ret trivial

/-- The heartbeat of a row that is not probed makes no mark. -/
theorem silent_heartbeat {t : TickLocals} {totals : TickTotals} (hurl : row.probedAt t.env = none) :
    (heartbeat t row totals).Obeys Call.Silent fun _ => True := by
  rw [heartbeat_eq]
  refine silent_heartbeatObject.bind fun ref _ => ?_
  unfold afterObject
  simp only [hurl]
  exact .ite (fun _ => silent_heartbeatSkipped) fun _ => .ret trivial

/-! ## A row -/

/-- A row, by what its heartbeat does to a fact the other parts keep. -/
theorem processRow_heartbeat {t : TickLocals} {totals : TickTotals} {P P' : World → Prop}
    (hP : ∀ w w', Kept row.railwayServiceId row.depId w w' → P w → P w')
    (hP' : ∀ w w', Kept row.railwayServiceId row.depId w w' → P' w → P' w')
    (hheartbeat : ∀ totals, solo.Triple () P (heartbeat t row totals) fun _ => P') :
    solo.Triple () (fun w => ∀ time, P (w.after time [.row t.env row])) (processRow t row totals)
      fun _ => P' := by
  unfold processRow
  have htake : solo.Triple () (fun w => ∀ time, P (w.after time [.row t.env row]))
      (step (.takeUp t.env row)) fun _ => P := by
    refine .perform fun c w _ w' hw hr => ?_
    obtain ⟨-, rfl⟩ := Prod.mk.inj (Option.some.inj hr)
    exact hw c.now
  refine htake.bind fun _ => ?_
  have hread : readState.Obeys (OrGet (OutsideHeartbeat row.railwayServiceId)) fun _ => True :=
    orGet_readState
  refine (Kept.triple hP hread).bind fun s => ?_
  refine (Kept.triple hP outside_exitRedeploy).bind fun a => (hheartbeat a).bind fun b => ?_
  refine (Kept.triple hP' (orGet outside_forgetCooldown)).bind fun _ => ?_
  refine (Kept.triple hP' outside_autoRecover).bind fun _ => ?_
  refine (Kept.triple hP' (orGet (outside_rowEvents _))).bind fun _ => ?_
  refine Server.Triple.bind (.perform fun c w _ w' hw hr => ?_) fun _ => .ret fun _ h => h
  obtain ⟨-, rfl⟩ := Prod.mk.inj (Option.some.inj hr)
  exact hP' w _ ⟨rfl, rfl, rfl, rfl⟩ hw

/-- What is spent for `d`, and the count. -/
structure Ledger (sid d : String) (m k : Nat) (w : World) : Prop where
  spent : spent w.state sid d = m
  count : recoveries sid d w.trace = k

/-- A probed row recovers at most once, and within the budget. -/
theorem processRow_probed {t : TickLocals} {totals after : TickTotals} {probeUrl : String}
    (hurl : row.probedAt t.env = some probeUrl)
    (hw : Ledger row.railwayServiceId row.depId m k w)
    (h : solo.Runs () (processRow t row totals) w after w') :
    AtMostOne (Ledger row.railwayServiceId row.depId) t.hbMaxRecover m k w' := by
  have hstable : ∀ w w', Kept row.railwayServiceId row.depId w w' →
      AtMostOne (RowBudget t.env row) t.hbMaxRecover m k w →
      AtMostOne (RowBudget t.env row) t.hbMaxRecover m k w' := by
    rintro w w' hkept (hw | ⟨hm, hw⟩)
    · exact .inl (hw.stable hkept)
    · exact .inr ⟨hm, hw.stable hkept⟩
  have hrow :=
    processRow_heartbeat (P := RowBudget t.env row m k) (fun _ _ h hw => hw.stable h) hstable
    (fun _ => atRow_heartbeat hurl) w after w' (fun time => ⟨hw.spent, hw.count, rfl⟩) h
  rcases hrow with hrow | ⟨hm, hrow⟩
  · exact .inl ⟨hrow.spent, hrow.count⟩
  · exact .inr ⟨hm, hrow.spent, hrow.count⟩

/-- A row that is not probed recovers nothing. -/
theorem processRow_unprobed {t : TickLocals} {totals after : TickTotals}
    (hurl : row.probedAt t.env = none) (h : solo.Runs () (processRow t row totals) w after w') :
    recoveries row.railwayServiceId row.depId w'.trace =
      recoveries row.railwayServiceId row.depId w.trace := by
  have hstable : ∀ w₁ w₂, Kept row.railwayServiceId row.depId w₁ w₂ →
      recoveries row.railwayServiceId row.depId w₁.trace =
        recoveries row.railwayServiceId row.depId w.trace →
      recoveries row.railwayServiceId row.depId w₂.trace =
        recoveries row.railwayServiceId row.depId w.trace := fun w₁ w₂ h hw => h.count.trans hw
  refine processRow_heartbeat hstable hstable (fun totals => ?_) w after w' (fun time => rfl) h
  refine .mono (.of_obeys (fun q c w₁ r w₂ hq hw hr => ?_) (silent_heartbeat hurl)) (fun _ h => h)
    fun _ _ h => h.2
  obtain rfl : (serve c w₁ q).2 = w₂ := congrArg Prod.snd (Option.some.inj hr)
  rw [hq c w₁]
  exact hw

/-- The marks of a row with another service or another deployment do not count. -/
theorem Adds.recoveries {time : Nat} {trace trace' : List Mark}
    (h : Adds row.railwayServiceId (⟨time, .row env row⟩ :: trace) trace')
    (hne : row.railwayServiceId ≠ sid ∨ row.depId ≠ d) :
    recoveries sid d trace' = recoveries sid d trace := by
  obtain ⟨marks, rfl, hmarks⟩ := h
  suffices hall : Watchdog.recoveries sid d (marks ++ ⟨time, .row env row⟩ :: trace) =
      Watchdog.recoveries sid d trace ∧
      currentRow (marks ++ ⟨time, .row env row⟩ :: trace) = some (env, row) from hall.1
  induction marks with
  | nil => exact ⟨rfl, rfl⟩
  | cons mark marks ih =>
    obtain ⟨hcount, hcurrent⟩ := ih fun m hm => hmarks m (List.mem_cons_of_mem _ hm)
    obtain ⟨hservice, hrow⟩ := hmarks mark List.mem_cons_self
    rw [List.cons_append]
    constructor
    · rw [Watchdog.recoveries, hcount, hcurrent]
      by_cases hrec : mark.recovers sid = true
      · have hsid : row.railwayServiceId = sid := by
          unfold Mark.recovers at hrec
          split at hrec
          · rename_i sid' ok hk
            rw [hk] at hservice
            simp only [MarkKind.service?, Option.some.injEq] at hservice
            rw [← hservice]
            exact (of_decide_eq_true hrec).1
          · cases hrec
        have hdep : row.depId ≠ d := hne.resolve_left (not_not.2 hsid)
        simp [hdep]
      · simp [hrec]
    · rw [currentRow]
      split
      · rename_i env' row' hk
        rw [hk] at hrow
        cases hrow
      · exact hcurrent

/-- A row of another service leaves both alone. -/
theorem RowDone.ledger_other {t : TickLocals} {totals after : TickTotals}
    (h : RowDone t row w totals after w') (hsep : w.state.Separate)
    (hne : row.railwayServiceId ≠ sid) (hw : Ledger sid d m k w) : Ledger sid d m k w' := by
  obtain ⟨time, hframe⟩ := h.frame
  refine ⟨?_, (hframe.trace.recoveries (.inl hne)).trans hw.count⟩
  rw [← hw.spent]
  unfold Watchdog.spent
  have hrefs : w'.state.heartbeatRecoverState.get sid = w.state.heartbeatRecoverState.get sid :=
    hframe.refs_other (Ne.symm hne)
  rw [hrefs]
  cases hget : w.state.heartbeatRecoverState.get sid with
  | none => rfl
  | some ref =>
    have hobject : w'.state.heartbeatObjects ref = w.state.heartbeatObjects ref :=
      hframe.object_other ⟨hsep.lt, hsep.eq⟩ (Ne.symm hne) hget
    simp only [hobject]

/-! ## A tick -/

/-- The tick has one row of the service, with deployment `d` and an address to probe. -/
def RailwayVisibilityRow.probes (env : Environment) (d : String) : List RailwayVisibilityRow → Bool
  | [row] => row.depId = d && (row.probedAt env).isSome
  | _ => false

/-- After these rows of the service. -/
structure After (env : Environment) (sid d : String) (m k : Nat) (rows : List RailwayVisibilityRow)
    (w : World) : Prop where
  none : rows = [] → Ledger sid d m k w
  probed : RailwayVisibilityRow.probes env d rows = true →
    AtMostOne (Ledger sid d) (heartbeatMaxRecoverPerEpoch env) m k w
  unprobed : rows.length ≤ 1 → RailwayVisibilityRow.probes env d rows = false →
    recoveries sid d w.trace = k

theorem After.other (h : After env sid d m k rows w)
    (hledger : ∀ m k, Ledger sid d m k w → Ledger sid d m k w')
    (hcount : recoveries sid d w'.trace = recoveries sid d w.trace) :
    After env sid d m k rows w' := by
  refine ⟨fun he => hledger m k (h.none he), fun hp => ?_, fun hl hp =>
    hcount.trans (h.unprobed hl hp)⟩
  rcases h.probed hp with hw | ⟨hm, hw⟩
  · exact .inl (hledger _ _ hw)
  · exact .inr ⟨hm, hledger _ _ hw⟩

/-- The first row of the service. -/
theorem After.first {t : TickLocals} {totals after : TickTotals} (ht : t.env = env)
    (hmax : t.hbMaxRecover = heartbeatMaxRecoverPerEpoch env) (hsid : row.railwayServiceId = sid)
    (hw : Ledger sid d m k w) (h : solo.Runs () (processRow t row totals) w after w') :
    After env sid d m k [row] w' := by
  subst hsid ht
  refine ⟨fun he => absurd he (List.cons_ne_nil row []), fun hp => ?_, fun _ hp => ?_⟩
  · simp only [RailwayVisibilityRow.probes, Bool.and_eq_true, decide_eq_true_eq] at hp
    obtain ⟨rfl, hurl⟩ := hp
    obtain ⟨probeUrl, hurl⟩ := Option.isSome_iff_exists.1 hurl
    rw [← hmax]
    exact processRow_probed hurl hw h
  · by_cases hdep : row.depId = d
    · subst hdep
      simp only [RailwayVisibilityRow.probes, decide_true, Bool.true_and,
        Option.isSome_eq_false_iff, Option.isNone_iff_eq_none] at hp
      exact (processRow_unprobed hp h).trans hw.count
    · obtain ⟨time, hframe⟩ := (processRow_done w after w' rfl h).frame
      exact (hframe.trace.recoveries (.inr hdep)).trans hw.count

/-- The loop over the rows, for one service. -/
theorem loop_budget {now : String} {rows : List RailwayVisibilityRow} {totals totals' : TickTotals}
    (hsep : w.state.Separate) (hw : Ledger sid d m k w)
    (h : solo.Runs () (rows.foldlM (fun totals row => processRow (.of env now) row totals) totals) w
      totals' w') : After env sid d m k (rowsOf sid rows) w' := by
  have hloop := Server.Triple.foldlM (S := solo) (i := ())
    (g := fun totals row => processRow (.of env now) row totals)
    (J := fun done _ w₁ => w₁.state.Separate ∧ After env sid d m k (rowsOf sid done) w₁)
      rows ?_ totals
  · have hstart : After env sid d m k [] w := ⟨fun _ => hw, nofun, fun _ _ => hw.count⟩
    exact (hloop w totals' w' ⟨hsep, hstart⟩ h).2
  · rintro done row rest b - w₁ a w₂ ⟨hsep₁, hafter⟩ hrun
    have hdone := processRow_done w₁ a w₂ rfl hrun
    obtain ⟨time, hframe⟩ := hdone.frame
    refine ⟨hframe.separate ⟨hsep₁.lt, hsep₁.eq⟩, ?_⟩
    rw [rowsOf_append_one]
    by_cases hsid : row.railwayServiceId = sid
    · rw [if_pos hsid]
      cases hrows : rowsOf sid done with
      | nil =>
        exact After.first rfl rfl hsid (hafter.none hrows) hrun
      | cons first others =>
        refine ⟨fun he => by simp at he, fun hp => ?_, fun hl => by simp at hl⟩
        cases others <;> cases hp
    · rw [if_neg hsid, List.append_nil]
      exact hafter.other (fun _ _ hl => hdone.ledger_other hsep₁ hsid hl)
        (hframe.trace.recoveries (.inl hsid))

/-- The poll failed, or it has one row of the service, with deployment `d` and an address to
probe. -/
def TickRecord.keepsBudget (r : TickRecord) (sid d : String) : Bool :=
  r.rows.errorText.isSome || RailwayVisibilityRow.probes r.env d (r.observations sid)

theorem LogsOnly.ledger (h : LogsOnly w w') (hw : Ledger sid d m k w) : Ledger sid d m k w' := by
  refine ⟨?_, by rw [h.trace, hw.count]⟩
  rw [h.state]
  exact hw.spent

/-- The poll marks nothing that counts. -/
theorem ledger_fetched {time : Nat} {rows : VisibilityResult}
    (h : LogsOnly (w.mark time (.fetched rows)) w') (hw : Ledger sid d m k w) :
    Ledger sid d m k w' :=
  h.ledger ⟨hw.spent, hw.count⟩

/-- The pruning keeps what is spent for a service that is there. -/
theorem ledger_forgetGone {rows : List RailwayVisibilityRow}
    (hsid : sid ∈ rows.map (·.railwayServiceId)) (hw : Ledger sid d m k w) :
    Ledger sid d m k (w.setState (forgetGone rows w.state)) := by
  refine ⟨?_, hw.count⟩
  rw [← hw.spent]
  have hget := w.state.heartbeatRecoverState.get_deleteAll_filter
    (· ∈ rows.map (·.railwayServiceId)) sid
  rw [if_pos (by simpa using hsid)] at hget
  unfold Watchdog.spent
  simp only [World.setState, forgetGone, decide_not] at hget ⊢
  rw [hget]

theorem TickRecord.Ran.budget_error {r : TickRecord} (h : r.Ran) (herror : r.rows.errorText ≠ none)
    (hw : Ledger sid d m k r.before) : Ledger sid d m k r.after := by
  obtain ⟨time, ⟨-, -, hlogs⟩ | ⟨hok, -⟩⟩ := h.cases
  · exact ledger_fetched hlogs hw
  · exact absurd hok herror

/-- A tick that keeps the budget recovers at most once, and within it. -/
theorem TickRecord.Ran.budget_kept {r : TickRecord} (h : r.Ran) (hsep : r.before.state.Separate)
    (hkept : r.keepsBudget sid d = true) (hw : Ledger sid d m k r.before) :
    AtMostOne (Ledger sid d) (heartbeatMaxRecoverPerEpoch r.env) m k r.after := by
  by_cases herror : r.rows.errorText = none
  · obtain ⟨time, ⟨he, -⟩ | ⟨-, now, w₁, totals, w₂, hpoll, hloop, -, hend⟩⟩ := h.cases
    · exact absurd herror he
    have hprobes : RailwayVisibilityRow.probes r.env d (rowsOf sid r.rows.containers) = true := by
      simpa [TickRecord.keepsBudget, herror, TickRecord.observations] using hkept
    have hafter := loop_budget (hpoll.separate ⟨hsep.lt, hsep.eq⟩) (ledger_fetched hpoll hw) hloop
    have hsid : sid ∈ r.rows.containers.map (·.railwayServiceId) := by
      cases hrows : rowsOf sid r.rows.containers with
      | nil =>
        rw [hrows] at hprobes
        cases hprobes
      | cons row rest =>
        have hrow : row ∈ rowsOf sid r.rows.containers := hrows ▸ List.mem_cons_self
        obtain ⟨hmem, hid⟩ := List.mem_filter.1 hrow
        exact List.mem_map.2 ⟨row, hmem, of_decide_eq_true hid⟩
    rcases hafter.probed hprobes with hl | ⟨hm, hl⟩
    · exact .inl (hend.ledger (ledger_forgetGone hsid hl))
    · exact .inr ⟨hm, hend.ledger (ledger_forgetGone hsid hl)⟩
  · exact .inl (h.budget_error herror hw)

/-- A tick that does not keep the budget recovers nothing. -/
theorem TickRecord.Ran.budget_dropped {r : TickRecord} (h : r.Ran) (hsep : r.before.state.Separate)
    (hone : (r.observations sid).length ≤ 1) (hdrop : r.keepsBudget sid d = false) :
    recoveries sid d r.after.trace = recoveries sid d r.before.trace := by
  simp only [TickRecord.keepsBudget, Bool.or_eq_false_iff, Option.isSome_eq_false_iff,
    Option.isNone_iff_eq_none] at hdrop
  obtain ⟨time, ⟨he, -⟩ | ⟨-, now, w₁, totals, w₂, hpoll, hloop, -, hend⟩⟩ := h.cases
  · exact absurd hdrop.1 he
  · have hledger : Ledger sid d _ _ w₁ := ledger_fetched hpoll ⟨rfl, rfl⟩
    have hafter := loop_budget (hpoll.separate ⟨hsep.lt, hsep.eq⟩) hledger hloop
    rw [hend.trace]
    exact hafter.unprobed hone hdrop.2

end

/-! ## A run -/

/-- No tick of a run lists the service with deployment `d`. -/
def neverBack (sid d : String) (recs : List TickRecord) : Bool :=
  recs.all fun r => r.rows.errorText.isSome || (r.observations sid).all (·.depId ≠ d)

/-- No poll has two rows of the service, and a tick that does not keep the budget of deployment `d`
finds nothing spent of it, or no later tick has that deployment. -/
def BudgetKept (sid d : String) : List TickRecord → Prop
  | [] => True
  | r :: recs => (r.observations sid).length ≤ 1 ∧
      (r.keepsBudget sid d = true ∨ spent r.before.state sid d = 0 ∨ neverBack sid d recs = true) ∧
      BudgetKept sid d recs

instance (sid d : String) : (recs : List TickRecord) → Decidable (BudgetKept sid d recs)
  | [] => .isTrue trivial
  | _ :: recs =>
    have := instDecidableBudgetKept sid d recs
    inferInstanceAs (Decidable (_ ∧ _ ∧ _))

section

variable {env : Environment} {recs : List TickRecord} {w w' : World} {sid d : String}

/-- Without a row of the deployment nothing is recovered. -/
theorem Sequential.neverBack (h : Sequential w recs w') (hsep : w.state.Separate)
    (hone : BudgetKept sid d recs) (hback : neverBack sid d recs = true) :
    recoveries sid d w'.trace = recoveries sid d w.trace := by
  induction h with
  | nil w => rfl
  | @cons r recs w hr _ ih =>
    simp only [Watchdog.neverBack, List.all_cons, Bool.and_eq_true] at hback
    obtain ⟨hrow, hback⟩ := hback
    rw [ih (hr.separate hsep) hone.2.2 hback]
    by_cases herror : r.rows.errorText = none
    · refine hr.budget_dropped hsep hone.1 ?_
      simp only [herror, Option.isSome_none, Bool.false_or, List.all_eq_true, decide_eq_true_eq]
        at hrow
      simp only [TickRecord.keepsBudget, herror, Option.isSome_none, Bool.false_or]
      unfold RailwayVisibilityRow.probes
      split
      · rename_i row hrows
        have hne := hrow row (hrows ▸ List.mem_singleton_self row)
        simp [hne]
      · rfl
    · exact (hr.budget_error herror ⟨rfl, rfl⟩).count

/-- From any world: what is recovered fits into what is left of the budget. -/
theorem Sequential.budget (h : Sequential w recs w') (hsep : w.state.Separate)
    (henv : ∀ r ∈ recs, r.env = env) (hkept : BudgetKept sid d recs) :
    recoveries sid d w'.trace = recoveries sid d w.trace ∨
      spent w.state sid d + recoveries sid d w'.trace ≤
        heartbeatMaxRecoverPerEpoch env + recoveries sid d w.trace := by
  induction h with
  | nil w => exact .inl rfl
  | @cons r recs w hr hrest ih =>
    obtain ⟨hone, hcond, hkept⟩ := hkept
    have hih := ih (hr.separate hsep) (fun r hr => henv r (List.mem_cons_of_mem _ hr)) hkept
    by_cases hkeeps : r.keepsBudget sid d = true
    · have htick := hr.budget_kept hsep hkeeps ⟨rfl, rfl⟩
      rw [henv r List.mem_cons_self] at htick
      rcases htick with ⟨hspent, hcount⟩ | ⟨hm, hspent, hcount⟩
      · rw [hspent, hcount] at hih
        exact hih
      · rw [hspent, hcount] at hih
        omega
    · have hsame := hr.budget_dropped hsep hone (Bool.eq_false_iff.2 hkeeps)
      rcases hcond with h | hzero | hback
      · exact absurd h hkeeps
      · rw [hsame] at hih
        omega
      · exact .inl ((hrest.neverBack (hr.separate hsep) hkept hback).trans hsame)

/-- **The budget**: a service is redeployed by its heartbeat at most `RAILWAY_HEARTBEAT_MAX_RECOVER`
times for one deployment, if the budget of that deployment is kept. -/
theorem recoveries_le (h : Sequential .start recs w) (henv : ∀ r ∈ recs, r.env = env)
    (hkept : BudgetKept sid d recs) :
    recoveries sid d w.trace ≤ heartbeatMaxRecoverPerEpoch env := by
  have hstart : recoveries sid d World.start.trace = 0 := rfl
  have hspent : spent World.start.state sid d = 0 := by
    simp [World.start, createEmptyWatchdogState, spent]
  have hbudget := h.budget separate_empty henv hkept
  rw [hstart, hspent] at hbudget
  omega

end

/-! ## Samples -/

/-- The heartbeat recovers a service at the first missed probe, once for each deployment. -/
def recoverEnv : Environment where
  proc := none
  process := [("RAILWAY_ENVIRONMENT_ID", "production"), ("RAILWAY_HEARTBEAT_EXIT_REDEPLOY", "0"),
    ("RAILWAY_HEARTBEAT_RECOVER", "1"), ("RAILWAY_HEARTBEAT_MISS_THRESHOLD", "1"),
    ("RAILWAY_HEARTBEAT_RECOVER_COOLDOWN_MS", "0")]

/-- The row of a service whose address is missing. -/
def rowWithoutUrl (deployment : String) : RailwayVisibilityRow :=
  visibilityRow "svc" "dashboard"
    (some { id := deployment, status := some "SUCCESS", url := none, staticUrl := none })

/-- A probe that fails. -/
def missedProbe : Choice := sampleChoice 10 [sampleRow "SUCCESS" "d1"] false none

/-- Two missed probes in a row: one redeploy. -/
theorem recoveries_le_sample :
    recoveries "svc" "d1" (replayed recoverEnv [missedProbe, missedProbe] .start).trace ≤
      heartbeatMaxRecoverPerEpoch recoverEnv :=
  recoveries_le (sequential_replay recoverEnv [missedProbe, missedProbe] .start) (by decide +kernel)
    (by decide +kernel)

/-- Whatever a service's heartbeat redeploys for one deployment is within the budget. -/
def RecoveriesBounded : Prop :=
  ∀ (env : Environment) (recs : List TickRecord) (w : World) (sid d : String),
    Sequential .start recs w → (∀ r ∈ recs, r.env = env) →
    recoveries sid d w.trace ≤ heartbeatMaxRecoverPerEpoch env

/-- Between two missed probes the address is missing for a tick. -/
def budgetRefreshed : List Choice :=
  [missedProbe, sampleChoice 20 [rowWithoutUrl "d1"] false none, missedProbe]

/-- **The budget is renewed** although the deployment is the same. -/
theorem recoveries_not_le : ¬ RecoveriesBounded := by
  intro h
  have hle := h recoverEnv _ _ "svc" "d1" (sequential_replay recoverEnv budgetRefreshed .start)
    (by decide +kernel)
  exact absurd hle (by decide +kernel)

end PeHackathon.Watchdog
