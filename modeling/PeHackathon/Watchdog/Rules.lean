import PeHackathon.Lib.Tokens
import PeHackathon.Watchdog.Effects

/-!
# One rule for each part of a tick

Each part of `processRow` has one rule, which leaves open what is to be proved where the part waits,
and the tick has one rule, with an invariant of its loop. They hold for every server that does what
`server` does (`Serves`): for ticks that share their state, for ticks one after the other, and where
a condition leaves out some steps. What must hold after every step (`safe`) reads the history only.
-/

namespace PeHackathon.Watchdog

open Lib

variable {ι M α β : Type} [AddCommMonoid M]

/-- `S` answers as `server` does, at the steps that meet `ok`. -/
structure Serves (S : Server Answer ι Choice World) (ok : ι → Choice → World → Call → Prop) :
    Prop where
  respond : ∀ {i c w q r w'}, S.respond i c w q = some (r, w') →
    w.clock ≤ c.now ∧ ok i c w q ∧ serve c w q = (r, w')
  yields : ∀ {q : Call}, q.waits = false → S.yields q = false

theorem serves_server : Serves (server ι) fun _ _ _ _ => True where
  respond h := by
    simp only [server] at h
    split at h
    · exact ⟨‹_›, trivial, Option.some.inj h⟩
    · exact absurd h (Option.some_ne_none _).symm
  yields h := h

theorem Serves.alone {S : Server Answer ι Choice World} {ok : ι → Choice → World → Call → Prop}
    (h : Serves S ok) : Serves S.alone ok where
  respond := h.respond
  yields _ := rfl

theorem Serves.restrict {S : Server Answer ι Choice World} (h : Serves S fun _ _ _ _ => True)
    (ok : ι → Choice → World → Call → Prop) : Serves (S.restrict ok) ok where
  respond hr := by
    obtain ⟨hok, hr⟩ := Server.restrict_respond.1 hr
    exact ⟨(h.respond hr).1, hok, (h.respond hr).2.2⟩
  yields hq := h.yields hq

/-- What must hold after every step reads the history only. -/
def OfTrace (safe : World → Prop) : Prop := ∀ w w', w'.trace = w.trace → safe w → safe w'

/-- `p` runs inside its weakest precondition. -/
structure Ensures (S : Server Answer ι Choice World) (i : ι) (K : Server.Contract Call M World)
    (p : Tick α) (post : α → M → World → Prop) (m : M) (w : World) : Prop where
  wp : S.wp i K p post m w

section Basic

variable {S : Server Answer ι Choice World} {ok : ι → Choice → World → Call → Prop} {i : ι}
  {K : Server.Contract Call M World} {m : M} {w : World}

theorem Ensures.ret {a : α} {post : α → M → World → Prop} (h : post a m w) :
    Ensures S i K (pure a) post m w := ⟨h⟩

theorem Ensures.mono {p : Tick α} {post post' : α → M → World → Prop}
    (h : Ensures S i K p post m w) (hpost : ∀ a m w, post a m w → post' a m w) :
    Ensures S i K p post' m w := ⟨Server.wp_mono hpost h.wp⟩

theorem Ensures.bind {p : Tick α} {f : α → Tick β} {post : β → M → World → Prop}
    (h : Ensures S i K p (fun a m w => Ensures S i K (f a) post m w) m w) :
    Ensures S i K (p >>= f) post m w :=
  ⟨Server.wp_bind.2 (Server.wp_mono (fun _ _ _ h => h.wp) h.wp)⟩

/-- A step at which nobody else runs. -/
theorem Ensures.sync (hS : Serves S ok) {q : Call} (hy : S.yields q = false)
    {post : Answer q → M → World → Prop}
    (h : ∀ c, w.clock ≤ c.now → ok i c w q →
      K.safe (serve c w q).2 ∧ post (serve c w q).1 m (serve c w q).2) :
    Ensures S i K (step q) post m w := by
  refine ⟨(Server.wp_call_sync hy).2 fun c r w₂ hr => ?_⟩
  obtain ⟨hc, hok, hserve⟩ := hS.respond hr
  have := h c hc hok
  rw [hserve] at this
  exact this

/-- A step at which the tick waits and others may run. -/
theorem Ensures.wait (hS : Serves S ok) {q : Call} (hy : S.yields q = true)
    {post : Answer q → M → World → Prop} (hinv : K.inv (m + K.token q) w)
    (h : ∀ m₁ w₁, K.inv (m₁ + K.token q) w₁ → ∀ c, w₁.clock ≤ c.now → ok i c w₁ q →
      K.safe (serve c w₁ q).2 ∧ post (serve c w₁ q).1 m₁ (serve c w₁ q).2) :
    Ensures S i K (step q) post m w := by
  refine ⟨(Server.wp_call_yield hy).2 ⟨hinv, fun m₁ w₁ hw c r w₂ hr => ?_⟩⟩
  obtain ⟨hc, hok, hserve⟩ := hS.respond hr
  have := h m₁ w₁ hw c hc hok
  rw [hserve] at this
  exact this

theorem Ensures.quiet (hS : Serves S ok) (hK : OfTrace K.safe) {p : Tick α} (hp : IsQuiet p)
    (hw : K.safe w) : Ensures S i K p (fun _ m' w' => m' = m ∧ Same w w' ∧ K.safe w') m w := by
  refine ⟨Server.wp_of_all (fun q hq => hS.yields hq.waits) ?_ hp.all ⟨Same.refl w, hw⟩⟩
  rintro q c w₁ r w₂ hq ⟨hsame, hsafe⟩ hr
  obtain ⟨hc, -, hserve⟩ := hS.respond hr
  have hstep := hq.serve c w₁ hc
  rw [hserve] at hstep
  have := hK _ _ hstep.trace hsafe
  exact ⟨this, hsame.edit hstep, this⟩

/-- A quiet program, then the rest. -/
theorem Ensures.quiet_bind (hS : Serves S ok) (hK : OfTrace K.safe) {p : Tick α} {f : α → Tick β}
    {post : β → M → World → Prop} (hp : IsQuiet p) (hw : K.safe w)
    (h : ∀ a w', Same w w' → K.safe w' → Ensures S i K (f a) post m w') :
    Ensures S i K (p >>= f) post m w :=
  .bind ((Ensures.quiet hS hK hp hw).mono fun a _ w' ⟨hm, hsame, hsafe⟩ => hm ▸ h a w' hsame hsafe)

/-- A quiet program at the end. -/
theorem Ensures.quiet_end (hS : Serves S ok) (hK : OfTrace K.safe) {p : Tick α}
    {post : M → World → Prop} (hp : IsQuiet p) (hw : K.safe w)
    (h : ∀ w', Same w w' → K.safe w' → post m w') :
    Ensures S i K p (fun _ m w => post m w) m w :=
  (Ensures.quiet hS hK hp hw).mono fun _ _ w' ⟨hm, hsame, hsafe⟩ => hm ▸ h w' hsame hsafe

/-- Reading the state, then the rest. -/
theorem Ensures.read_bind (hS : Serves S ok) (hK : OfTrace K.safe)
    {f : WatchdogPersistentState → Tick α} {post : α → M → World → Prop} (hw : K.safe w)
    (h : ∀ w', Same w w' → K.safe w' → Ensures S i K (f w.state) post m w') :
    Ensures S i K (readState >>= f) post m w := by
  refine .bind (Ensures.sync hS (hS.yields rfl) fun c hc _ => ?_)
  have hsame : Same w (serve c w .get).2 := ⟨rfl, rfl, rfl, hc⟩
  have hsafe := hK _ _ hsame.trace hw
  exact ⟨hsafe, h _ hsame hsafe⟩

/-- An update of the state, then the rest. -/
theorem Ensures.update_bind (hS : Serves S ok) (hK : OfTrace K.safe) {β : Type}
    {f : WatchdogPersistentState → WatchdogPersistentState}
    {g : HeartbeatExitLifecycleState → HeartbeatExitLifecycleState}
    {g' : Dict String Nat → Dict String Nat}
    (hf : ∀ s, (f s).heartbeatExitLifecycle = g s.heartbeatExitLifecycle ∧
      (f s).recoverCooldown = g' s.recoverCooldown) {k : Unit → Tick β}
    {post : β → M → World → Prop} (hw : K.safe w)
    (h : ∀ w', Edit g g' w w' → K.safe w' → Ensures S i K (k ()) post m w') :
    Ensures S i K (update f >>= k) post m w := by
  refine .bind (Ensures.sync hS (hS.yields rfl) fun c hc _ => ?_)
  have hedit : Edit g g' w (serve c w (.update f)).2 := ⟨(hf w.state).1, (hf w.state).2, rfl, hc⟩
  have hsafe := hK _ _ hedit.trace hw
  exact ⟨hsafe, h _ hedit hsafe⟩

theorem Ensures.updateLifecycle_bind (hS : Serves S ok) (hK : OfTrace K.safe)
    {f : HeartbeatExitLifecycleState → HeartbeatExitLifecycleState} {k : Unit → Tick β}
    {post : β → M → World → Prop} (hw : K.safe w)
    (h : ∀ w', Edit f id w w' → K.safe w' → Ensures S i K (k ()) post m w') :
    Ensures S i K (updateLifecycle f >>= k) post m w :=
  .update_bind hS hK (fun _ => ⟨rfl, rfl⟩) hw h

theorem Ensures.updateCooldown_bind (hS : Serves S ok) (hK : OfTrace K.safe)
    (f : Dict String Nat → Dict String Nat) {k : Unit → Tick β}
    {post : β → M → World → Prop} (hw : K.safe w)
    (h : ∀ w', Edit id f w w' → K.safe w' → Ensures S i K (k ()) post m w') :
    Ensures S i K (update (fun s => { s with recoverCooldown := f s.recoverCooldown }) >>= k)
      post m w :=
  .update_bind hS hK (fun _ => ⟨rfl, rfl⟩) hw h

/-- A deploy call, before and after its wait. -/
theorem Ensures.deploy (hS : Serves S ok) {site : DeploySite} {environmentId sid : String}
    {post : Option String → M → World → Prop}
    (h : ∀ c, w.clock ≤ c.now → ok i c w (.sendDeploy site environmentId sid) →
      K.safe (w.after c.now [.attempt site sid]) ∧
        Ensures S i K (step (.awaitDeploy site sid)) post m (w.after c.now [.attempt site sid])) :
    Ensures S i K (railwayServiceInstanceDeployLatest site environmentId sid) post m w :=
  .bind (Ensures.sync hS (hS.yields rfl) h)

/-- A deploy call of a tick that runs alone. -/
theorem Ensures.deploy_alone (hS : Serves S ok) (hy : ∀ q, S.yields q = false) {site : DeploySite}
    {environmentId sid : String} {post : Option String → M → World → Prop}
    (h : ∀ t₁ t₂ err, w.clock ≤ t₁ → t₁ ≤ t₂ →
      K.safe (w.after t₁ [.attempt site sid]) ∧
        K.safe ((w.after t₁ [.attempt site sid]).after t₂ [.outcome site sid err.isNone]) ∧
        post err m ((w.after t₁ [.attempt site sid]).after t₂ [.outcome site sid err.isNone])) :
    Ensures S i K (railwayServiceInstanceDeployLatest site environmentId sid) post m w :=
  .deploy hS fun c hc _ => ⟨(h c.now c.now none hc (Nat.le_refl _)).1,
    .sync hS (hy _) fun c' hc' _ => (h c.now c'.now c'.deployError hc hc').2⟩

end Basic

/-! ## The parts -/

theorem cooldownOver_iff {now last cooldown : Nat} :
    cooldownOver now last cooldown = true ↔ last + cooldown ≤ now := by
  unfold cooldownOver
  rw [decide_eq_true_iff]
  omega

/-- The entries after an exit redeploy and its answer. -/
theorem entry_answered {sid : String} {err : Option String} {t₁ t₂ : Nat} {w w₁ w₂ : World}
    (hclear : Edit (clearExitLifecycleRedeemFlag · sid) id w w₁)
    (hend : Edit (match err with
        | none => (clearExitLifecycleForService · sid)
        | some _ => (requeueExitLifecycleRedeem · sid)) id
      ((w₁.after t₁ [.attempt .exitRedeploy sid]).after t₂ [.outcome .exitRedeploy sid err.isNone])
      w₂) (s : String) :
    w₂.lifecycle.entry s = if s = sid then
        { w.lifecycle.entry s with
          fails := if err.isNone then 0 else (w.lifecycle.entry s).fails
          exited := if err.isNone then false else (w.lifecycle.entry s).exited
          redeem := !err.isNone }
      else w.lifecycle.entry s := by
  have hcleared : w₁.lifecycle.entry s = _ :=
    (congrArg (·.entry s) hclear.lifecycle).trans (w.lifecycle.clearFlag_entry _ _)
  have hanswered : w₂.lifecycle = (match err with
    | none => (clearExitLifecycleForService · sid)
    | some _ => (requeueExitLifecycleRedeem · sid)) w₁.lifecycle := hend.lifecycle
  rw [hanswered]
  by_cases hs : s = sid
  · rw [if_pos hs] at hcleared
    cases err <;> simp [HeartbeatExitLifecycleState.clear_entry,
      HeartbeatExitLifecycleState.requeue_entry, ← hs, hcleared]
  · rw [if_neg hs] at hcleared
    cases err <;> simp [HeartbeatExitLifecycleState.clear_entry,
      HeartbeatExitLifecycleState.requeue_entry, hs, hcleared]

/-- The probe of a row has gone into the lifecycle at time `now`. -/
def afterProbe (t : TickLocals) (row : RailwayVisibilityRow) (ok : Bool) (now : Nat) (w : World) :
    World :=
  (w.after now [.probe (probeMark t row w.lifecycle ok)]).setState
    { w.state with
      heartbeatExitLifecycle := (afterTickProbe w.state.heartbeatExitLifecycle
        row.railwayServiceId row.depId t.env row.railwayOnlineStatus ok).1 }

theorem afterProbe_entry (t : TickLocals) (row : RailwayVisibilityRow) (ok : Bool) (now : Nat)
    (w : World) (s : String) : (afterProbe t row ok now w).lifecycle.entry s =
      if s = row.railwayServiceId then
        (w.lifecycle.entry row.railwayServiceId).probed row.depId t.env row.railwayOnlineStatus ok
      else w.lifecycle.entry s :=
  w.lifecycle.probed_entry _ _ _ _ _ _

/-- What the mark says of the entry before the probe. -/
theorem probeMark_becomesExited (t : TickLocals) (row : RailwayVisibilityRow)
    (lifecycle : HeartbeatExitLifecycleState) (ok : Bool) :
    (probeMark t row lifecycle ok).becomesExited =
      (decide (row.railwayOnlineStatus = .online) && !ok &&
        ((lifecycle.entry row.railwayServiceId).sync row.depId).exits t.env) := by
  rw [← show _ = (lifecycle.entry row.railwayServiceId).sync row.depId from
    (lifecycle.sync_entry _ _ _).trans (if_pos rfl)]
  rfl

/-- `post` holds once the probe has gone into the lifecycle. -/
def Probed (K : Server.Contract Call M World) (t : TickLocals) (row : RailwayVisibilityRow)
    (ok : Bool) (post : M → World → Prop) (m : M) (w : World) : Prop :=
  ∀ now, w.clock ≤ now →
    K.safe (afterProbe t row ok now w) ∧ post m (afterProbe t row ok now w)

omit [AddCommMonoid M] in
theorem Probed.stable {K : Server.Contract Call M World} (hK : OfTrace K.safe) {t : TickLocals}
    {row : RailwayVisibilityRow} {ok : Bool} {post : M → World → Prop} {m : M}
    (hpost : Stable (post m)) : Stable (Probed K t row ok post m) := by
  intro w w' h hw now hnow
  obtain ⟨hsafe, hp⟩ := hw now (Nat.le_trans h.clock hnow)
  have hsame : Same (afterProbe t row ok now w) (afterProbe t row ok now w') := by
    have hl : w'.lifecycle = w.lifecycle := h.lifecycle
    refine ⟨?_, h.recoverCooldown, ?_, Nat.le_refl _⟩
    · change (afterTickProbe w'.lifecycle _ _ _ _ ok).1 =
        (afterTickProbe w.lifecycle _ _ _ _ ok).1
      rw [hl]
    · simp only [afterProbe, World.after, World.setState, hl, h.trace]
  exact ⟨hK _ _ hsame.trace hsafe, hpost _ _ hsame hp⟩

/-- A row that is healthy is marked, and its cooldown forgotten. -/
def afterHealthy (row : RailwayVisibilityRow) (now : Nat) (w : World) : World :=
  (w.after now [.healthy row.railwayServiceId]).setState
    { w.state with recoverCooldown := w.state.recoverCooldown.delete row.railwayServiceId }

section Parts

variable {S : Server Answer ι Choice World} {ok : ι → Choice → World → Call → Prop} {i : ι}
  {K : Server.Contract Call M World} {m : M} {w : World} (hS : Serves S ok)
  (hK : OfTrace K.safe) {t : TickLocals} {row : RailwayVisibilityRow} {totals : TickTotals}
  {post : M → World → Prop}

include hS hK

/-- The exit redeploy. -/
theorem ensures_exitRedeploy (hpost : ∀ m, Stable (post m)) (hw : K.safe w)
    (hskip : exitRedeployDue t row w.lifecycle = false → post m w)
    (hgo : exitRedeployDue t row w.lifecycle = true → ∀ w₁,
      Edit (clearExitLifecycleRedeemFlag · row.railwayServiceId) id w w₁ → K.safe w₁ →
      Ensures S i K
        (railwayServiceInstanceDeployLatest .exitRedeploy t.environmentId row.railwayServiceId)
        (fun err m₂ w₂ => K.safe w₂ ∧ ∀ w₃, Edit (match err with
            | none => (clearExitLifecycleForService · row.railwayServiceId)
            | some _ => (requeueExitLifecycleRedeem · row.railwayServiceId)) id w₂ w₃ →
          post m₂ w₃) m w₁) :
    Ensures S i K (exitRedeploy t row totals) (fun _ m w => K.safe w ∧ post m w) m w := by
  unfold exitRedeploy
  refine .read_bind hS hK hw fun w₀ h₀ hw₀ => ?_
  split
  · rename_i hdue
    refine .updateLifecycle_bind hS hK hw₀ fun w₁ h₁ hw₁ => ?_
    refine .quiet_bind hS hK performanceNow_quiet hw₁ fun depT0 w₂ h₂ hw₂ => ?_
    refine .bind ((hgo hdue w₂ (h₀.edit (h₁.same h₂)) hw₂).mono ?_)
    rintro err m₃ w₃ ⟨hw₃, hend⟩
    cases err with
    | none =>
      refine .quiet_bind hS hK (elapsedMs_quiet _) hw₃ fun _ w₄ h₄ hw₄ => ?_
      refine .quiet_bind hS hK (pushActivity_quiet _) hw₄ fun _ w₅ h₅ hw₅ => ?_
      refine .updateLifecycle_bind hS hK hw₅ fun w₆ h₆ hw₆ => ?_
      refine .quiet_bind hS hK dateNow_quiet hw₆ fun _ w₇ h₇ hw₇ => ?_
      refine .quiet_bind hS hK (pushLogLine_quiet _) hw₇ fun _ w₈ h₈ hw₈ => ?_
      exact .ret ⟨hw₈, hend w₈ (Same.edit (h₄.same h₅) ((h₆.same h₇).same h₈))⟩
    | some msg =>
      refine .updateLifecycle_bind hS hK hw₃ fun w₄ h₄ hw₄ => ?_
      refine .quiet_bind hS hK (pushLogLine_quiet _) hw₄ fun _ w₅ h₅ hw₅ => ?_
      exact .ret ⟨hw₅, hend w₅ (h₄.same h₅)⟩
  · rename_i hdue
    exact .ret ⟨hw₀, hpost m _ _ h₀ (hskip (Bool.eq_false_iff.2 hdue))⟩

/-- The recovery by heartbeat, after a failed probe. -/
theorem ensures_heartbeatMissed {ref : Nat} (hpost : ∀ m, Stable (post m)) (hw : K.safe w)
    (hskip : post m w)
    (hgo : ∀ w₁, Same w w₁ → K.safe w₁ → Ensures S i K
      (railwayServiceInstanceDeployLatest .heartbeatRecover t.environmentId row.railwayServiceId)
      (fun _ m₂ w₂ => K.safe w₂ ∧ post m₂ w₂) m w₁) :
    Ensures S i K (heartbeatMissed t row totals ref) (fun _ m w => K.safe w ∧ post m w) m w := by
  unfold heartbeatMissed
  refine .quiet_bind hS hK (updateHeartbeatObject_quiet _ _) hw fun _ w₁ h₁ hw₁ => ?_
  refine .quiet_bind hS hK readState_quiet hw₁ fun s w₂ h₂ hw₂ => ?_
  refine .quiet_bind hS hK (heartbeatCooldownOk_quiet _ _) hw₂ fun cooldownOk w₃ h₃ hw₃ => ?_
  have h₀₃ : Same w w₃ := (h₁.same h₂).same h₃
  split
  · unfold heartbeatRecover
    refine .quiet_bind hS hK performanceNow_quiet hw₃ fun _ w₄ h₄ hw₄ => ?_
    refine .bind ((hgo w₄ (h₀₃.same h₄) hw₄).mono ?_)
    rintro err m₅ w₅ ⟨hw₅, hp₅⟩
    have hquiet : ∀ p : Tick TickTotals, IsQuiet p →
        Ensures S i K p (fun _ m w => K.safe w ∧ post m w) m₅ w₅ := fun p hp =>
      .quiet_end hS hK hp hw₅ fun w' h' hw' => ⟨hw', hpost m₅ _ _ h' hp₅⟩
    cases err with
    | none =>
      refine hquiet _ ((elapsedMs_quiet _).bind fun _ => (pushActivity_quiet _).bind fun _ =>
        (updateHeartbeatObject_quiet _ _).bind fun _ => dateNow_quiet.bind fun _ =>
        IsQuiet.bind ?_ fun _ => dateNow_quiet.bind fun _ => readState_quiet.bind fun _ =>
        (pushLogLine_quiet _).bind fun _ => return_quiet _)
      exact update_quiet fun _ => ⟨rfl, rfl⟩
    | some msg => exact hquiet _ ((pushLogLine_quiet _).bind fun _ => return_quiet _)
  · have hquiet : ∀ p : Tick TickTotals, IsQuiet p →
        Ensures S i K p (fun _ m w => K.safe w ∧ post m w) m w₃ := fun p hp =>
      .quiet_end hS hK hp hw₃ fun w' h' hw' => ⟨hw', hpost m _ _ (h₀₃.same h') hskip⟩
    split
    · exact hquiet _ ((updateHeartbeatObject_quiet _ _).bind fun _ => dateNow_quiet.bind fun _ =>
        (pushLogLine_quiet _).bind fun _ => return_quiet _)
    · split
      · exact hquiet _ ((updateHeartbeatObject_quiet _ _).bind fun _ =>
          (pushLogLine_quiet _).bind fun _ => return_quiet _)
      · exact hquiet _ (return_quiet _)

/-- What a probe means for the recovery by heartbeat. -/
theorem ensures_heartbeatAnswered {ref : Nat} {pr : PingResult} (hpost : ∀ m, Stable (post m))
    (hw : K.safe w) (hskip : post m w)
    (hgo : heartbeatRecoverDue t row = true → ∀ w₁, Same w w₁ → K.safe w₁ → Ensures S i K
      (railwayServiceInstanceDeployLatest .heartbeatRecover t.environmentId row.railwayServiceId)
      (fun _ m₂ w₂ => K.safe w₂ ∧ post m₂ w₂) m w₁) :
    Ensures S i K (heartbeatAnswered t row totals ref pr)
      (fun _ m w => K.safe w ∧ post m w) m w := by
  have hquiet : ∀ p : Tick TickTotals, IsQuiet p →
      Ensures S i K p (fun _ m w => K.safe w ∧ post m w) m w := fun p hp =>
    .quiet_end hS hK hp hw fun w' h' hw' => ⟨hw', hpost m _ _ h' hskip⟩
  unfold heartbeatAnswered
  split
  · exact hquiet _ ((updateHeartbeatObject_quiet _ _).bind fun _ => return_quiet _)
  · split
    · exact ensures_heartbeatMissed hS hK hpost hw hskip (hgo ‹_›)
    · split
      · exact hquiet _ ((updateHeartbeatObject_quiet _ _).bind fun _ => return_quiet _)
      · exact hquiet _ (return_quiet _)

/-- The heartbeat of a row. -/
theorem ensures_heartbeat (hpost : ∀ m, Stable (post m)) (hw : K.safe w)
    (hskip : row.probedAt t.env = none → post m w)
    (hgo : ∀ probeUrl, row.probedAt t.env = some probeUrl → ∀ w₁, Same w w₁ → K.safe w₁ →
      Ensures S i K (pingHeartbeatUrl probeUrl)
        (fun pr m₂ w₂ => K.safe w₂ ∧ Probed K t row pr.ok post m₂ w₂ ∧
          (heartbeatRecoverDue t row = true → ∀ w₃, Same w₂ w₃ → K.safe w₃ → Ensures S i K
            (railwayServiceInstanceDeployLatest .heartbeatRecover t.environmentId
              row.railwayServiceId)
            (fun _ m₄ w₄ => K.safe w₄ ∧ Probed K t row pr.ok post m₄ w₄) m₂ w₃)) m w₁) :
    Ensures S i K (heartbeat t row totals) (fun _ m w => K.safe w ∧ post m w) m w := by
  unfold heartbeat
  refine .quiet_bind hS hK (heartbeatObject_quiet row) hw fun ref w₁ h₁ hw₁ => ?_
  cases hurl : row.probedAt t.env with
  | none =>
    have hend : ∀ w', Same w₁ w' → K.safe w' → K.safe w' ∧ post m w' := fun w' h' hw' =>
      ⟨hw', hpost m _ _ (h₁.same h') (hskip hurl)⟩
    simp only
    split
    · exact .quiet_end hS hK (heartbeatSkipped_quiet t row totals) hw₁ hend
    · exact .ret (hend w₁ (.refl _) hw₁)
  | some probeUrl =>
    refine .quiet_bind hS hK performanceNow_quiet hw₁ fun _ w₂ h₂ hw₂ => ?_
    refine .bind ((hgo probeUrl hurl w₂ (h₁.same h₂) hw₂).mono ?_)
    rintro pr m₃ w₃ ⟨hw₃, hprobed, hrecover⟩
    refine .quiet_bind hS hK (elapsedMs_quiet _) hw₃ fun _ w₄ h₄ hw₄ => ?_
    refine .quiet_bind hS hK (pushActivity_quiet _) hw₄ fun _ w₅ h₅ hw₅ => ?_
    have hstable : ∀ m, Stable (Probed K t row pr.ok post m) := fun m =>
      Probed.stable hK (hpost m)
    have h₃₅ : Same w₃ w₅ := h₄.same h₅
    refine .bind ((ensures_heartbeatAnswered hS hK hstable hw₅ (hstable _ _ _ h₃₅ hprobed)
      fun hdue w₆ h₆ => hrecover hdue w₆ (h₃₅.same h₆)).mono ?_)
    rintro _ m₇ w₇ ⟨hw₇, hp₇⟩
    refine .bind (Ensures.sync hS (hS.yields rfl) fun c hc _ => ?_)
    obtain ⟨hw₈, hp₈⟩ := hp₇ c.now hc
    refine ⟨hw₈, .quiet_end hS hK (IsQuiet.bind ?_ fun _ => return_quiet _) hw₈
      fun w' h' hw' => ⟨hw', hpost _ _ _ h' hp₈⟩⟩
    exact update_quiet fun _ => ⟨rfl, rfl⟩

omit hK in
/-- A healthy row forgets the cooldown. -/
theorem ensures_forgetCooldown (hw : K.safe w) (hskip : isHealthy row.cur = false → post m w)
    (hgo : isHealthy row.cur = true → ∀ now, w.clock ≤ now →
      K.safe (afterHealthy row now w) ∧ post m (afterHealthy row now w)) :
    Ensures S i K (forgetCooldown row) (fun _ m w => K.safe w ∧ post m w) m w := by
  unfold forgetCooldown
  split
  · rename_i hh
    refine Ensures.sync hS (hS.yields rfl) fun c hc _ => ?_
    obtain ⟨hsafe, hp⟩ := hgo hh c.now hc
    exact ⟨hsafe, hsafe, hp⟩
  · rename_i hh
    exact .ret ⟨hw, hskip (Bool.eq_false_iff.2 hh)⟩

/-- The redeploy of a crashed service. A successful answer starts its cooldown. -/
theorem ensures_autoRedeploy (hpost : ∀ m, Stable (post m)) (hw : K.safe w)
    (hgo : ∀ w₁, Same w w₁ → K.safe w₁ → Ensures S i K
      (railwayServiceInstanceDeployLatest .autoRecover t.environmentId row.railwayServiceId)
      (fun err m₂ w₂ => K.safe w₂ ∧ match err with
        | none => ∀ now, w₂.clock ≤ now → ∀ w₃, Edit id (·.set row.railwayServiceId now) w₂ w₃ →
          now ≤ w₃.clock → post m₂ w₃
        | some _ => post m₂ w₂) m w₁) :
    Ensures S i K (autoRedeploy t row totals) (fun _ m w => K.safe w ∧ post m w) m w := by
  unfold autoRedeploy
  refine .quiet_bind hS hK performanceNow_quiet hw fun _ w₁ h₁ hw₁ => ?_
  refine .bind ((hgo w₁ h₁ hw₁).mono ?_)
  rintro err m₂ w₂ ⟨hw₂, hend⟩
  cases err with
  | none =>
    refine .quiet_bind hS hK (elapsedMs_quiet _) hw₂ fun _ w₃ h₃ hw₃ => ?_
    refine .quiet_bind hS hK (pushActivity_quiet _) hw₃ fun _ w₄ h₄ hw₄ => ?_
    refine .bind (Ensures.sync hS (hS.yields rfl) fun c hc _ => ?_)
    have h₅ : Same w₄ (serve c w₄ .dateNow).2 := ⟨rfl, rfl, rfl, hc⟩
    have hw₅ := hK _ _ h₅.trace hw₄
    refine ⟨hw₅, .updateCooldown_bind hS hK (·.set row.railwayServiceId c.now) hw₅
      fun w₆ h₆ hw₆ => ?_⟩
    refine .quiet_end hS hK (dateNow_quiet.bind fun _ => (pushLogLine_quiet _).bind fun _ =>
      return_quiet _) hw₆ fun w₇ h₇ hw₇ => ⟨hw₇, ?_⟩
    have h₂₄ : Same w₂ w₄ := h₃.same h₄
    have h₆₇ : Edit id (·.set row.railwayServiceId c.now) w₂ w₇ :=
      Same.edit (h₂₄.same h₅) (h₆.same h₇)
    exact hend c.now (Nat.le_trans h₂₄.clock hc) w₇ h₆₇ (Nat.le_trans h₆.clock h₇.clock)
  | some msg =>
    exact .quiet_end hS hK ((pushLogLine_quiet _).bind fun _ => return_quiet _) hw₂
      fun w' h' hw' => ⟨hw', hpost _ _ _ h' hend⟩

/-- The auto-recovery of a row. -/
theorem ensures_autoRecover (hpost : ∀ m, Stable (post m)) (hw : K.safe w) (hskip : post m w)
    (hgo : t.autoRecover = true → needsAutoRecoverTrigger row.cur = true → ∀ w₁, Same w w₁ →
      (∀ last, w₁.recoverCooldown.get row.railwayServiceId = some last →
        last + RECOVER_COOLDOWN_MS ≤ w₁.clock) → K.safe w₁ → Ensures S i K
      (railwayServiceInstanceDeployLatest .autoRecover t.environmentId row.railwayServiceId)
      (fun err m₂ w₂ => K.safe w₂ ∧ match err with
        | none => ∀ now, w₂.clock ≤ now → ∀ w₃, Edit id (·.set row.railwayServiceId now) w₂ w₃ →
          now ≤ w₃.clock → post m₂ w₃
        | some _ => post m₂ w₂) m w₁) :
    Ensures S i K (autoRecover t row totals) (fun _ m w => K.safe w ∧ post m w) m w := by
  unfold autoRecover
  split
  · rename_i hdue
    obtain ⟨⟨hauto, hneeds⟩, -⟩ : (t.autoRecover = true ∧ needsAutoRecoverTrigger row.cur = true) ∧
        _ := by simpa only [Bool.and_eq_true] using hdue
    refine .read_bind hS hK hw fun w₁ h₁ hw₁ => ?_
    cases hlast : w.state.recoverCooldown.get row.railwayServiceId with
    | none =>
      refine ensures_autoRedeploy hS hK hpost hw₁ fun w₂ h₂ hw₂ =>
        hgo hauto hneeds w₂ (h₁.same h₂) (fun last hl => ?_) hw₂
      have hnone : w₂.recoverCooldown = w.recoverCooldown := (h₁.same h₂).recoverCooldown
      rw [hnone] at hl
      exact absurd (hl.symm.trans hlast) (Option.some_ne_none last)
    | some lastAttempt =>
      refine .bind (Ensures.sync hS (hS.yields rfl) fun c hc _ => ?_)
      have h₂ : Same w₁ (serve c w₁ .dateNow).2 := ⟨rfl, rfl, rfl, hc⟩
      have hw₂ := hK _ _ h₂.trace hw₁
      refine ⟨hw₂, ?_⟩
      have h₀₂ : Same w _ := h₁.same h₂
      split
      · rename_i hover
        refine ensures_autoRedeploy hS hK hpost hw₂ fun w₃ h₃ hw₃ =>
          hgo hauto hneeds w₃ (h₀₂.same h₃) (fun last hl => ?_) hw₃
        have hsome : w₃.recoverCooldown = w.recoverCooldown := (h₀₂.same h₃).recoverCooldown
        rw [hsome] at hl
        cases Option.some.inj (hl.symm.trans hlast)
        exact Nat.le_trans (cooldownOver_iff.1 hover) h₃.clock
      · exact .ret ⟨hw₂, hpost m _ _ h₀₂ hskip⟩
  · exact .ret ⟨hw, hskip⟩

/-- **A row**: its parts one after the other. -/
theorem ensures_processRow (after₁ after₂ after₃ after₄ : M → World → Prop)
    (hpost : ∀ m, Stable (post m)) (h₁stable : ∀ m, Stable (after₁ m))
    (h₀ : ∀ c, w.clock ≤ c.now → ok i c w (.takeUp t.env row) →
      K.safe (w.after c.now [.row t.env row]) ∧ after₁ m (w.after c.now [.row t.env row]))
    (h₁ : ∀ m w, K.safe w → after₁ m w →
      Ensures S i K (exitRedeploy t row totals) (fun _ m w => K.safe w ∧ after₂ m w) m w)
    (h₂ : ∀ totals m w, K.safe w → after₂ m w →
      Ensures S i K (heartbeat t row totals) (fun _ m w => K.safe w ∧ after₃ m w) m w)
    (h₃ : ∀ m w, K.safe w → after₃ m w →
      Ensures S i K (forgetCooldown row) (fun _ m w => K.safe w ∧ after₄ m w) m w)
    (h₄ : ∀ totals m w, K.safe w → after₄ m w →
      Ensures S i K (autoRecover t row totals) (fun _ m w => K.safe w ∧ post m w) m w) :
    Ensures S i K (processRow t row totals) (fun _ m w => K.safe w ∧ post m w) m w := by
  unfold processRow
  refine .bind (Ensures.sync hS (hS.yields rfl) fun c hc hok => ⟨(h₀ c hc hok).1, ?_⟩)
  obtain ⟨hw₁, ha₁⟩ := h₀ c hc hok
  refine .quiet_bind hS hK readState_quiet hw₁ fun s w₂ hs₂ hw₂ => ?_
  refine .bind ((h₁ m w₂ hw₂ (h₁stable m _ _ hs₂ ha₁)).mono fun totals m₃ w₃ ⟨hw₃, ha₃⟩ => ?_)
  refine .bind ((h₂ totals m₃ w₃ hw₃ ha₃).mono fun totals m₄ w₄ ⟨hw₄, ha₄⟩ => ?_)
  refine .bind ((h₃ m₄ w₄ hw₄ ha₄).mono fun _ m₅ w₅ ⟨hw₅, ha₅⟩ => ?_)
  refine .bind ((h₄ totals m₅ w₅ hw₅ ha₅).mono fun totals m₆ w₆ ⟨hw₆, ha₆⟩ => ?_)
  refine .quiet_end hS hK ((rowEvents_quiet t row totals _).bind fun _ =>
    IsQuiet.bind ?_ fun _ => return_quiet _) hw₆ fun w' h' hw' => ⟨hw', hpost _ _ _ h' ha₆⟩
  exact update_quiet fun _ => ⟨rfl, rfl⟩

/-- **The tick**: `loop` holds of the rows of the poll, those that are done, and the world. -/
theorem ensures_runRailwayWatchdogTick {env : Environment}
    (loop : List RailwayVisibilityRow → List RailwayVisibilityRow → M → World → Prop)
    (hloop : ∀ rows done m, Stable (loop rows done m)) (hpost : ∀ m, Stable (post m))
    (hw : K.safe w)
    (hfetch : ∀ w₁, Same w w₁ → K.safe w₁ → Ensures S i K fetchRailwayVisibilityRows
      (fun rows m₂ w₂ => K.safe w₂ ∧ ((∃ error, rows.errorText = some error) → post m₂ w₂) ∧
        (rows.errorText = none → loop rows.containers [] m₂ w₂)) m w₁)
    (hrow : ∀ now rows done row rest, rows = done ++ row :: rest → ∀ totals m w, K.safe w →
      loop rows done m w → Ensures S i K (processRow (.of env now) row totals)
        (fun _ m w => K.safe w ∧ loop rows (done ++ [row]) m w) m w)
    (hend : ∀ rows m w, loop rows rows m w → post m w) :
    Ensures S i K (runRailwayWatchdogTick env) (fun _ m w => post m w) m w := by
  unfold runRailwayWatchdogTick
  have hpoll : Ensures S i K pollRows (fun rows m₂ w₂ => K.safe w₂ ∧
      ((∃ error, rows.errorText = some error) → post m₂ w₂) ∧
        (rows.errorText = none → loop rows.containers [] m₂ w₂)) m w := by
    unfold pollRows
    refine .quiet_bind hS hK performanceNow_quiet hw fun _ w₁ h₁ hw₁ => ?_
    refine .bind ((hfetch w₁ h₁ hw₁).mono ?_)
    rintro rows m₂ w₂ ⟨hw₂, herror, hrows⟩
    refine .quiet_bind hS hK (elapsedMs_quiet _) hw₂ fun _ w₃ h₃ hw₃ => ?_
    refine .quiet_bind hS hK (pushActivity_quiet _) hw₃ fun _ w₄ h₄ hw₄ => ?_
    exact .ret ⟨hw₄, fun he => hpost _ _ _ (h₃.same h₄) (herror he),
      fun he => hloop _ _ _ _ _ (h₃.same h₄) (hrows he)⟩
  refine .bind (hpoll.mono ?_)
  rintro rows m₂ w₂ ⟨hw₂, herror, hrows⟩
  cases he : rows.errorText with
  | some error =>
    exact .quiet_end hS hK (failTick_quiet env error) hw₂
      fun w' h' _ => hpost _ _ _ h' (herror ⟨error, he⟩)
  | none =>
    refine .quiet_bind hS hK isoNow_quiet hw₂ fun now w₃ h₃ hw₃ => ?_
    have hfold : Ensures S i K (rows.containers.foldlM
        (fun totals row => processRow (.of env now) row totals) TickTotals.zero)
        (fun _ m w => K.safe w ∧ loop rows.containers rows.containers m w) m₂ w₃ :=
      ⟨Server.wp_foldlM (J := fun done _ m w => K.safe w ∧ loop rows.containers done m w)
        rows.containers (fun done row rest totals m w hl h =>
          (hrow now rows.containers done row rest hl totals m w h.1 h.2).wp)
        ⟨hw₃, hloop _ _ _ _ _ h₃ (hrows he)⟩⟩
    refine .bind (hfold.mono ?_)
    rintro totals m₄ w₄ ⟨hw₄, hl₄⟩
    exact .quiet_end hS hK (finishTick_quiet env now rows.containers totals) hw₄
      fun w' h' _ => hpost _ _ _ h' (hend _ _ _ hl₄)

end Parts

/-! ## Runs of ticks -/

section Runs

variable [DecidableEq ι] [Fintype ι] {S : Server Answer ι Choice World}
  {ok : ι → Choice → World → Call → Prop} {K : Server.Contract Call M World} {env : ι → Environment}
  {w₀ : World} {P : Pool Answer ι World WatchdogPayload → ι → Choice → Prop}
  {p : Pool Answer ι World WatchdogPayload}

/-- The ticks of a run before any has begun. -/
def ticks (env : ι → Environment) (w₀ : World) : Pool Answer ι World WatchdogPayload :=
  .init (fun i => runRailwayWatchdogTick (env i)) w₀

omit [DecidableEq ι] [Fintype ι] in
/-- A tick does not begin with a wait. -/
theorem heldToken_tick (hS : Serves S ok) (env : Environment) :
    S.heldToken K (runRailwayWatchdogTick env) = 0 :=
  if_neg (by rw [hS.yields rfl]; exact Bool.false_ne_true)

/-- **A run of ticks** each of which keeps the contract, whatever the others do. -/
theorem ticks_kept (hS : Serves S ok) (hinv : K.inv 0 w₀) (hsafe : ∀ m w, K.inv m w → K.safe w)
    (htick : ∀ i m w, K.inv m w →
      Ensures S i K (runRailwayWatchdogTick (env i)) (fun _ => K.inv) m w)
    (h : Pool.Steps S P (ticks env w₀) p) : Pool.Kept S K p := by
  refine h.kept ?_ (hsafe _ _ hinv) fun i m w hm => ?_
  · simp only [heldToken_tick hS, Finset.sum_const_zero]
    exact hinv
  · rw [heldToken_tick hS, add_zero] at hm
    exact (htick i m w hm).wp

end Runs

/-! ## Sample data -/

/-- Everything on by default. -/
def sampleEnv : Environment where
  proc := none
  process := [("RAILWAY_ENVIRONMENT_ID", "production")]

/-- The row of one service. -/
def sampleRow (status deployment : String) : RailwayVisibilityRow :=
  visibilityRow "svc" "dashboard"
    (some { id := deployment, status := some status, url := some "d.up.railway.app",
            staticUrl := none })

/-- Time stands still at `now`, the poll answers `rows`, probes answer `ok`, and deploys fail with
`deployError`. -/
def sampleChoice (now : Nat) (rows : List RailwayVisibilityRow) (ok : Bool)
    (deployError : Option String) : Choice where
  now := now
  iso := "2026-01-01T00:00:00.000Z"
  micros := 0
  rows := { containers := rows, error := none }
  ping := { ok := ok, statusCode := none, latencyMs := 5, error := none }
  deployError := deployError

/-- `n` steps of tick `i`. -/
def stretch {ι : Type} (n : Nat) (i : ι) (c : Choice) : List (ι × Choice) := List.replicate n (i, c)

end PeHackathon.Watchdog
