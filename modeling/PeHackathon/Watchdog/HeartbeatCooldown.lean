import PeHackathon.Watchdog.RecoverBudget

/-!
# The cooldown of the heartbeat recovery

Ticks one after the other on a clock that does not go back. A redeploy of a service by its heartbeat
begins `RAILWAY_HEARTBEAT_RECOVER_COOLDOWN_MS` after the last that succeeded, as long as no poll
leaves the service out while its cooldown runs: the tick then forgets when it was.
`recoveries_spaced` has the condition, `recoveries_not_spaced` a run in which a service is missing
from one poll.
-/

namespace PeHackathon.Watchdog

open Lib

/-! ## Ticks on a clock -/

/-- The tick ran like this, on a clock that does not go back. -/
def TickRecord.Steady (r : TickRecord) : Prop :=
  ∃ w, (server Unit).Runs () pollRows r.before r.rows w ∧
    (server Unit).Runs () (afterPoll r.env r.rows) w r.payload r.after

/-- A run of ticks, oldest first. -/
inductive SteadyRun : World → List TickRecord → World → Prop
  | nil (w : World) : SteadyRun w [] w
  | cons {r : TickRecord} {recs : List TickRecord} {w : World} (hr : r.Steady)
      (h : SteadyRun r.after recs w) : SteadyRun r.before (r :: recs) w

/-- A redeploy of `sid` by its heartbeat begins `cooldown` after each that has succeeded. -/
def RecoveriesSpaced (sid : String) (cooldown : Nat) (trace : List Mark) : Prop :=
  trace.Pairwise fun mark done => mark.attempts .heartbeatRecover sid = true →
    done.recovers sid = true →
    done.time + cooldown ≤ mark.time

instance (sid : String) (cooldown : Nat) (trace : List Mark) :
    Decidable (RecoveriesSpaced sid cooldown trace) :=
  inferInstanceAs (Decidable (trace.Pairwise _))

/-- The poll failed, or it lists the service, or no cooldown of the service runs when the tick
ends. -/
def TickRecord.KeepsCooldown (r : TickRecord) (sid : String) : Prop :=
  r.rows.errorText ≠ none ∨ sid ∈ r.ids ∨
    ∀ last ∈ r.before.state.heartbeatLastRecoverAt.get sid,
      last + heartbeatRecoverCooldownMs r.env ≤ r.after.clock

instance (r : TickRecord) (sid : String) : Decidable (r.KeepsCooldown sid) :=
  inferInstanceAs (Decidable (_ ∨ _ ∨ _))

section

variable {α : Type} {p : Tick α} {a : α} {c : Choice} {q : Call} {answer : Answer q} {w w' : World}

theorem serve_clock (c : Choice) (w : World) (q : Call) : (serve c w q).2.clock = c.now := by
  cases q <;> rfl

/-- A step on the clock. -/
theorem steady_cases (h : (server Unit).respond () c w q = some (answer, w')) :
    w.clock ≤ c.now ∧ serve c w q = (answer, w') := by
  change (if w.clock ≤ c.now then some (serve c w q) else none) = _ at h
  split at h
  · exact ⟨‹_›, Option.some.inj h⟩
  · cases h

theorem steady_solo (h : (server Unit).Runs () p w a w') : solo.Runs () p w a w' :=
  h.map id fun c _ _ _ _ hr => ⟨c, congrArg some (steady_cases hr).2⟩

theorem steady_clock (h : (server Unit).Runs () p w a w') : w.clock ≤ w'.clock := by
  induction h with
  | ret a w => exact Nat.le_refl _
  | @call q k c w w₁ w' answer a hr _ ih =>
    obtain ⟨hc, hserve⟩ := steady_cases hr
    have hclock := serve_clock c w q
    rw [hserve] at hclock
    exact hc.trans (hclock.ge.trans ih)

end

/-! ## What does not matter -/

/-- The mark begins a redeploy of `sid` by its heartbeat, or ends it with success. -/
def Mark.Concerns (mark : Mark) (sid : String) : Prop :=
  mark.attempts .heartbeatRecover sid = true ∨ mark.recovers sid = true

theorem Mark.Concerns.service {mark : Mark} {sid : String} (h : mark.Concerns sid) :
    mark.kind.service? = some sid := by
  rcases h with h | h
  · rw [Mark.attempts_iff.1 h]
    rfl
  · unfold Mark.recovers at h
    split at h
    · rename_i sid' ok hk
      rw [hk, ← (of_decide_eq_true h).1]
      rfl
    · cases h

/-- From `w` to `w'` nothing is recorded of the heartbeat recovery of `sid`, and its last time is as
it was. -/
structure Idle (sid : String) (w w' : World) : Prop where
  last : w'.state.heartbeatLastRecoverAt.get sid = w.state.heartbeatLastRecoverAt.get sid
  trace : ∃ marks, w'.trace = marks ++ w.trace ∧ ∀ mark ∈ marks, ¬ mark.Concerns sid
  clock : w.clock ≤ w'.clock

/-- The call leaves the heartbeat recovery of `sid` idle. -/
def IdleCall (sid : String) (q : Call) : Prop :=
  ∀ c w, w.clock ≤ c.now → Idle sid w (serve c w q).2

section

variable {sid sid' : String} {w w' w'' : World} {α : Type} {p : Tick α} {ψ : α → Prop}
  {P : World → Prop} {q : Call}

theorem Idle.trans (h : Idle sid w w') (h' : Idle sid w' w'') : Idle sid w w'' := by
  obtain ⟨marks, htrace, hmarks⟩ := h.trace
  obtain ⟨marks', htrace', hmarks'⟩ := h'.trace
  refine ⟨h'.last.trans h.last, ⟨marks' ++ marks, ?_, ?_⟩, h.clock.trans h'.clock⟩
  · rw [htrace', htrace, List.append_assoc]
  · intro mark hmark
    rcases List.mem_append.1 hmark with hmark | hmark
    · exact hmarks' mark hmark
    · exact hmarks mark hmark

theorem LogsOnly.idle (h : LogsOnly w w') (hclock : w.clock ≤ w'.clock) : Idle sid w w' :=
  ⟨by rw [h.state], ⟨[], h.trace, fun _ hm => absurd hm List.not_mem_nil⟩, hclock⟩

/-- A call that makes at most one mark, which does not matter, and keeps the last time. -/
theorem IdleCall.of_marks (marks : Choice → World → List MarkKind)
    (htrace : ∀ c w, (serve c w q).2.trace = (marks c w).map (Mark.mk c.now) ++ w.trace)
    (hmarks : ∀ c w, ∀ kind ∈ marks c w, ¬ (Mark.mk c.now kind).Concerns sid)
    (hlast : ∀ c w, (serve c w q).2.state.heartbeatLastRecoverAt.get sid =
      w.state.heartbeatLastRecoverAt.get sid) : IdleCall sid q := by
  intro c w hc
  refine ⟨hlast c w, ⟨_, htrace c w, fun mark hmark => ?_⟩, (serve_clock c w q).ge.trans' hc⟩
  obtain ⟨kind, hkind, rfl⟩ := List.mem_map.1 hmark
  exact hmarks c w kind hkind

/-- A call without marks. -/
theorem IdleCall.silent (htrace : ∀ c w, (serve c w q).2.trace = w.trace)
    (hlast : ∀ c w, (serve c w q).2.state.heartbeatLastRecoverAt.get sid =
      w.state.heartbeatLastRecoverAt.get sid) : IdleCall sid q :=
  .of_marks (fun _ _ => []) htrace (fun _ _ _ h => absurd h List.not_mem_nil) hlast

theorem idle_get : IdleCall sid .get := .silent (fun _ _ => rfl) fun _ _ => rfl

theorem idle_update {f : WatchdogPersistentState → WatchdogPersistentState}
    (hf : ∀ s, (f s).heartbeatLastRecoverAt.get sid = s.heartbeatLastRecoverAt.get sid) :
    IdleCall sid (.update f) := .silent (fun _ _ => rfl) fun _ w => hf w.state

theorem OutsideHeartbeat.idle (h : OutsideHeartbeat sid' q) : IdleCall sid q := by
  cases h with
  | log f hf => exact idle_update fun s => by rw [hf s]
  | clearFlag | clearService | requeue | cooldown => exact idle_update fun _ => rfl
  | dateNow | isoNow | performanceNow => exact .silent (fun _ _ => rfl) fun _ _ => rfl
  | healthy =>
    refine .of_marks (fun _ _ => [.healthy sid']) (fun _ _ => rfl) ?_ fun _ _ => rfl
    rintro c w kind hk (h | h) <;> cases List.mem_singleton.1 hk <;> cases h
  | @sendDeploy site _ hsite =>
    refine .of_marks (fun _ _ => [.attempt site sid']) (fun _ _ => rfl) ?_ fun _ _ => rfl
    rintro c w kind hk (h | h)
    · cases List.mem_singleton.1 hk
      cases Mark.attempts_iff.1 h
      exact hsite rfl
    · cases List.mem_singleton.1 hk
      cases h
  | @awaitDeploy site hsite =>
    refine .of_marks (fun c _ => [.outcome site sid' c.deployError.isNone]) (fun _ _ => rfl)
      ?_ fun _ _ => rfl
    rintro c w kind hk (h | h)
    · cases List.mem_singleton.1 hk
      cases h
    · cases List.mem_singleton.1 hk
      cases site with
      | heartbeatRecover => exact hsite rfl
      | exitRedeploy | autoRecover => cases h

/-- What idle steps keep, a program of idle calls keeps. -/
theorem Idle.triple (hP : ∀ w w', Idle sid w w' → P w → P w') (hp : p.Obeys (IdleCall sid) ψ) :
    (server Unit).Triple () P p fun _ => P := by
  refine .mono (.of_obeys (fun q c w r w' hq hw hr => ?_) hp) (fun _ h => h) fun _ _ h => h.2
  obtain ⟨hc, hserve⟩ := steady_cases hr
  have hidle := hq c w hc
  rw [hserve] at hidle
  exact hP _ _ hidle hw

end

/-! ## The recovery of a row -/

/-- The redeploys so far are spaced, and the successes are in the past. -/
structure Recovered (sid : String) (cooldown : Nat) (w : World) : Prop where
  spaced : RecoveriesSpaced sid cooldown w.trace
  past : ∀ done ∈ w.trace, done.recovers sid = true → done.time ≤ w.clock

/-- And the last time covers every success whose cooldown is not over. -/
structure Cooling (sid : String) (cooldown : Nat) (w : World) :
    Prop extends Recovered sid cooldown w where
  covered : ∀ done ∈ w.trace, done.recovers sid = true →
    (∃ last, w.state.heartbeatLastRecoverAt.get sid = some last ∧ done.time ≤ last) ∨
      done.time + cooldown ≤ w.clock

/-- And no cooldown runs. -/
structure Ready (sid : String) (cooldown : Nat) (w : World) :
    Prop extends Cooling sid cooldown w where
  elapsed : ∀ done ∈ w.trace, done.recovers sid = true → done.time + cooldown ≤ w.clock

section

variable {sid : String} {cooldown : Nat} {w w' : World}

/-- The successes are those before the idle steps. -/
theorem Idle.success (h : Idle sid w w') {done : Mark} (hdone : done ∈ w'.trace)
    (hrec : done.recovers sid = true) :
    done ∈ w.trace := by
  obtain ⟨marks, htrace, hmarks⟩ := h.trace
  rw [htrace] at hdone
  rcases List.mem_append.1 hdone with hdone | hdone
  · exact absurd (.inr hrec) (hmarks done hdone)
  · exact hdone

theorem Idle.spaced (h : Idle sid w w') (hs : RecoveriesSpaced sid cooldown w.trace) :
    RecoveriesSpaced sid cooldown w'.trace := by
  obtain ⟨marks, htrace, hmarks⟩ := h.trace
  rw [htrace]
  clear htrace
  induction marks with
  | nil => exact hs
  | cons mark marks ih =>
    refine .cons (fun _ _ hattempt => absurd (.inl hattempt) (hmarks mark List.mem_cons_self)) ?_
    exact ih fun mark hmark => hmarks mark (List.mem_cons_of_mem _ hmark)

theorem Recovered.idle (hw : Recovered sid cooldown w) (h : Idle sid w w') :
    Recovered sid cooldown w' where
  spaced := h.spaced hw.spaced
  past done hdone hrec := (hw.past done (h.success hdone hrec) hrec).trans h.clock

theorem Cooling.idle (hw : Cooling sid cooldown w) (h : Idle sid w w') :
    Cooling sid cooldown w' where
  toRecovered := hw.toRecovered.idle h
  covered done hdone hrec := by
    rw [h.last]
    exact (hw.covered done (h.success hdone hrec) hrec).imp id fun hover => hover.trans h.clock

theorem Ready.idle (hw : Ready sid cooldown w) (h : Idle sid w w') : Ready sid cooldown w' where
  toCooling := hw.toCooling.idle h
  elapsed done hdone hrec := (hw.elapsed done (h.success hdone hrec) hrec).trans h.clock

variable {α : Type} {p : Tick α} {ψ : α → Prop}

theorem Recovered.triple (hp : p.Obeys (IdleCall sid) ψ) :
    (server Unit).Triple () (Recovered sid cooldown) p fun _ => Recovered sid cooldown :=
  Idle.triple (fun _ _ h hw => hw.idle h) hp

theorem Cooling.triple (hp : p.Obeys (IdleCall sid) ψ) :
    (server Unit).Triple () (Cooling sid cooldown) p fun _ => Cooling sid cooldown :=
  Idle.triple (fun _ _ h hw => hw.idle h) hp

theorem Ready.triple (hp : p.Obeys (IdleCall sid) ψ) :
    (server Unit).Triple () (Ready sid cooldown) p fun _ => Ready sid cooldown :=
  Idle.triple (fun _ _ h hw => hw.idle h) hp

theorem idle_outside (hp : p.Obeys (OutsideHeartbeat sid) ψ) : p.Obeys (IdleCall sid) ψ :=
  hp.mono (fun _ h => h.idle) fun _ h => h

theorem idle_orGet (hp : p.Obeys (OrGet (OutsideHeartbeat sid)) ψ) : p.Obeys (IdleCall sid) ψ := by
  refine hp.mono (fun q h => ?_) fun _ h => h
  rcases h with rfl | h
  · exact idle_get
  · exact h.idle

theorem idle_stateUpdate (f : WatchdogPersistentState → WatchdogPersistentState)
    (hf : ∀ s, (f s).heartbeatLastRecoverAt.get sid = s.heartbeatLastRecoverAt.get sid) :
    (update f).Obeys (IdleCall sid) fun _ => True := .perform (idle_update hf)

theorem idle_readState : readState.Obeys (IdleCall sid) fun _ => True := .perform idle_get

theorem idle_object (ref : Nat) (f : HeartbeatRecoverState → HeartbeatRecoverState) :
    (updateHeartbeatObject ref f).Obeys (IdleCall sid) fun _ => True :=
  idle_stateUpdate _ fun _ => rfl

variable {t : TickLocals} {row : RailwayVisibilityRow} {totals : TickTotals} {ref : Nat}

/-- A redeploy begins where no cooldown runs. -/
theorem recover_deploy (environmentId : String) :
    (server Unit).Triple () (Ready sid cooldown)
      (railwayServiceInstanceDeployLatest .heartbeatRecover environmentId sid)
      fun err w => if err.isNone then Recovered sid cooldown w else Cooling sid cooldown w := by
  have hsend : (server Unit).Triple () (Ready sid cooldown)
      (step (.sendDeploy .heartbeatRecover environmentId sid)) fun _ => Cooling sid cooldown := by
    refine .perform fun c w _ w' hw hr => ?_
    obtain ⟨hc, hserve⟩ := steady_cases hr
    obtain ⟨-, rfl⟩ := Prod.mk.inj hserve
    have hold : ∀ done ∈ (⟨c.now, .attempt .heartbeatRecover sid⟩ : Mark) :: w.trace,
        done.recovers sid = true → done ∈ w.trace := by
      intro done hdone hrec
      rcases List.mem_cons.1 hdone with rfl | hdone
      · cases hrec
      · exact hdone
    refine ⟨⟨.cons (fun done hdone _ hrec => (hw.elapsed done hdone hrec).trans hc) hw.spaced, ?_⟩,
      ?_⟩
    · exact fun done hdone hrec => (hw.past done (hold done hdone hrec) hrec).trans hc
    · exact fun done hdone hrec => (hw.covered done (hold done hdone hrec) hrec).imp id fun hover =>
        hover.trans hc
  refine hsend.bind fun _ => .perform fun c w err w' hw hr => ?_
  obtain ⟨hc, hserve⟩ := steady_cases hr
  obtain ⟨rfl, rfl⟩ := Prod.mk.inj hserve
  cases herr : c.deployError with
  | none =>
    refine ⟨.cons (fun _ _ hattempt => absurd hattempt Bool.false_ne_true) hw.spaced,
      fun done hdone hrec => ?_⟩
    rcases List.mem_cons.1 hdone with rfl | hdone
    · exact Nat.le_refl _
    · exact (hw.past done hdone hrec).trans hc
  | some msg =>
    refine hw.idle ⟨rfl, ⟨[⟨c.now, .outcome .heartbeatRecover sid false⟩], rfl,
      fun mark hmark => ?_⟩, hc⟩
    rw [List.mem_singleton.1 hmark]
    rintro (h | h)
    · cases h
    · simp [Mark.recovers] at h

/-- A success starts the cooldown. -/
theorem recover_start {now : Nat} (hnow : sid = row.railwayServiceId) :
    (server Unit).Triple () (fun w => Recovered sid cooldown w ∧ ∀ done ∈ w.trace,
      done.recovers sid = true →
        done.time ≤ now)
      (update fun s =>
        { s with heartbeatLastRecoverAt := s.heartbeatLastRecoverAt.set row.railwayServiceId now })
      fun _ => Cooling sid cooldown := by
  refine .perform fun c w _ w' hw hr => ?_
  obtain ⟨hc, hserve⟩ := steady_cases hr
  obtain ⟨-, rfl⟩ := Prod.mk.inj hserve
  refine ⟨⟨hw.1.spaced, fun done hdone hrec => (hw.1.past done hdone hrec).trans hc⟩,
    fun done hdone hrec => ?_⟩
  subst hnow
  exact .inl ⟨now, Dict.get_set_self _ _ _, hw.2 done hdone hrec⟩

theorem recover_time : (server Unit).Triple () (Recovered sid cooldown) dateNow
    fun now w => Recovered sid cooldown w ∧ ∀ done ∈ w.trace, done.recovers sid = true →
      done.time ≤ now := by
  refine .perform fun c w now w' hw hr => ?_
  obtain ⟨hc, hserve⟩ := steady_cases hr
  obtain ⟨rfl, rfl⟩ := Prod.mk.inj hserve
  refine ⟨⟨hw.spaced, fun done hdone hrec => (hw.past done hdone hrec).trans hc⟩,
    fun done hdone hrec => ?_⟩
  exact (hw.past done hdone hrec).trans hc

theorem recover_cooling (hsid : sid = row.railwayServiceId) :
    (server Unit).Triple () (Ready sid cooldown) (heartbeatRecover t row totals ref)
      fun _ => Cooling sid cooldown := by
  unfold heartbeatRecover
  refine (Ready.triple (idle_outside outside_performanceNow)).bind fun _ => ?_
  rw [← hsid]
  refine (recover_deploy t.environmentId).bind fun err => ?_
  cases err with
  | none =>
    refine (Recovered.triple (idle_outside (outside_elapsedMs _))).bind fun _ => ?_
    refine (Recovered.triple (idle_outside (outside_pushActivity _))).bind fun _ => ?_
    refine (Recovered.triple (idle_object ref _)).bind fun _ => ?_
    refine recover_time.bind fun now => ?_
    rw [hsid]
    refine (recover_start rfl).bind fun _ => ?_
    rw [← hsid]
    refine (Cooling.triple (idle_outside outside_dateNow)).bind fun _ => ?_
    refine (Cooling.triple idle_readState).bind fun _ => ?_
    exact (Cooling.triple (idle_outside (outside_pushLogLine _))).bind fun _ => .ret fun _ h => h
  | some msg =>
    exact (Cooling.triple (idle_outside (outside_pushLogLine _))).bind fun _ => .ret fun _ h => h

/-- The check of the cooldown, from the last time that was read. -/
theorem cooldownOk_ready (ht : t.hbCooldownMs = cooldown) (last : Option Nat) :
    (server Unit).Triple ()
      (fun w => last = w.state.heartbeatLastRecoverAt.get sid ∧ Cooling sid cooldown w)
      (heartbeatCooldownOk t (last.getD 0)) fun ok w => if ok then Ready sid cooldown w
        else Cooling sid cooldown w := by
  unfold heartbeatCooldownOk
  refine .ite (fun hzero => .ret fun w hw => ⟨hw.2, fun done hdone hrec => ?_⟩) fun _ => ?_
  · rw [ht] at hzero
    rw [hzero]
    exact hw.2.past done hdone hrec
  · have hnow : (server Unit).Triple ()
        (fun w => last = w.state.heartbeatLastRecoverAt.get sid ∧ Cooling sid cooldown w) dateNow
        fun now w => last = w.state.heartbeatLastRecoverAt.get sid ∧ now = w.clock ∧
          Cooling sid cooldown w := by
      refine .perform fun c w now w' hw hr => ?_
      obtain ⟨hc, hserve⟩ := steady_cases hr
      obtain ⟨rfl, rfl⟩ := Prod.mk.inj hserve
      exact ⟨hw.1, rfl, hw.2.idle ⟨rfl, ⟨[], rfl, fun _ h => absurd h List.not_mem_nil⟩, hc⟩⟩
    refine hnow.bind fun now => .ret ?_
    rintro w ⟨hlast, rfl, hw⟩
    split
    · rename_i hover
      refine ⟨hw, fun done hdone hrec => ?_⟩
      rcases hw.covered done hdone hrec with ⟨last', hget, hle⟩ | hdone
      · rw [hget] at hlast
        have hover := of_decide_eq_true hover
        rw [ht, hlast, Option.getD_some] at hover
        omega
      · exact hdone
    · exact hw

theorem missed_cooling (hsid : sid = row.railwayServiceId) (ht : t.hbCooldownMs = cooldown) :
    (server Unit).Triple () (Cooling sid cooldown) (heartbeatMissed t row totals ref)
      fun _ => Cooling sid cooldown := by
  unfold heartbeatMissed
  refine (Cooling.triple (idle_object ref _)).bind fun _ => ?_
  have hread : (server Unit).Triple () (Cooling sid cooldown) readState fun s w =>
      s.heartbeatLastRecoverAt.get sid = w.state.heartbeatLastRecoverAt.get sid ∧
        Cooling sid cooldown w := by
    refine .perform fun c w s w' hw hr => ?_
    obtain ⟨hc, hserve⟩ := steady_cases hr
    obtain ⟨rfl, rfl⟩ := Prod.mk.inj hserve
    exact ⟨rfl, hw.idle (idle_get c w hc)⟩
  refine hread.bind fun s => ?_
  rw [← hsid]
  refine (cooldownOk_ready ht _).bind fun ok => ?_
  have hcooling : ∀ w, (if ok = true then Ready sid cooldown w else Cooling sid cooldown w) →
      Cooling sid cooldown w := by
    intro w hw
    split at hw
    · exact hw.toCooling
    · exact hw
  refine .ite (fun hgo => ?_) fun _ =>
    .mono (.ite (fun _ => ?_) fun _ => .ite (fun _ => ?_) fun _ => ?_) hcooling fun _ _ h => h
  · obtain rfl : ok = true := hgo.2.2
    exact recover_cooling hsid
  · refine (Cooling.triple (idle_object ref _)).bind fun _ => ?_
    refine (Cooling.triple (idle_outside outside_dateNow)).bind fun _ => ?_
    exact (Cooling.triple (idle_outside (outside_pushLogLine _))).bind fun _ => .ret fun _ h => h
  · refine (Cooling.triple (idle_object ref _)).bind fun _ => ?_
    exact (Cooling.triple (idle_outside (outside_pushLogLine _))).bind fun _ => .ret fun _ h => h
  · exact .ret fun _ h => h

theorem answered_cooling (hsid : sid = row.railwayServiceId) (ht : t.hbCooldownMs = cooldown)
    (pr : PingResult) :
    (server Unit).Triple () (Cooling sid cooldown) (heartbeatAnswered t row totals ref pr)
      fun _ => Cooling sid cooldown := by
  unfold heartbeatAnswered
  refine .ite (fun _ => ?_) fun _ => .ite (fun _ => missed_cooling hsid ht) fun _ =>
    .ite (fun _ => ?_) fun _ => ?_
  · exact (Cooling.triple (idle_object ref _)).bind fun _ => .ret fun _ h => h
  · exact (Cooling.triple (idle_object ref _)).bind fun _ => .ret fun _ h => h
  · exact .ret fun _ h => h

theorem idle_heartbeatObject (row : RailwayVisibilityRow) :
    (heartbeatObject row).Obeys (IdleCall sid) fun _ => True := by
  have hnew : (newHeartbeatObject row).Obeys (IdleCall sid) fun _ => True := by
    unfold newHeartbeatObject
    refine idle_readState.bind fun s _ => Prog.Obeys.bind (ψ := fun _ => True)
      (idle_stateUpdate _ ?_) fun _ _ => .ret trivial
    exact fun _ => rfl
  unfold heartbeatObject
  refine idle_readState.bind fun s _ => ?_
  cases s.heartbeatRecoverState.get row.railwayServiceId with
  | none => exact hnew
  | some ref => exact .ite (fun _ => hnew) fun _ => (idle_object ref _).bind fun _ _ => .ret trivial

theorem idle_heartbeatSkipped :
    (heartbeatSkipped t row totals).Obeys (IdleCall sid) fun _ => True := by
  unfold heartbeatSkipped
  refine Prog.Obeys.bind (ψ := fun _ => True) (idle_stateUpdate _ ?_) fun _ _ => ?_
  · exact fun _ => rfl
  exact (idle_outside outside_pushSkipped).bind fun _ _ => .ret trivial

theorem idle_record {f : WatchdogPersistentState → WatchdogPersistentState}
    {kind : WatchdogPersistentState → MarkKind}
    (hf : ∀ s, (f s).heartbeatLastRecoverAt.get sid = s.heartbeatLastRecoverAt.get sid)
    (hkind : ∀ s now, ¬ (Mark.mk now (kind s)).Concerns sid) : IdleCall sid (.record f kind) := by
  refine .of_marks (fun _ w => [kind w.state]) (fun _ _ => rfl) (fun c w k hk => ?_) fun _ w =>
    hf w.state
  rw [List.mem_singleton.1 hk]
  exact hkind w.state c.now

theorem idle_recordProbe (ok : Bool) :
    (recordProbe t row ok).Obeys (IdleCall sid) fun _ => True := by
  refine Prog.Obeys.perform (idle_record ?_ ?_)
  · exact fun _ => rfl
  · rintro s now (h | h) <;> cases h

theorem idle_ping (probeUrl : String) :
    (pingHeartbeatUrl probeUrl).Obeys (IdleCall sid) fun _ => True := by
  have hping : IdleCall sid (.ping probeUrl) := .silent (fun _ _ => rfl) fun _ _ => rfl
  exact .perform hping

/-- **The heartbeat of a row** keeps the redeploys of its service spaced. -/
theorem heartbeat_cooling (hsid : sid = row.railwayServiceId) (ht : t.hbCooldownMs = cooldown) :
    (server Unit).Triple () (Cooling sid cooldown) (heartbeat t row totals) fun _ =>
      Cooling sid cooldown := by
  rw [heartbeat_eq]
  refine (Cooling.triple (idle_heartbeatObject row)).bind fun ref => ?_
  unfold afterObject
  cases row.probedAt t.env with
  | some probeUrl =>
    refine (Cooling.triple (idle_outside outside_performanceNow)).bind fun _ => ?_
    refine (Cooling.triple (idle_ping probeUrl)).bind fun pr => ?_
    refine (Cooling.triple (idle_outside (outside_elapsedMs _))).bind fun _ => ?_
    refine (Cooling.triple (idle_outside (outside_pushActivity _))).bind fun _ => ?_
    refine (answered_cooling hsid ht pr).bind fun _ => ?_
    refine (Cooling.triple (idle_recordProbe pr.ok)).bind fun _ => ?_
    refine Server.Triple.bind (Cooling.triple (idle_stateUpdate _ ?_)) fun _ => .ret fun _ h => h
    exact fun _ => rfl
  | none =>
    exact .ite (fun _ => Cooling.triple idle_heartbeatSkipped) fun _ => .ret fun _ h => h

theorem processRow_cooling (hsid : sid = row.railwayServiceId) (ht : t.hbCooldownMs = cooldown) :
    (server Unit).Triple () (Cooling sid cooldown) (processRow t row totals) fun _ =>
      Cooling sid cooldown := by
  have htake : IdleCall sid (.takeUp t.env row) := by
    refine .of_marks (fun _ _ => [.row t.env row]) (fun _ _ => rfl) ?_ fun _ _ => rfl
    rintro c w kind hk (h | h) <;> cases List.mem_singleton.1 hk <;> cases h
  unfold processRow
  refine (Cooling.triple (.perform htake)).bind fun _ =>
    (Cooling.triple idle_readState).bind fun s => ?_
  subst hsid
  refine (Cooling.triple (idle_orGet outside_exitRedeploy)).bind fun _ =>
    (heartbeat_cooling rfl ht).bind fun _ => ?_
  refine (Cooling.triple (idle_outside outside_forgetCooldown)).bind fun _ => ?_
  refine (Cooling.triple (idle_orGet outside_autoRecover)).bind fun _ => ?_
  refine (Cooling.triple (idle_outside (outside_rowEvents _))).bind fun _ => ?_
  refine Server.Triple.bind (Cooling.triple (idle_stateUpdate _ ?_)) fun _ => .ret fun _ h => h
  exact fun _ => rfl

/-- A row of another service. -/
theorem processRow_idle {after : TickTotals} (hsid : row.railwayServiceId ≠ sid)
    (h : (server Unit).Runs () (processRow t row totals) w after w') : Idle sid w w' := by
  obtain ⟨time, hframe⟩ := (processRow_done w after w' rfl (steady_solo h)).frame
  obtain ⟨marks, htrace, hmarks⟩ := hframe.trace
  refine ⟨?_, ⟨marks ++ [⟨time, .row t.env row⟩], ?_, ?_⟩, steady_clock h⟩
  · exact (WatchdogPersistentState.entries_eq_iff.1 (hframe.others sid (Ne.symm hsid))).2.2.2.1
  · rw [htrace, List.append_assoc]
    rfl
  · intro mark hmark hconcerns
    have hservice := hconcerns.service
    rcases List.mem_append.1 hmark with hmark | hmark
    · rw [(hmarks mark hmark).1] at hservice
      exact hsid (Option.some.inj hservice)
    · rw [List.mem_singleton.1 hmark] at hservice
      exact hsid (Option.some.inj hservice)

/-- **The loop over the rows** keeps the redeploys spaced, and the last time of a service without a
row. -/
theorem loop_cooling {rows : List RailwayVisibilityRow} {after : TickTotals}
    (ht : t.hbCooldownMs = cooldown) (hw : Cooling sid cooldown w)
    (h : (server Unit).Runs () (rows.foldlM (fun totals row => processRow t row totals) totals)
      w after w') :
    Cooling sid cooldown w' ∧ (sid ∉ rows.map (·.railwayServiceId) →
      w'.state.heartbeatLastRecoverAt.get sid = w.state.heartbeatLastRecoverAt.get sid) := by
  refine Server.Triple.foldlM (S := server Unit) (i := ())
    (g := fun totals row => processRow t row totals)
    (J := fun done _ w₁ => Cooling sid cooldown w₁ ∧ (sid ∉ done.map (·.railwayServiceId) →
      w₁.state.heartbeatLastRecoverAt.get sid = w.state.heartbeatLastRecoverAt.get sid))
        rows ?_ totals
    w after w' ⟨hw, fun _ => rfl⟩ h
  rintro done row rest b - w₁ a w₂ ⟨hw₁, hlast⟩ hrun
  by_cases hsid : row.railwayServiceId = sid
  · refine ⟨processRow_cooling hsid.symm ht w₁ a w₂ hw₁ hrun, fun hnot => absurd ?_ hnot⟩
    rw [List.map_append, List.mem_append]
    exact .inr (List.mem_singleton.2 hsid.symm)
  · have hidle := processRow_idle hsid hrun
    refine ⟨hw₁.idle hidle, fun hnot => hidle.last.trans (hlast fun hin => hnot ?_)⟩
    rw [List.map_append, List.mem_append]
    exact .inl hin

/-! ## A tick -/

/-- The services that are gone are forgotten. -/
theorem forgetGone_last (rows : List RailwayVisibilityRow) (s : WatchdogPersistentState) :
    (forgetGone rows s).heartbeatLastRecoverAt.get sid =
      if sid ∈ rows.map (·.railwayServiceId) then s.heartbeatLastRecoverAt.get sid else none := by
  have hget := s.heartbeatLastRecoverAt.get_deleteAll_filter (· ∈ rows.map (·.railwayServiceId)) sid
  simpa only [forgetGone, decide_not, decide_eq_true_eq] using hget

theorem TickRecord.Steady.cooling {r : TickRecord} (h : r.Steady)
    (hcooldown : heartbeatRecoverCooldownMs r.env = cooldown) (hkeeps : r.KeepsCooldown sid)
    (hw : Cooling sid cooldown r.before) : Cooling sid cooldown r.after := by
  obtain ⟨w, hpoll, hrest⟩ := h
  obtain ⟨time, hfetched⟩ := pollRows_ran (steady_solo hpoll)
  have hidle : Idle sid r.before w := by
    have hmark : Idle sid r.before (r.before.mark time (.fetched r.rows)) :=
      ⟨rfl, ⟨[⟨time, .fetched r.rows⟩], rfl, fun mark hmark hconcerns => by
        rw [List.mem_singleton.1 hmark] at hconcerns
        cases hconcerns.service⟩, Nat.le_refl _⟩
    have hclock : r.before.clock ≤ w.clock := steady_clock hpoll
    exact hmark.trans (hfetched.idle hclock)
  have hw₁ := hw.idle hidle
  unfold afterPoll at hrest
  cases herror : r.rows.errorText with
  | some error =>
    rw [herror] at hrest
    exact hw₁.idle ((failTick_ran (steady_solo hrest)).2.idle (steady_clock hrest))
  | none =>
    rw [herror] at hrest
    obtain ⟨now, w₁, hnow, hrest⟩ := ((server Unit).runs_bind ()).1 hrest
    obtain ⟨totals, w₂, hloop, hfinish⟩ := ((server Unit).runs_bind ()).1 hrest
    have hnowIdle : Idle sid w w₁ :=
      (LogsOnly.triple w LogCall.isoNow.obeys _ _ _ (.refl w) (steady_solo hnow)).2.idle
        (steady_clock hnow)
    obtain ⟨hw₂, hlast⟩ := loop_cooling hcooldown (hw₁.idle hnowIdle) hloop
    obtain ⟨-, hlogs⟩ := finishTick_ran (steady_solo hfinish)
    have hclock : w₂.clock ≤ r.after.clock := steady_clock hfinish
    have htrace : r.after.trace = w₂.trace := hlogs.trace
    have hafter : r.after.state.heartbeatLastRecoverAt.get sid =
        if sid ∈ r.ids then w₂.state.heartbeatLastRecoverAt.get sid else none := by
      rw [hlogs.state]
      exact forgetGone_last r.rows.containers w₂.state
    by_cases hin : sid ∈ r.ids
    · rw [if_pos hin] at hafter
      exact hw₂.idle ⟨hafter, ⟨[], htrace, fun _ hm => absurd hm List.not_mem_nil⟩, hclock⟩
    · refine ⟨⟨by rw [htrace]; exact hw₂.spaced, fun done hdone hrec => ?_⟩,
        fun done hdone hrec => .inr ?_⟩
      · rw [htrace] at hdone
        exact (hw₂.past done hdone hrec).trans hclock
      · rw [htrace] at hdone
        rcases hw₂.covered done hdone hrec with ⟨last, hget, hle⟩ | hover
        · rw [hlast hin, hnowIdle.last, hidle.last] at hget
          rcases hkeeps with herr | hmem | hover
          · exact absurd herror herr
          · exact absurd hmem hin
          · have := hover last hget
            rw [hcooldown] at this
            omega
        · exact hover.trans hclock

end

/-! ## A run -/

section

variable {env : Environment} {recs : List TickRecord} {w w' : World} {sid : String} {cooldown : Nat}

theorem SteadyRun.cooling (h : SteadyRun w recs w')
    (hcooldown : ∀ r ∈ recs, heartbeatRecoverCooldownMs r.env = cooldown)
    (hkeeps : ∀ r ∈ recs, r.KeepsCooldown sid) (hw : Cooling sid cooldown w) :
    Cooling sid cooldown w' := by
  induction h with
  | nil w => exact hw
  | cons hr _ ih =>
    obtain ⟨hfirst, hrest⟩ := List.forall_mem_cons.1 hcooldown
    obtain ⟨hkeep, hkeeps⟩ := List.forall_mem_cons.1 hkeeps
    exact ih hrest hkeeps (hr.cooling hfirst hkeep hw)

/-- **The cooldown of the heartbeat recovery**: redeploys of a service by its heartbeat are spaced
in every run whose polls leave the service out only while none of its cooldowns runs. -/
theorem recoveries_spaced (h : SteadyRun .start recs w) (henv : ∀ r ∈ recs, r.env = env)
    (hkeeps : ∀ r ∈ recs, r.KeepsCooldown sid) :
    RecoveriesSpaced sid (heartbeatRecoverCooldownMs env) w.trace := by
  have hstart : Cooling sid (heartbeatRecoverCooldownMs env) .start :=
    ⟨⟨.nil, fun _ hdone => absurd hdone List.not_mem_nil⟩, fun _ hdone =>
      absurd hdone List.not_mem_nil⟩
  exact (h.cooling (fun r hr => by rw [henv r hr]) hkeeps hstart).spaced

end

/-! ## Samples -/

section

variable {α : Type} {p : Tick α} {c : Choice} {cs : List Choice} {env : Environment} {w : World}

/-- Replayed at a time that is not past, a program runs on the clock. -/
theorem runWith_steady (h : w.clock ≤ c.now) :
    (server Unit).Runs () p w (runWith c p w).1 (runWith c p w).2 ∧ (runWith c p w).2.clock ≤
      c.now := by
  induction p generalizing w with
  | ret a => exact ⟨.ret a w, h⟩
  | call q k ih =>
    have hserve : (server Unit).respond () c w q = some (serve c w q) := if_pos h
    obtain ⟨hrest, hclock⟩ := ih (serve c w q).1 (serve_clock c w q).le
    exact ⟨.call hserve hrest, hclock⟩

/-- The times of the choices do not go back. -/
def Ordered : Nat → List Choice → Prop
  | _, [] => True
  | time, c :: cs => time ≤ c.now ∧ Ordered c.now cs

instance : ∀ time cs, Decidable (Ordered time cs)
  | _, [] => .isTrue trivial
  | time, c :: cs =>
    have := instDecidableOrdered c.now cs; inferInstanceAs
      (Decidable (time ≤ c.now ∧ Ordered c.now cs))

theorem Ordered.earlier {time time' : Nat} (h : Ordered time cs) (hle : time' ≤ time) :
    Ordered time' cs := by
  cases cs with
  | nil => trivial
  | cons c cs => exact ⟨hle.trans h.1, h.2⟩

theorem steady_replay (h : Ordered w.clock cs) :
    SteadyRun w (replay env cs w) (replayed env cs w) := by
  induction cs generalizing w with
  | nil => exact .nil w
  | cons c cs ih =>
    obtain ⟨hpoll, hclock⟩ := runWith_steady (p := pollRows) h.1
    obtain ⟨hrest, hclock⟩ := runWith_steady (p := afterPoll env (runWith c pollRows w).1) hclock
    exact .cons (r := .of env c w) ⟨_, hpoll, hrest⟩ (ih (h.2.earlier hclock))

end

/-- The heartbeat recovers a service at the first missed probe, at most once in an hour. -/
def cooldownEnv : Environment where
  proc := none
  process := [("RAILWAY_ENVIRONMENT_ID", "production"), ("RAILWAY_HEARTBEAT_EXIT_REDEPLOY", "0"),
    ("RAILWAY_HEARTBEAT_RECOVER", "1"), ("RAILWAY_HEARTBEAT_MISS_THRESHOLD", "1")]

/-- A missed probe, a poll without the service at `gone`, and a missed probe at `again`. -/
def leftOut (gone again : Nat) : List Choice :=
  [sampleChoice 4000000 [sampleRow "SUCCESS" "d1"] false none, sampleChoice gone [] false none,
    sampleChoice again [sampleRow "SUCCESS" "d1"] false none]

/-- The service is left out after its cooldown. -/
theorem recoveries_spaced_sample :
    RecoveriesSpaced "svc" (heartbeatRecoverCooldownMs cooldownEnv)
      (replayed cooldownEnv (leftOut 7600000 7600010) .start).trace :=
  recoveries_spaced (steady_replay (by decide +kernel)) (by decide +kernel) (by decide +kernel)

/-- Whatever a service's heartbeat redeploys, in a run of any length, is spaced. -/
def CooldownKept : Prop :=
  ∀ (env : Environment) (recs : List TickRecord) (w : World) (sid : String),
    SteadyRun .start recs w →
    (∀ r ∈ recs, r.env = env) → RecoveriesSpaced sid (heartbeatRecoverCooldownMs env) w.trace

/-- **A poll without the service ends its cooldown**: two redeploys succeed within twenty
milliseconds. -/
theorem recoveries_not_spaced :
    ¬ CooldownKept ∧
      ((replayed cooldownEnv (leftOut 4000010 4000020) .start).trace.filter (·.recovers "svc")).map
      (·.time) = [4000020, 4000000] := by
  refine ⟨fun h => ?_, by decide +kernel⟩
  have hrun : SteadyRun .start (replay cooldownEnv (leftOut 4000010 4000020) .start)
      (replayed cooldownEnv (leftOut 4000010 4000020) .start) := steady_replay (by decide +kernel)
  have hspaced := h cooldownEnv _ _ "svc" hrun (by decide +kernel)
  exact absurd hspaced (by decide +kernel)

end PeHackathon.Watchdog
