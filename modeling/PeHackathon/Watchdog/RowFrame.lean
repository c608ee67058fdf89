import PeHackathon.Watchdog.ServiceEntries

/-!
# What a row leaves alone

A tick that nothing interrupts (`solo`), row by row. `Frame` says what is still as it was when a row
was taken up: the entries of the other services, their heartbeat objects, and the history, which
gains marks of the row's own service only. Every call of a row keeps the frame.
-/

namespace PeHackathon.Watchdog

open Lib

/-- One tick alone. The clock may read anything. -/
def solo : Server Answer Unit Choice World where
  respond _ c w q := some (serve c w q)
  yields _ := false

/-- The history gains a mark. -/
def World.mark (w : World) (time : Nat) (k : MarkKind) : World :=
  { w with trace := ⟨time, k⟩ :: w.trace }

/-- The service a mark is about. -/
def MarkKind.service? : MarkKind → Option String
  | .fetched _ => none
  | .row _ r => some r.railwayServiceId
  | .attempt _ sid | .outcome _ sid _ | .healthy sid => some sid
  | .probe p => some p.serviceId

/-- References the row of `sid`, taken up in `s`, may come by: that of its object in the map, and
those of objects made since, up to `n`. -/
def WatchdogPersistentState.Own (s : WatchdogPersistentState) (sid : String) (n ref : Nat) : Prop :=
  s.heartbeatRecoverState.get sid = some ref ∨ (s.freshObject ≤ ref ∧ ref < n)

/-- The mark is that of a row taken up. -/
def MarkKind.isRow : MarkKind → Bool
  | .row _ _ => true
  | _ => false

/-- Marks of one service, made at its row, come on top. -/
def Adds (sid : String) (trace trace' : List Mark) : Prop :=
  ∃ marks, trace' = marks ++ trace ∧
    ∀ mark ∈ marks, mark.kind.service? = some sid ∧ mark.kind.isRow = false

theorem Adds.refl (sid : String) (trace : List Mark) : Adds sid trace trace :=
  ⟨[], rfl, by simp⟩

theorem Adds.one {sid : String} {trace : List Mark} {mark : Mark}
    (h : mark.kind.service? = some sid) (hrow : mark.kind.isRow = false) :
    Adds sid trace (mark :: trace) :=
  ⟨[mark], rfl, by simp [h, hrow]⟩

theorem Adds.trans {sid : String} {trace trace' trace'' : List Mark} (h : Adds sid trace trace')
    (h' : Adds sid trace' trace'') : Adds sid trace trace'' := by
  obtain ⟨marks, rfl, hm⟩ := h
  obtain ⟨marks', rfl, hm'⟩ := h'
  refine ⟨marks' ++ marks, by rw [List.append_assoc], ?_⟩
  intro mark hmark
  rcases List.mem_append.1 hmark with hmark | hmark
  · exact hm' mark hmark
  · exact hm mark hmark

/-- From `w₀` to `w` the row of `sid` has changed what is its own; objects are made up to `n` at
least. -/
structure Frame (sid : String) (w₀ : World) (n : Nat) (w : World) : Prop where
  others : ∀ k, k ≠ sid → w.state.entries k = w₀.state.entries k
  entry : ∀ ref, w.state.heartbeatRecoverState.get sid = some ref →
    w₀.state.Own sid w.state.freshObject ref
  objects : ∀ ref, w₀.state.heartbeatRecoverState.get sid ≠ some ref → ref < w₀.state.freshObject →
    w.state.heartbeatObjects ref = w₀.state.heartbeatObjects ref
  fresh : w₀.state.freshObject ≤ w.state.freshObject
  bound : n ≤ w.state.freshObject
  trace : Adds sid w₀.trace w.trace

section

variable {sid : String} {w₀ w w' : World} {n ref : Nat}

theorem WatchdogPersistentState.Own.mono {s : WatchdogPersistentState} {m : Nat}
    (h : s.Own sid n ref) (hn : n ≤ m) : s.Own sid m ref := by
  rcases h with h | ⟨h, h'⟩
  · exact .inl h
  · exact .inr ⟨h, by omega⟩

/-- An object of another service, or of this one before it has a new one, is not one's own. -/
theorem WatchdogPersistentState.Own.not_other {s : WatchdogPersistentState} (h : s.Own sid n ref)
    (hold : ref < s.freshObject) : s.heartbeatRecoverState.get sid = some ref := by
  rcases h with h | ⟨h, -⟩
  · exact h
  · omega

namespace Frame

theorem refl (sid : String) (w : World) : Frame sid w 0 w where
  others _ _ := rfl
  entry _ h := .inl h
  objects _ _ _ := rfl
  fresh := Nat.le_refl _
  bound := Nat.zero_le _
  trace := .refl _ _

theorem rebound (h : Frame sid w₀ n w) {m : Nat} (hm : m ≤ w.state.freshObject) :
    Frame sid w₀ m w := { h with bound := hm }

/-- A change of the state and the history. -/
theorem step (h : Frame sid w₀ n w)
    (hothers : ∀ k, k ≠ sid → w'.state.entries k = w.state.entries k)
    (hentry : ∀ ref, w'.state.heartbeatRecoverState.get sid = some ref →
      w.state.heartbeatRecoverState.get sid = some ref ∨ w₀.state.Own sid n ref)
    (hobjects : ∀ ref, ¬ w₀.state.Own sid n ref → ref < w.state.freshObject →
      w'.state.heartbeatObjects ref = w.state.heartbeatObjects ref)
    (hfresh : w.state.freshObject ≤ w'.state.freshObject) (htrace : Adds sid w.trace w'.trace) :
    Frame sid w₀ n w' where
  others k hk := (hothers k hk).trans (h.others k hk)
  entry ref href := by
    rcases hentry ref href with href | hown
    · exact (h.entry ref href).mono hfresh
    · exact hown.mono (Nat.le_trans h.bound hfresh)
  objects ref hne hlt := by
    refine (hobjects ref (fun hown => hne (hown.not_other hlt)) ?_).trans (h.objects ref hne hlt)
    exact Nat.lt_of_lt_of_le hlt h.fresh
  fresh := Nat.le_trans h.fresh hfresh
  bound := Nat.le_trans h.bound hfresh
  trace := h.trace.trans htrace

/-- A change that leaves the heartbeat objects and their references alone. -/
theorem step_entries (h : Frame sid w₀ n w)
    (hothers : ∀ k, k ≠ sid → w'.state.entries k = w.state.entries k)
    (hrefs : w'.state.heartbeatRecoverState = w.state.heartbeatRecoverState)
    (hobjects : w'.state.heartbeatObjects = w.state.heartbeatObjects)
    (hfresh : w'.state.freshObject = w.state.freshObject) (htrace : Adds sid w.trace w'.trace) :
    Frame sid w₀ n w' :=
  h.step hothers (fun _ href => .inl (hrefs ▸ href)) (fun _ _ _ => by rw [hobjects])
    (Nat.le_of_eq hfresh.symm) htrace

theorem step_trace (h : Frame sid w₀ n w) (hstate : w'.state = w.state)
    (htrace : Adds sid w.trace w'.trace) : Frame sid w₀ n w' :=
  h.step_entries (fun _ _ => by rw [hstate]) (by rw [hstate]) (by rw [hstate])
    (by rw [hstate]) htrace

/-- A change of the lifecycle of the service. -/
theorem step_lifecycle (h : Frame sid w₀ n w)
    {f : HeartbeatExitLifecycleState → HeartbeatExitLifecycleState}
    (hf : HeartbeatExitLifecycleState.Keyed sid f)
    (hstate : w'.state =
      { w.state with heartbeatExitLifecycle := f w.state.heartbeatExitLifecycle })
    (htrace : Adds sid w.trace w'.trace) : Frame sid w₀ n w' := by
  refine h.step_entries (fun k hk => ?_) (by rw [hstate]) (by rw [hstate]) (by rw [hstate]) htrace
  rw [hstate, WatchdogPersistentState.entries_eq_iff]
  exact ⟨rfl, rfl, rfl, rfl, hf.others _ k hk⟩

/-- A change of the cooldown of the service. -/
theorem step_cooldown (h : Frame sid w₀ n w) {f : Dict String Nat → Dict String Nat}
    (hf : ∀ d k, k ≠ sid → (f d).get k = d.get k)
    (hstate : w'.state = { w.state with recoverCooldown := f w.state.recoverCooldown })
    (htrace : Adds sid w.trace w'.trace) : Frame sid w₀ n w' := by
  refine h.step_entries (fun k hk => ?_) (by rw [hstate]) (by rw [hstate]) (by rw [hstate]) htrace
  rw [hstate, WatchdogPersistentState.entries_eq_iff]
  exact ⟨rfl, hf _ k hk, rfl, rfl, rfl⟩

/-- The calls of a row outside of its heartbeat keep the frame. -/
theorem outside (h : Frame sid w₀ n w) (c : Choice) {q : Call} (hq : OutsideHeartbeat sid q) :
    Frame sid w₀ n (serve c w q).2 := by
  cases hq with
  | dateNow | isoNow | performanceNow => exact h.step_trace rfl (.refl _ _)
  | log f hf =>
    have hstate : (serve c w (.update f)).2.state = _ := hf w.state
    refine h.step_entries (fun k _ => ?_) ?_ ?_ ?_ (.refl _ _)
    · rw [hstate, WatchdogPersistentState.entries_eq_iff]
      exact ⟨rfl, rfl, rfl, rfl, rfl⟩
    all_goals rw [hstate]
  | clearFlag => exact h.step_lifecycle HeartbeatExitLifecycleState.keyed_clearFlag rfl (.refl _ _)
  | clearService =>
    exact h.step_lifecycle HeartbeatExitLifecycleState.keyed_clearService rfl (.refl _ _)
  | requeue => exact h.step_lifecycle HeartbeatExitLifecycleState.keyed_requeue rfl (.refl _ _)
  | cooldown now =>
    exact h.step_cooldown (fun d _ hk => d.get_set_ne now hk) rfl (.refl _ _)
  | healthy => exact h.step_cooldown (fun d _ hk => d.get_delete_ne hk) rfl (.one rfl rfl)
  | sendDeploy _ _ | awaitDeploy _ => exact h.step_trace rfl (.one rfl rfl)

/-- The calls of a row once it has its heartbeat object keep the frame. -/
theorem heartbeat (h : Frame sid w₀ n w) (c : Choice) {q : Call}
    (hq : HeartbeatCall sid (w₀.state.Own sid n) q) : Frame sid w₀ n (serve c w q).2 := by
  cases hq with
  | outside hq => exact h.outside c hq
  | get | ping _ => exact h.step_trace rfl (.refl _ _)
  | sendDeploy _ | awaitDeploy => exact h.step_trace rfl (.one rfl rfl)
  | @object ref href f =>
    refine h.step (fun _ _ => rfl) (fun _ h => .inl h) (fun r hr _ => ?_) (Nat.le_refl _)
      (.refl _ _)
    exact if_neg fun he : r = ref => hr (he ▸ href)
  | lastRecover now =>
    refine h.step_entries (fun k hk => ?_) rfl rfl rfl (.refl _ _)
    rw [WatchdogPersistentState.entries_eq_iff]
    exact ⟨rfl, rfl, rfl, Dict.get_set_ne _ now hk, rfl⟩
  | @setObject ref href =>
    refine h.step (fun k hk => ?_) (fun r hr => ?_) (fun _ _ _ => rfl) (Nat.le_refl _) (.refl _ _)
    · rw [WatchdogPersistentState.entries_eq_iff]
      exact ⟨rfl, rfl, Dict.get_set_ne _ ref hk, rfl, rfl⟩
    · have hr : (w.state.heartbeatRecoverState.set sid ref).get sid = some r := hr
      rw [Dict.get_set_self] at hr
      exact .inr (Option.some.inj hr ▸ href)
  | deleteObject =>
    refine h.step (fun k hk => ?_) (fun r hr => ?_) (fun _ _ _ => rfl) (Nat.le_refl _) (.refl _ _)
    · rw [WatchdogPersistentState.entries_eq_iff]
      exact ⟨rfl, rfl, Dict.get_delete_ne _ hk, rfl, rfl⟩
    · have hr : (w.state.heartbeatRecoverState.delete sid).get sid = some r := hr
      rw [Dict.get_delete_self] at hr
      exact absurd hr.symm (Option.some_ne_none r)
  | probe t hrow ok =>
    subst hrow
    exact h.step_lifecycle (HeartbeatExitLifecycleState.keyed_probe _ _ _ _) rfl (.one rfl rfl)

end Frame

/-- No call of a row's parts writes the entry of the tick before. -/
theorem HeartbeatCall.serve_prev {own : Nat → Prop} {q : Call} (hq : HeartbeatCall sid own q)
    (c : Choice) (w : World) : (serve c w q).2.state.prev = w.state.prev := by
  cases hq with
  | outside hq =>
    cases hq with
    | log f hf =>
      have hstate : (serve c w (.update f)).2.state = _ := hf w.state
      rw [hstate]
    | _ => rfl
  | _ => rfl

/-! ## The heartbeat objects of the services -/

/-- Every service has a heartbeat object of its own. -/
structure WatchdogPersistentState.Separate (s : WatchdogPersistentState) : Prop where
  lt : ∀ k ref, s.heartbeatRecoverState.get k = some ref → ref < s.freshObject
  eq : ∀ k k' ref, s.heartbeatRecoverState.get k = some ref →
    s.heartbeatRecoverState.get k' = some ref → k = k'

theorem separate_empty : createEmptyWatchdogState.Separate where
  lt k ref h := by simp [createEmptyWatchdogState] at h
  eq k k' ref h := by simp [createEmptyWatchdogState] at h

namespace Frame

theorem refs_other (h : Frame sid w₀ n w) {k : String} (hk : k ≠ sid) :
    w.state.heartbeatRecoverState.get k = w₀.state.heartbeatRecoverState.get k :=
  (WatchdogPersistentState.entries_eq_iff.1 (h.others k hk)).2.2.1

theorem separate (h : Frame sid w₀ n w) (hsep : w₀.state.Separate) : w.state.Separate := by
  have hown : ∀ {k ref}, k ≠ sid → w.state.heartbeatRecoverState.get k = some ref →
      w.state.heartbeatRecoverState.get sid ≠ some ref := by
    intro k ref hk href hsid
    rw [h.refs_other hk] at href
    rcases h.entry ref hsid with hsid | ⟨hle, -⟩
    · exact hk (hsep.eq k sid ref href hsid)
    · have := hsep.lt k ref href
      omega
  constructor
  · intro k ref href
    by_cases hk : k = sid
    · subst hk
      rcases h.entry ref href with hold | ⟨-, hlt⟩
      · exact Nat.lt_of_lt_of_le (hsep.lt k ref hold) h.fresh
      · exact hlt
    · rw [h.refs_other hk] at href
      exact Nat.lt_of_lt_of_le (hsep.lt k ref href) h.fresh
  · intro k k' ref href href'
    by_cases hk : k = sid
    · by_cases hk' : k' = sid
      · rw [hk, hk']
      · exact absurd (hk ▸ href) (hown hk' href')
    · by_cases hk' : k' = sid
      · exact absurd (hk' ▸ href') (hown hk href)
      · rw [h.refs_other hk] at href
        rw [h.refs_other hk'] at href'
        exact hsep.eq k k' ref href href'

/-- The heartbeat object of another service is as it was. -/
theorem object_other (h : Frame sid w₀ n w) (hsep : w₀.state.Separate) {k : String} (hk : k ≠ sid)
    (href : w₀.state.heartbeatRecoverState.get k = some ref) :
    w.state.heartbeatObjects ref = w₀.state.heartbeatObjects ref :=
  h.objects ref (fun hsid => hk (hsep.eq k sid ref href hsid)) (hsep.lt k ref href)

end Frame

/-! ## A row -/

/-- While a row is handled. -/
structure During (sid : String) (w₀ : World) (n : Nat) (w : World) : Prop where
  frame : Frame sid w₀ n w
  prev : w.state.prev = w₀.state.prev

theorem During.of_state (h : During sid w₀ n w) (hstate : w'.state = w.state)
    (htrace : Adds sid w.trace w'.trace) : During sid w₀ n w' :=
  ⟨h.frame.step_trace hstate htrace, by rw [hstate, h.prev]⟩

theorem During.triple {α : Type} {p : Tick α} {ψ : α → Prop}
    (hp : p.Obeys (HeartbeatCall sid (w₀.state.Own sid n)) ψ) :
    solo.Triple () (During sid w₀ n) p fun a w => ψ a ∧ During sid w₀ n w := by
  refine .of_obeys (fun q c w r w' hq hw hr => ?_) hp
  obtain rfl : (serve c w q).2 = w' := congrArg Prod.snd (Option.some.inj hr)
  exact ⟨hw.frame.heartbeat c hq, (hq.serve_prev c w).trans hw.prev⟩

theorem During.triple_outside {α : Type} {p : Tick α} {ψ : α → Prop}
    (hp : p.Obeys (OutsideHeartbeat sid) ψ) :
    solo.Triple () (During sid w₀ n) p fun a w => ψ a ∧ During sid w₀ n w :=
  During.triple (inHeartbeat hp)

theorem During.readState : solo.Triple () (During sid w₀ n) readState
    fun s w => s = w.state ∧ During sid w₀ n w := by
  refine .perform fun c w s w' hw hr => ?_
  obtain ⟨rfl, rfl⟩ := Prod.mk.inj (Option.some.inj hr)
  exact ⟨rfl, hw.of_state rfl (.refl _ _)⟩

/-- What a row finds of the tick before. -/
theorem During.readPrev : solo.Triple () (During sid w₀ n) Watchdog.readState
    fun s w => s.prev = w₀.state.prev ∧ During sid w₀ n w :=
  During.readState.mono (fun _ h => h) fun _ _ ⟨hs, hw⟩ => ⟨hs ▸ hw.prev, hw⟩

/-- A row comes by a heartbeat object of its own. -/
theorem During.newHeartbeatObject {row : RailwayVisibilityRow} :
    solo.Triple () (During sid w₀ n) (newHeartbeatObject row)
      fun ref w => ∃ m, w₀.state.Own sid m ref ∧ During sid w₀ m w := by
  refine .bind During.readState fun s => ?_
  intro w a w' hw hrun
  obtain ⟨rfl, hw⟩ := hw
  obtain ⟨_, w₁, hupdate, hret⟩ := (solo.runs_bind ()).1 hrun
  obtain ⟨rfl, rfl⟩ := (solo.runs_ret ()).1 hret
  obtain ⟨c, hserve⟩ := Server.runs_perform.1 hupdate
  obtain rfl : _ = w' := congrArg Prod.snd (Option.some.inj hserve)
  refine ⟨w.state.freshObject + 1, .inr ⟨hw.frame.fresh, Nat.lt_succ_self _⟩, ?_, hw.prev⟩
  refine Frame.rebound (n := n) ?_ (Nat.le_refl _)
  refine hw.frame.step (fun _ _ => rfl) (fun _ h => .inl h) (fun ref _ hlt => ?_) (Nat.le_succ _)
    (.refl _ _)
  exact if_neg (Nat.ne_of_lt hlt)

theorem During.heartbeatObject {row : RailwayVisibilityRow} (hsid : row.railwayServiceId = sid) :
    solo.Triple () (During sid w₀ n) (heartbeatObject row)
      fun ref w => ∃ m, w₀.state.Own sid m ref ∧ During sid w₀ m w := by
  refine .bind During.readState fun s => ?_
  cases hget : s.heartbeatRecoverState.get row.railwayServiceId with
  | none => exact .mono During.newHeartbeatObject (fun _ h => h.2) fun _ _ h => h
  | some ref =>
    simp only
    split
    · exact .mono During.newHeartbeatObject (fun _ h => h.2) fun _ _ h => h
    · rw [hsid] at hget
      intro w a w' hw hrun
      obtain ⟨rfl, hw⟩ := hw
      have hown := hw.frame.entry ref hget
      have hw' : During sid w₀ w.state.freshObject w :=
        ⟨hw.frame.rebound (Nat.le_refl _), hw.prev⟩
      obtain ⟨_, w₁, hupdate, hret⟩ := (solo.runs_bind ()).1 hrun
      obtain ⟨rfl, rfl⟩ := (solo.runs_ret ()).1 hret
      exact ⟨_, hown, (During.triple (heartbeat_updateHeartbeatObject hown _) _ _ _ hw' hupdate).2⟩

variable {t : TickLocals} {row : RailwayVisibilityRow} {totals : TickTotals}

theorem During.heartbeat (hsid : row.railwayServiceId = sid) :
    solo.Triple () (During sid w₀ n) (heartbeat t row totals)
      fun after w => Grown totals after ∧ During sid w₀ 0 w := by
  rw [heartbeat_eq]
  refine .bind (During.heartbeatObject hsid) fun ref => ?_
  rintro w a w' ⟨m, hown, hw⟩ hrun
  obtain ⟨hgrown, hw'⟩ := During.triple (hsid ▸ heartbeat_afterObject hown) w a w' hw hrun
  exact ⟨hgrown, hw'.frame.rebound (Nat.zero_le _), hw'.prev⟩

/-- The entry of a row in `prev`. -/
def RailwayVisibilityRow.prevEntry (row : RailwayVisibilityRow) : WatchdogPrevEntry where
  deploymentStatus := row.cur
  deploymentId := row.depId
  onlineStatus := row.railwayOnlineStatus

/-- What a row leaves behind that was taken up in `w₀`. -/
structure RowDone (t : TickLocals) (row : RailwayVisibilityRow) (w₀ : World)
    (totals after : TickTotals) (w : World) : Prop where
  frame : ∃ time, Frame row.railwayServiceId (w₀.mark time (.row t.env row)) 0 w
  prev : w.state.prev = w₀.state.prev.set row.railwayServiceId row.prevEntry
  events : ∃ a b, Grown totals a ∧ Stopped row (w₀.state.prev.get row.railwayServiceId) a b ∧
    Grown b after

/-- **A row** that nothing interrupts. -/
theorem processRow_done :
    solo.Triple () (· = w₀) (processRow t row totals) (RowDone t row w₀ totals) := by
  unfold processRow
  have htake : solo.Triple () (· = w₀) (Watchdog.step (.takeUp t.env row))
      fun _ w => ∃ time, During row.railwayServiceId (w₀.mark time (.row t.env row)) 0 w := by
    refine .perform fun c w _ w' hw hr => ?_
    obtain ⟨-, rfl⟩ := Prod.mk.inj (Option.some.inj hr)
    subst hw
    exact ⟨c.now, (Frame.refl _ _).step_trace rfl (.refl _ _), rfl⟩
  refine htake.bind fun _ => .given fun time => ?_
  refine During.readPrev.bind fun s => .assume fun hprev => ?_
  refine (During.triple heartbeat_exitRedeploy).bind fun a => .assume fun ha => ?_
  refine (During.heartbeat rfl).bind fun b => .assume fun hb => ?_
  refine (During.triple_outside outside_forgetCooldown).bind fun _ => .assume fun _ => ?_
  refine (During.triple heartbeat_autoRecover).bind fun d => .assume fun hd => ?_
  refine (During.triple_outside (outside_rowEvents _)).bind fun e => .assume fun he => ?_
  obtain ⟨mid, hmid, he⟩ := he
  rw [hprev] at hmid
  have hset : solo.Triple () (During row.railwayServiceId (w₀.mark time (.row t.env row)) 0)
      (update fun s => { s with prev := s.prev.set row.railwayServiceId row.prevEntry })
      fun _ w => RowDone t row w₀ totals e w := by
    refine .perform fun c w _ w' hw hr => ?_
    obtain ⟨-, rfl⟩ := Prod.mk.inj (Option.some.inj hr)
    refine ⟨⟨time, hw.frame.step_entries (fun k hk => ?_) rfl rfl rfl (.refl _ _)⟩, ?_,
      ⟨d, mid, (ha.trans hb).trans hd, hmid, he⟩⟩
    · rw [WatchdogPersistentState.entries_eq_iff]
      exact ⟨Dict.get_set_ne _ _ hk, rfl, rfl, rfl, rfl⟩
    · exact congrArg (·.set row.railwayServiceId row.prevEntry) hw.prev
  exact hset.bind fun _ => .ret fun _ h => h

end

end PeHackathon.Watchdog
