import PeHackathon.Watchdog.Script

/-!
# A row in lockstep

Two runs handle rows of one service from like states: `Like` at the row, `Held` once each has its
heartbeat object. Every part of `processRow` keeps the runs alike and adds the same events to both
totals (`Pair`), although totals, references and the entries of the other services differ.
-/

namespace PeHackathon.Watchdog

open Lib

/-! ## Like runs -/

/-- Two runs at the row of `sid` go on alike, and have the same of `sid`. -/
structure Like (sid : String) (w v : Scripted) : Prop where
  script : w.script.service sid = v.script.service sid
  left : w.service = some sid
  right : v.service = some sid
  calls : w.calls = v.calls
  slice : w.world.state.slice sid = v.world.state.slice sid
  marks : marksOf sid w.world.trace = marksOf sid v.world.trace
  lt_left : ∀ ref, w.world.state.heartbeatRecoverState.get sid = some ref →
    ref < w.world.state.freshObject
  lt_right : ∀ ref, v.world.state.heartbeatRecoverState.get sid = some ref →
    ref < v.world.state.freshObject

/-- Each run has the heartbeat object of its row in hand. -/
structure Held (sid : String) (ref ref' : Nat) (w v : Scripted) : Prop where
  like : Like sid w v
  object : w.world.state.heartbeatObjects ref = v.world.state.heartbeatObjects ref'
  /-- Both objects are in the map, or none. -/
  linked : w.world.state.heartbeatRecoverState.get sid = some ref ↔
    v.world.state.heartbeatRecoverState.get sid = some ref'
  lt_left : ref < w.world.state.freshObject
  lt_right : ref' < v.world.state.freshObject

section

variable {sid : String} {w v : Scripted} {ref ref' : Nat}

theorem Like.choice (h : Like sid w v) : v.choice = w.choice := by
  unfold Scripted.choice
  rw [h.left, h.right, h.calls]
  exact congrFun h.script.symm _

/-- Both runs make a call that keeps the references. -/
theorem Like.moved (h : Like sid w v) {x y : World} (hslice : x.state.slice sid = y.state.slice sid)
    (hmarks : marksOf sid x.trace = marksOf sid y.trace)
    (hx : ∀ ref, x.state.heartbeatRecoverState.get sid = some ref → ref < x.state.freshObject)
    (hy : ∀ ref, y.state.heartbeatRecoverState.get sid = some ref → ref < y.state.freshObject) :
    Like sid (w.moved x) (v.moved y) where
  script := h.script
  left := h.left
  right := h.right
  calls := congrArg Nat.succ h.calls
  slice := hslice
  marks := hmarks
  lt_left := hx
  lt_right := hy

end

/-! ## Calls whose answer does not show the state -/

/-- The calls of a row but for reading the state and changing its heartbeat object or where the map
refers to. -/
inductive BlindCall (sid : String) : Call → Prop
  | outside {q : Call} (h : OutsideHeartbeat sid q) : BlindCall sid q
  | ping (probeUrl : String) : BlindCall sid (.ping probeUrl)
  | sendDeploy (environmentId : String) :
      BlindCall sid (.sendDeploy .heartbeatRecover environmentId sid)
  | awaitDeploy : BlindCall sid (.awaitDeploy .heartbeatRecover sid)
  | lastRecover (now : Nat) : BlindCall sid (.update fun s =>
      { s with heartbeatLastRecoverAt := s.heartbeatLastRecoverAt.set sid now })
  | probe (t : TickLocals) {row : RailwayVisibilityRow} (h : row.railwayServiceId = sid)
      (ok : Bool) :
      BlindCall sid (.record
        (fun s => { s with
          heartbeatExitLifecycle := (afterTickProbe s.heartbeatExitLifecycle
            row.railwayServiceId row.depId t.env row.railwayOnlineStatus ok).1 })
        (fun s => .probe (probeMark t row s.heartbeatExitLifecycle ok)))

/-- The state keeps the heartbeat objects and what refers to them. -/
structure SameObjects (s s' : WatchdogPersistentState) : Prop where
  refs : s'.heartbeatRecoverState = s.heartbeatRecoverState
  objects : s'.heartbeatObjects = s.heartbeatObjects
  fresh : s'.freshObject = s.freshObject

section

variable {sid : String} {q : Call} {s s' : WatchdogPersistentState}

theorem slice_lifecycle {f : HeartbeatExitLifecycleState → HeartbeatExitLifecycleState}
    (hf : HeartbeatExitLifecycleState.Keyed sid f) (h : s.slice sid = s'.slice sid) :
    { s with heartbeatExitLifecycle := f s.heartbeatExitLifecycle }.slice sid =
      { s' with heartbeatExitLifecycle := f s'.heartbeatExitLifecycle }.slice sid := by
  obtain ⟨hprev, hcool, hobject, hlast, hlife⟩ := slice_eq_iff.1 h
  exact slice_eq_iff.2 ⟨hprev, hcool, hobject, hlast, hf.self _ _ hlife⟩

theorem slice_cooldown {f : Dict String Nat → Dict String Nat}
    (hf : ∀ d d' : Dict String Nat, d.get sid = d'.get sid → (f d).get sid = (f d').get sid)
    (h : s.slice sid = s'.slice sid) :
    { s with recoverCooldown := f s.recoverCooldown }.slice sid =
      { s' with recoverCooldown := f s'.recoverCooldown }.slice sid := by
  obtain ⟨hprev, hcool, hobject, hlast, hlife⟩ := slice_eq_iff.1 h
  exact slice_eq_iff.2 ⟨hprev, hf _ _ hcool, hobject, hlast, hlife⟩

/-- What a probe means for a service depends on its own entries. -/
theorem probeMark_congr (t : TickLocals) {row : RailwayVisibilityRow} (ok : Bool)
    {l l' : HeartbeatExitLifecycleState}
    (h : l.entries row.railwayServiceId = l'.entries row.railwayServiceId) :
    probeMark t row l ok = probeMark t row l' ok := by
  have hsync := (HeartbeatExitLifecycleState.keyed_sync row.depId).self l l' h
  obtain ⟨hfails, -, hexited, -⟩ := HeartbeatExitLifecycleState.entries_eq_iff.1 hsync
  have hfirst : showsFirstExit (syncHeartbeatExitDeploymentId l row.railwayServiceId row.depId)
        row.railwayServiceId t.env =
      showsFirstExit (syncHeartbeatExitDeploymentId l' row.railwayServiceId row.depId)
        row.railwayServiceId t.env := by
    unfold showsFirstExit
    rw [hfails, hexited]
  unfold probeMark
  simp only [hfirst]

namespace BlindCall

theorem serve_eq (h : BlindCall sid q) (w : Scripted) : w.serve q =
    ((Watchdog.serve w.choice w.world q).1, w.moved (Watchdog.serve w.choice w.world q).2) := by
  cases h with
  | outside h => cases h <;> rfl
  | _ => rfl

theorem answer (h : BlindCall sid q) (c : Choice) (w v : World) :
    (serve c w q).1 = (serve c v q).1 := by
  cases h with
  | outside h => cases h <;> rfl
  | _ => rfl

theorem sameObjects (h : BlindCall sid q) (c : Choice) (w : World) :
    SameObjects w.state (serve c w q).2.state := by
  cases h with
  | outside h =>
    cases h with
    | log f hf =>
      have hstate : (serve c w (.update f)).2.state = _ := hf w.state
      rw [hstate]
      exact ⟨rfl, rfl, rfl⟩
    | _ => exact ⟨rfl, rfl, rfl⟩
  | _ => exact ⟨rfl, rfl, rfl⟩

theorem slice (h : BlindCall sid q) (c : Choice) {w v : World}
    (hw : w.state.slice sid = v.state.slice sid) :
    (serve c w q).2.state.slice sid = (serve c v q).2.state.slice sid := by
  cases h with
  | outside h =>
    cases h with
    | log f hf =>
      have hstate : ∀ w, (serve c w (.update f)).2.state = _ := fun w => hf w.state
      rw [hstate, hstate]
      exact hw
    | clearFlag => exact slice_lifecycle HeartbeatExitLifecycleState.keyed_clearFlag hw
    | clearService => exact slice_lifecycle HeartbeatExitLifecycleState.keyed_clearService hw
    | requeue => exact slice_lifecycle HeartbeatExitLifecycleState.keyed_requeue hw
    | cooldown now =>
      exact slice_cooldown (f := (·.set sid now))
        (fun d d' _ => (d.get_set_self sid now).trans (d'.get_set_self sid now).symm) hw
    | healthy =>
      exact slice_cooldown (f := (·.delete sid))
        (fun d d' _ => (d.get_delete_self sid).trans (d'.get_delete_self sid).symm) hw
    | _ => exact hw
  | lastRecover now =>
    obtain ⟨hprev, hcool, hobject, hlast, hlife⟩ := slice_eq_iff.1 hw
    refine slice_eq_iff.2 ⟨hprev, hcool, hobject, ?_, hlife⟩
    exact (Dict.get_set_self _ sid now).trans (Dict.get_set_self _ sid now).symm
  | probe t hrow ok =>
    subst hrow
    exact slice_lifecycle (HeartbeatExitLifecycleState.keyed_probe _ _ _ _) hw
  | _ => exact hw

theorem marks (h : BlindCall sid q) (c : Choice) {w v : World}
    (hw : w.state.slice sid = v.state.slice sid)
    (hmarks : marksOf sid w.trace = marksOf sid v.trace) :
    marksOf sid (serve c w q).2.trace = marksOf sid (serve c v q).2.trace := by
  cases h with
  | outside h =>
    cases h with
    | healthy => exact marksOf_cons rfl hmarks
    | sendDeploy _ _ => exact marksOf_cons rfl hmarks
    | awaitDeploy _ => exact marksOf_cons rfl hmarks
    | _ => exact hmarks
  | sendDeploy _ => exact marksOf_cons rfl hmarks
  | awaitDeploy => exact marksOf_cons rfl hmarks
  | probe t hrow ok =>
    subst hrow
    have hmark := probeMark_congr t ok (slice_eq_iff.1 hw).2.2.2.2
    exact marksOf_cons (congrArg (fun m => Mark.mk c.now (.probe m)) hmark) hmarks
  | _ => exact hmarks

end BlindCall

end

/-! ## Steps in lockstep -/

section

variable {sid : String} {w v : Scripted} {ref ref' : Nat} {q : Call}

theorem Like.blind (h : Like sid w v) (hq : BlindCall sid q) :
    (v.serve q).1 = (w.serve q).1 ∧ Like sid (w.serve q).2 (v.serve q).2 := by
  rw [hq.serve_eq, hq.serve_eq, h.choice]
  refine ⟨hq.answer _ _ _, h.moved (hq.slice _ h.slice) (hq.marks _ h.slice h.marks) ?_ ?_⟩
  · have hsame := hq.sameObjects w.choice w.world
    rw [hsame.refs, hsame.fresh]
    exact h.lt_left
  · have hsame := hq.sameObjects w.choice v.world
    rw [hsame.refs, hsame.fresh]
    exact h.lt_right

theorem Held.blind (h : Held sid ref ref' w v) (hq : BlindCall sid q) :
    (v.serve q).1 = (w.serve q).1 ∧ Held sid ref ref' (w.serve q).2 (v.serve q).2 := by
  obtain ⟨hanswer, hlike⟩ := h.like.blind hq
  have hw : SameObjects w.world.state (w.serve q).2.world.state := by
    rw [hq.serve_eq]
    exact hq.sameObjects _ _
  have hv : SameObjects v.world.state (v.serve q).2.world.state := by
    rw [hq.serve_eq]
    exact hq.sameObjects _ _
  refine ⟨hanswer, hlike, ?_, ?_, ?_, ?_⟩
  · rw [hw.objects, hv.objects]
    exact h.object
  · rw [hw.refs, hv.refs]
    exact h.linked
  · rw [hw.fresh]
    exact h.lt_left
  · rw [hv.fresh]
    exact h.lt_right

theorem Like.get (h : Like sid w v) : Like sid (w.serve .get).2 (v.serve .get).2 :=
  h.moved h.slice h.marks h.lt_left h.lt_right

theorem Held.get (h : Held sid ref ref' w v) :
    Held sid ref ref' (w.serve .get).2 (v.serve .get).2 :=
  ⟨h.like.get, h.object, h.linked, h.lt_left, h.lt_right⟩

/-- What the map has for a service after a change of one heartbeat object. -/
theorem map_updateObject {s : WatchdogPersistentState} (ref : Nat)
    (f : HeartbeatRecoverState → HeartbeatRecoverState) :
    (s.heartbeatRecoverState.get sid).map
        (fun r => if r = ref then f (s.heartbeatObjects r) else s.heartbeatObjects r) =
      if s.heartbeatRecoverState.get sid = some ref then some (f (s.heartbeatObjects ref))
      else (s.heartbeatRecoverState.get sid).map s.heartbeatObjects := by
  cases hget : s.heartbeatRecoverState.get sid with
  | none => simp
  | some r =>
    by_cases hr : r = ref
    · simp [hr]
    · simp [hr]

/-- Both runs change the state. -/
theorem Like.update (h : Like sid w v) {f g : WatchdogPersistentState → WatchdogPersistentState}
    (hslice : (f w.world.state).slice sid = (g v.world.state).slice sid)
    (hf : ∀ r, (f w.world.state).heartbeatRecoverState.get sid = some r →
      r < (f w.world.state).freshObject)
    (hg : ∀ r, (g v.world.state).heartbeatRecoverState.get sid = some r →
      r < (g v.world.state).freshObject) :
    Like sid (w.serve (.update f)).2 (v.serve (.update g)).2 :=
  h.moved hslice h.marks hf hg

/-- Both runs make a new object. -/
theorem Like.newObject (h : Like sid w v) (hbSt : HeartbeatRecoverState) :
    Held sid w.world.state.freshObject v.world.state.freshObject
      (w.serve (.update fun s => { s with
        heartbeatObjects := fun r => if r = s.freshObject then hbSt else s.heartbeatObjects r
        freshObject := s.freshObject + 1 })).2
      (v.serve (.update fun s => { s with
        heartbeatObjects := fun r => if r = s.freshObject then hbSt else s.heartbeatObjects r
        freshObject := s.freshObject + 1 })).2 := by
  obtain ⟨hprev, hcool, hobject, hlast, hlife⟩ := slice_eq_iff.1 h.slice
  -- the objects in the map are older
  have hold : ∀ s : WatchdogPersistentState,
      (∀ r, s.heartbeatRecoverState.get sid = some r → r < s.freshObject) →
      (s.heartbeatRecoverState.get sid).map
        (fun r => if r = s.freshObject then hbSt else s.heartbeatObjects r) =
      (s.heartbeatRecoverState.get sid).map s.heartbeatObjects := by
    intro s hlt
    cases hget : s.heartbeatRecoverState.get sid with
    | none => rfl
    | some r => exact congrArg some (if_neg (Nat.ne_of_lt (hlt r hget)))
  refine ⟨h.update (slice_eq_iff.2 ⟨hprev, hcool, ?_, hlast, hlife⟩) ?_ ?_, ?_, ?_,
    Nat.lt_succ_self _, Nat.lt_succ_self _⟩
  · simp only [hold _ h.lt_left, hold _ h.lt_right, hobject]
  · exact fun r hr => Nat.lt_succ_of_lt (h.lt_left r hr)
  · exact fun r hr => Nat.lt_succ_of_lt (h.lt_right r hr)
  · exact (if_pos rfl).trans (if_pos rfl).symm
  · exact iff_of_false (fun hr => Nat.lt_irrefl _ (h.lt_left _ hr))
      fun hr => Nat.lt_irrefl _ (h.lt_right _ hr)

/-- Both runs change the object they have in hand. -/
theorem Held.updateObject (h : Held sid ref ref' w v)
    (f : HeartbeatRecoverState → HeartbeatRecoverState) :
    Held sid ref ref'
      (w.serve (.update fun s => { s with
        heartbeatObjects := fun r => if r = ref then f (s.heartbeatObjects r)
          else s.heartbeatObjects r })).2
      (v.serve (.update fun s => { s with
        heartbeatObjects := fun r => if r = ref' then f (s.heartbeatObjects r)
          else s.heartbeatObjects r })).2 := by
  obtain ⟨hprev, hcool, hobject, hlast, hlife⟩ := slice_eq_iff.1 h.like.slice
  refine ⟨h.like.update ?_ h.like.lt_left h.like.lt_right, ?_, h.linked, h.lt_left, h.lt_right⟩
  · refine slice_eq_iff.2 ⟨hprev, hcool, ?_, hlast, hlife⟩
    simp only [map_updateObject, hobject, h.object, h.linked]
  · have hself : ∀ (s : WatchdogPersistentState) (r : Nat),
        (if r = r then f (s.heartbeatObjects r) else s.heartbeatObjects r) =
          f (s.heartbeatObjects r) :=
      fun _ _ => if_pos rfl
    exact (hself _ ref).trans ((congrArg f h.object).trans (hself _ ref').symm)

/-- Both runs put the object they have in hand into the map. -/
theorem Held.setObject (h : Held sid ref ref' w v) :
    Like sid
      (w.serve (.update fun s => { s with
        heartbeatRecoverState := s.heartbeatRecoverState.set sid ref })).2
      (v.serve (.update fun s => { s with
        heartbeatRecoverState := s.heartbeatRecoverState.set sid ref' })).2 := by
  obtain ⟨hprev, hcool, -, hlast, hlife⟩ := slice_eq_iff.1 h.like.slice
  refine h.like.update (slice_eq_iff.2 ⟨hprev, hcool, ?_, hlast, hlife⟩) ?_ ?_
  · simp only [Dict.get_set_self, Option.map_some, h.object]
  · intro r hr
    simp only [Dict.get_set_self, Option.some.injEq] at hr
    exact hr ▸ h.lt_left
  · intro r hr
    simp only [Dict.get_set_self, Option.some.injEq] at hr
    exact hr ▸ h.lt_right

/-- Both runs delete the entry of the map. -/
theorem Like.deleteObject (h : Like sid w v) :
    Like sid
      (w.serve (.update fun s => { s with
        heartbeatRecoverState := s.heartbeatRecoverState.delete sid })).2
      (v.serve (.update fun s => { s with
        heartbeatRecoverState := s.heartbeatRecoverState.delete sid })).2 := by
  obtain ⟨hprev, hcool, -, hlast, hlife⟩ := slice_eq_iff.1 h.slice
  refine h.update (slice_eq_iff.2 ⟨hprev, hcool, ?_, hlast, hlife⟩) ?_ ?_
  · simp only [Dict.get_delete_self, Option.map_none]
  all_goals simp

end

/-! ## Parts in lockstep -/

/-- Runs that `L` relates stay related by calls that do not show the state, and by reading it. -/
structure Lockstep (sid : String) (L : Scripted → Scripted → Prop) : Prop where
  blind : ∀ {q w v}, L w v → BlindCall sid q →
    (v.serve q).1 = (w.serve q).1 ∧ L (w.serve q).2 (v.serve q).2
  get : ∀ {w v}, L w v → L (w.serve .get).2 (v.serve .get).2

theorem Like.lockstep (sid : String) : Lockstep sid (Like sid) := ⟨Like.blind, Like.get⟩

theorem Held.lockstep (sid : String) (ref ref' : Nat) : Lockstep sid (Held sid ref ref') :=
  ⟨Held.blind, Held.get⟩

/-- Both totals gain the same events. -/
def SameEvents (totals totals' after after' : TickTotals) : Prop :=
  ∃ events, after.events = totals.events ++ events ∧ after'.events = totals'.events ++ events

theorem SameEvents.of_events {totals totals' after after' : TickTotals}
    (h : after.events = totals.events) (h' : after'.events = totals'.events) :
    SameEvents totals totals' after after' := ⟨[], by simp [h], by simp [h']⟩

theorem SameEvents.push (totals totals' : TickTotals) (event : WatchdogEvent) :
    SameEvents totals totals' (totals.push event) (totals'.push event) := ⟨[event], rfl, rfl⟩

theorem SameEvents.trans {totals totals' mid mid' after after' : TickTotals}
    (h : SameEvents totals totals' mid mid') (h' : SameEvents mid mid' after after') :
    SameEvents totals totals' after after' := by
  obtain ⟨events, he, he'⟩ := h
  obtain ⟨more, hm, hm'⟩ := h'
  exact ⟨events ++ more, by rw [hm, he, List.append_assoc], by rw [hm', he', List.append_assoc]⟩

/-- A part of a row in two runs: `L` holds before it and `L'` after it, and it adds the same
events. -/
def Pair (L L' : Scripted → Scripted → Prop) (totals totals' : TickTotals)
    (p p' : Tick TickTotals) :
    Prop :=
  scripted.Twin () () L p p' fun after after' w v =>
    SameEvents totals totals' after after' ∧ L' w v

section

variable {sid : String} {L L' L'' : Scripted → Scripted → Prop} {α : Type} {p : Tick α}
  {ψ : α → Prop} {totals totals' : TickTotals}

theorem Pair.ret {after after' : TickTotals} (h : SameEvents totals totals' after after') :
    Pair L L totals totals' (pure after) (pure after') := Server.Twin.ret fun _ _ hw => ⟨h, hw⟩

/-- The totals before a part may differ, too. -/
theorem Pair.after {mid mid' : TickTotals} {p p' : Tick TickTotals}
    (h : SameEvents totals totals' mid mid') (hp : Pair L L' mid mid' p p') :
    Pair L L' totals totals' p p' :=
  Server.Twin.mono hp (fun _ _ hw => hw) fun _ _ _ _ hpost => ⟨h.trans hpost.1, hpost.2⟩

theorem Pair.bind {p p' : Tick TickTotals} {f f' : TickTotals → Tick TickTotals}
    (hp : Pair L L' totals totals' p p') (hf : ∀ a b, Pair L' L'' a b (f a) (f' b)) :
    Pair L L'' totals totals' (p >>= f) (p' >>= f') :=
  Server.Twin.bind hp fun a b => .assume fun h => (hf a b).after h

theorem Lockstep.twin (hL : Lockstep sid L) (hp : p.Obeys (BlindCall sid) ψ) :
    scripted.Twin () () L p p fun a b w v => a = b ∧ L w v := by
  refine .of_obeys (fun q w v hq hw => ?_) hp
  obtain ⟨hanswer, hw'⟩ := hL.blind hw hq
  have hv : v.serve q = ((w.serve q).1, (v.serve q).2) := Prod.ext hanswer rfl
  exact ⟨(w.serve q).1, (w.serve q).2, (v.serve q).2, rfl, congrArg some hv, hw'⟩

/-- A part outside of the heartbeat. -/
theorem Lockstep.outside (hL : Lockstep sid L) (hp : p.Obeys (OutsideHeartbeat sid) ψ) :
    scripted.Twin () () L p p fun a b w v => a = b ∧ L w v :=
  hL.twin (hp.mono (fun _ => .outside) fun _ => id)

/-- Each run changes its state. -/
theorem twin_update {f g : WatchdogPersistentState → WatchdogPersistentState}
    (h : ∀ w v, L w v → L' (w.serve (.update f)).2 (v.serve (.update g)).2) :
    scripted.Twin () () L (update f) (update g) fun a b w v => a = b ∧ L' w v :=
  .perform fun w v hw => ⟨_, _, _, _, rfl, rfl, rfl, h w v hw⟩

end

end PeHackathon.Watchdog
