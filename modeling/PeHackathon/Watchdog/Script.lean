import PeHackathon.Lib.Twin
import PeHackathon.Watchdog.SequentialTicks

/-!
# Ticks that meet a script

A `Script` fixes what a tick meets, by service: the `n`-th call made while the row of a service is
handled gets the clock readings and the answers of `service sid n`, wherever the row stands in the
list. `play` is the run of a tick under a script. It is one of the runs of `solo`.

`Like sid` relates two such runs at the row of `sid`: the script goes on alike, and the maps, the
heartbeat object and the marks of `sid` are equal. The calls of a row keep it, whatever else
differs.
-/

namespace PeHackathon.Watchdog

open Lib

/-! ## Scripts -/

/-- The answer of the poll, and the choices that calls meet: before the first row, and at the row of
each service. -/
structure Script where
  rows : VisibilityResult
  poll : Nat → Choice
  service : String → Nat → Choice

/-- A tick at work: the service whose row it handles, and how many calls it has made there. -/
structure Scripted where
  script : Script
  world : World
  service : Option String
  calls : Nat

namespace Scripted

/-- What the next call meets. -/
def choice (w : Scripted) : Choice :=
  match w.service with
  | none => { w.script.poll w.calls with rows := w.script.rows }
  | some sid => w.script.service sid w.calls

/-- A tick that takes up a row turns to its service. -/
def turn (w : Scripted) : Call → Scripted
  | .takeUp _ row => { w with service := some row.railwayServiceId, calls := 0 }
  | _ => w

/-- The world after a call. -/
def moved (w : Scripted) (world : World) : Scripted := { w with world, calls := w.calls + 1 }

def serve (w : Scripted) (q : Call) : Answer q × Scripted :=
  let w := w.turn q
  let served := Watchdog.serve w.choice w.world q
  (served.1, w.moved served.2)

end Scripted

/-- One tick alone, under its script. -/
def scripted : Server Answer Unit Unit Scripted where
  respond _ _ w q := some (w.serve q)
  yields _ := false

/-- The run of a program under a script. -/
def play {α : Type} : Tick α → Scripted → α × Scripted
  | .ret a, w => (a, w)
  | .call q k, w => play (k (w.serve q).1) (w.serve q).2

section Play

variable {α β : Type}

theorem eval_scripted (p : Tick α) (w : Scripted) : scripted.eval () () p w = some (play p w) := by
  induction p generalizing w with
  | ret a => rfl
  | call q k ih => exact ih _ _

theorem play_bind (p : Tick α) (f : α → Tick β) (w : Scripted) :
    play (p >>= f) w = play (f (play p w).1) (play p w).2 := by
  induction p generalizing w with
  | ret a => rfl
  | call q k ih => exact ih _ _

theorem play_script (p : Tick α) (w : Scripted) : (play p w).2.script = w.script := by
  induction p generalizing w with
  | ret a => rfl
  | call q k ih =>
    refine (ih _ _).trans ?_
    cases q <;> rfl

/-- **A run under a script** is a run that nothing interrupts. -/
theorem play_runs (p : Tick α) (w : Scripted) :
    solo.Runs () p w.world (play p w).1 (play p w).2.world := by
  induction p generalizing w with
  | ret a => exact .ret a w.world
  | call q k ih =>
    have hrespond : solo.respond () (w.turn q).choice w.world q =
        some ((w.serve q).1, (w.serve q).2.world) := by
      cases q <;> rfl
    exact .call hrespond (ih _ _)

/-- Twins under scripts, by their runs. -/
theorem play_twin {L : Scripted → Scripted → Prop} {p : Tick α} {p' : Tick β}
    {post : α → β → Scripted → Scripted → Prop} (h : scripted.Twin () () L p p' post)
    {w v : Scripted} (hw : L w v) :
    post (play p w).1 (play p' v).1 (play p w).2 (play p' v).2 := by
  obtain ⟨b, v', hp', hpost⟩ := (h.agree hw).right (eval_scripted p w)
  rw [Option.some.inj ((eval_scripted p' v).symm.trans hp')]
  exact hpost

end Play

/-! ## What a service has -/

/-- The entries of a service, its heartbeat object by value. -/
def WatchdogPersistentState.slice (s : WatchdogPersistentState) (k : String) :
    ServiceEntries HeartbeatRecoverState where
  prev := s.prev.get k
  recoverCooldown := s.recoverCooldown.get k
  heartbeatRecoverState := (s.heartbeatRecoverState.get k).map s.heartbeatObjects
  heartbeatLastRecoverAt := s.heartbeatLastRecoverAt.get k
  lifecycle := s.heartbeatExitLifecycle.entries k

/-- The marks of a service, newest first. -/
def marksOf (k : String) (trace : List Mark) : List Mark :=
  trace.filter fun mark => mark.kind.service? = some k

section Slice

variable {sid k : String}

theorem slice_eq_iff {s s' : WatchdogPersistentState} {k k' : String} :
    s.slice k = s'.slice k' ↔ s.prev.get k = s'.prev.get k' ∧
      s.recoverCooldown.get k = s'.recoverCooldown.get k' ∧
      (s.heartbeatRecoverState.get k).map s.heartbeatObjects =
        (s'.heartbeatRecoverState.get k').map s'.heartbeatObjects ∧
      s.heartbeatLastRecoverAt.get k = s'.heartbeatLastRecoverAt.get k' ∧
      s.heartbeatExitLifecycle.entries k = s'.heartbeatExitLifecycle.entries k' := by
  simp [WatchdogPersistentState.slice]

theorem slice_of_entries {s s' : WatchdogPersistentState} (h : s'.entries k = s.entries k)
    (hobject : ∀ ref, s.heartbeatRecoverState.get k = some ref →
      s'.heartbeatObjects ref = s.heartbeatObjects ref) : s'.slice k = s.slice k := by
  obtain ⟨hprev, hcool, hrefs, hlast, hlife⟩ := WatchdogPersistentState.entries_eq_iff.1 h
  refine slice_eq_iff.2 ⟨hprev, hcool, ?_, hlast, hlife⟩
  rw [hrefs]
  cases hget : s.heartbeatRecoverState.get k with
  | none => rfl
  | some ref => exact congrArg some (hobject ref hget)

theorem marksOf_append (k : String) (marks trace : List Mark) :
    marksOf k (marks ++ trace) = marksOf k marks ++ marksOf k trace := List.filter_append ..

theorem marksOf_cons {mark mark' : Mark} {trace trace' : List Mark} (hmark : mark = mark')
    (h : marksOf k trace = marksOf k trace') :
    marksOf k (mark :: trace) = marksOf k (mark' :: trace') := by
  subst hmark
  exact (marksOf_append k [mark] trace).trans (by rw [h, ← marksOf_append, List.singleton_append])

/-- The marks of a row are none of another service's. -/
theorem Adds.marksOf {trace trace' : List Mark} (h : Adds sid trace trace') (hk : k ≠ sid) :
    marksOf k trace' = marksOf k trace := by
  obtain ⟨marks, rfl, hmarks⟩ := h
  have hnone : Watchdog.marksOf k marks = [] := by
    refine List.filter_eq_nil_iff.2 fun mark hmark => ?_
    simp [(hmarks mark hmark).1, Ne.symm hk]
  rw [marksOf_append, hnone, List.nil_append]

end Slice

end PeHackathon.Watchdog
