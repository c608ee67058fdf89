import Mathlib.Data.Fintype.Basic
import PeHackathon.Dashboard.K6Runner

/-!
# One k6 process

`start` checks in one section of the lock and stores in another, and launches its process between
the two. `one_k6_process`: at most one process is alive as long as no start passes its check while
another is between its check and its store; the process is then in `_proc`, but for the time from
its launch to its store. From a check that another start overlaps, a run can go on to a process that
`stop` does not reach.
-/

namespace PeHackathon.Dashboard

open Lib

/-! ## Starts between their check and their store -/

/-- Whether a start is before its launch (`none`) or before its store of a process. -/
def K6Call.window? : K6Call → Option (Option Pid)
  | .popen _ => some none
  | .store pid _ _ => some (some pid)
  | _ => none

section

variable {ι : Type}

/-- Where thread `i` is, if it is a start between its check and its store. -/
def startOf (p : K6Pool ι) (i : ι) : Option (Option Pid) := (p.procs i).next?.bind K6Call.window?

/-- What a run asks of a step: a start passes its check only if no start is between its check and
its store. -/
def StartsAlone (p : K6Pool ι) (i : ι) (_ : K6Choice) : Prop :=
  (p.procs i).next? = some .poll → p.world.procAlive = false → ∀ j, startOf p j = none

instance [Fintype ι] (p : K6Pool ι) (i : ι) (c : K6Choice) : Decidable (StartsAlone p i c) :=
  inferInstanceAs (Decidable (_ → _ → _))

/-- What a step is to the processes and to where its thread is as a start. -/
inductive StartStep : Option (Option Pid) → K6World → Option (Option Pid) → K6World → Prop
  /-- The check is passed. -/
  | check {w : K6World} (hidle : w.procAlive = false) : StartStep none w (some none) w
  | launch (w : K6World) : StartStep (some none) w (some (some w.launched))
      { w with launched := w.launched + 1, alive := Function.update w.alive w.launched true }
  | launchFails (w : K6World) : StartStep (some none) w none w
  | store {w w' : K6World} {pid : Pid} (hproc : w'.proc = some pid)
      (hlaunched : w'.launched = w.launched)
      (halive : w'.alive = w.alive) : StartStep (some (some pid)) w none w'
  /-- Anything else: a process may be over. -/
  | other {w w' : K6World} (hproc : w'.proc = w.proc) (hlaunched : w'.launched = w.launched)
      (halive : ∀ pid, w'.alive pid = true → w.alive pid = true) : StartStep none w none w'

theorem K6World.testFinished_frame (w : K6World) :
    w.testFinished.proc = w.proc ∧ w.testFinished.launched = w.launched ∧
      w.testFinished.alive = w.alive := by
  unfold testFinished
  split
  · exact ⟨rfl, rfl, rfl⟩
  · exact ⟨rfl, rfl, rfl⟩

variable {environ : K6Environ}

theorem startOf_phase {p : K6Pool ι} {i : ι} {phase : K6Phase}
    (hphase : p.procs i = phase.prog environ) :
    startOf p i = (phase.call? environ).bind K6Call.window? := by
  unfold startOf
  rw [hphase, K6Phase.next?_prog]

variable [DecidableEq ι] {p p' : K6Pool ι} {i j : ι} {c : K6Choice}

theorem startOf_ne (h : p.next (k6Server ι) i c = some p') (hj : j ≠ i) :
    startOf p' j = startOf p j := by
  unfold startOf
  rw [Pool.next_procs_ne h hj]

/-- Everything a step can be to the starts. -/
theorem start_step (h : p.next (k6Server ι) i c = some p') {phase : K6Phase}
    (hphase : p.procs i = phase.prog environ) :
    StartStep (startOf p i) p.world (startOf p' i) p'.world ∧
      (startOf p i = none → startOf p' i = some none → (p.procs i).next? = some .poll) := by
  obtain ⟨hafter, q, r, hq, hserve⟩ := k6_step h hphase
  rw [startOf_phase hphase, startOf_phase hafter, hphase, K6Phase.next?_prog]
  rw [hphase, K6Phase.next?_prog] at hq
  cases phase with
  | begins thread =>
    cases thread with
    | start run =>
      cases hq
      obtain ⟨-, hworld⟩ := Prod.mk.inj (Option.some.inj hserve)
      refine ⟨?_, fun _ _ => rfl⟩
      rw [← hworld]
      cases hidle : p.world.procAlive with
      | false =>
        simp only [K6Phase.after, hidle]
        exact .check hidle
      | true =>
        simp only [K6Phase.after, hidle]
        exact .other rfl rfl fun _ h => h
    | stop =>
      cases hq
      have hworld : p'.world = p.world := by
        simp only [k6Serve] at hserve
        cases hp : p.world.procAlive <;> cases hs : c.signalFails <;>
          simp only [hp, hs, Bool.false_eq_true, if_true, if_false, Option.some.injEq,
            Prod.mk.injEq] at hserve <;>
          exact hserve.2.symm
      have hdone : ∃ result, (K6Phase.begins .stop).after c p.world = .done result := by
        cases hp : p.world.procAlive <;> cases hs : c.signalFails <;> simp [K6Phase.after, hp, hs]
      obtain ⟨result, hdone⟩ := hdone
      rw [hworld, hdone]
      exact ⟨.other rfl rfl fun _ h => h, fun _ h => by cases h⟩
    | status =>
      cases hq
      obtain ⟨-, hworld⟩ := Prod.mk.inj (Option.some.inj hserve)
      obtain ⟨hproc, hlaunched, halive⟩ := p.world.testFinished_frame
      refine ⟨?_, fun _ h => by cases h⟩
      rw [← hworld]
      split
      · exact .other hproc hlaunched fun pid h => by rwa [halive] at h
      · exact .other rfl rfl fun _ h => h
    | reader =>
      cases hq
      obtain ⟨-, hworld⟩ := Prod.mk.inj (Option.some.inj hserve)
      rw [← hworld]
      cases hp : p.world.proc with
      | none =>
        simp only [K6Phase.after, hp]
        exact ⟨.other rfl rfl fun _ h => h, fun _ h => by cases h⟩
      | some pid =>
        simp only [K6Phase.after, hp]
        exact ⟨.other rfl rfl fun _ h => h, fun _ h => by cases h⟩
    | exit pid =>
      cases hq
      refine ⟨?_, fun _ h => by cases h⟩
      simp only [k6Serve] at hserve
      split at hserve
      · obtain ⟨-, hworld⟩ := Prod.mk.inj (Option.some.inj hserve)
        rw [← hworld]
        refine .other rfl rfl fun pid' halive => ?_
        by_cases hpid : pid' = pid
        · simp [hpid] at halive
        · simpa [hpid] using halive
      · cases hserve
  | launches run =>
    cases hq
    refine ⟨?_, fun h => by cases h⟩
    simp only [k6Serve] at hserve
    cases hp : c.popenFails with
    | none =>
      simp only [hp, Option.some.injEq, Prod.mk.injEq] at hserve
      rw [← hserve.2]
      simp only [K6Phase.after, hp]
      exact .launch _
    | some error =>
      simp only [hp, Option.some.injEq, Prod.mk.injEq] at hserve
      rw [← hserve.2]
      cases error <;> simp only [K6Phase.after, hp] <;> exact .launchFails _
  | stores run pid =>
    cases hq
    obtain ⟨-, hworld⟩ := Prod.mk.inj (Option.some.inj hserve)
    rw [← hworld]
    exact ⟨.store rfl rfl rfl, fun h => by cases h⟩
  | waits pid =>
    cases hq
    refine ⟨?_, fun _ h => by cases h⟩
    simp only [k6Serve] at hserve
    split at hserve
    · cases hserve
    · obtain ⟨-, hworld⟩ := Prod.mk.inj (Option.some.inj hserve)
      rw [← hworld]
      exact .other rfl rfl fun _ h => h
  | ends =>
    cases hq
    obtain ⟨-, hworld⟩ := Prod.mk.inj (Option.some.inj hserve)
    obtain ⟨hproc, hlaunched, halive⟩ := p.world.testFinished_frame
    rw [← hworld]
    exact ⟨.other hproc hlaunched fun pid h => by rwa [halive] at h, fun _ h => by cases h⟩
  | done r => cases hq

end

/-! ## At most one -/

section

variable {ι : Type}

/-- Starts that check alone: no two are between their check and their store, and a process that is
alive is in `_proc` or is that of the start which is about to store it. -/
structure OneStart (start : ι → Option (Option Pid)) (w : K6World) : Prop where
  alone : ∀ i j, start i ≠ none → start j ≠ none → i = j
  proc_lt : ∀ pid, w.proc = some pid → pid < w.launched
  /-- A start stores a process that is none of those stored before. -/
  fresh : ∀ i pid, start i = some (some pid) → pid < w.launched ∧ w.proc ≠ some pid
  held : ∀ pid, w.alive pid = true → w.proc = some pid ∨ ∃ i, start i = some (some pid)
  /-- While a start is between its check and its store, only its own process can be alive. -/
  own : ∀ i, start i ≠ none → ∀ pid, w.alive pid = true → start i = some (some pid)

namespace OneStart

variable {start : ι → Option (Option Pid)} {w w' : K6World}

theorem at_most_one (h : OneStart start w) {a b : Pid} (ha : w.alive a = true)
    (hb : w.alive b = true) :
    a = b := by
  have hstored : ∀ {a b : Pid} {i : ι}, start i = some (some a) → w.alive b = true → a = b := by
    intro a b i hi hb
    have hown := h.own i (by rw [hi]; exact nofun) b hb
    rw [hi] at hown
    exact Option.some.inj (Option.some.inj hown)
  rcases h.held a ha with hproc | ⟨i, hi⟩
  · rcases h.held b hb with hproc' | ⟨j, hj⟩
    · exact Option.some.inj (hproc.symm.trans hproc')
    · exact (hstored hj ha).symm
  · exact hstored hi hb

/-- The process that is alive is in `_proc`, but for the time from its launch to its store. -/
theorem held_iff (h : OneStart start w) : (∀ pid, w.alive pid = true → w.proc = some pid) ↔
    ∀ i pid, start i = some (some pid) → w.alive pid = false := by
  constructor
  · intro hheld i pid hi
    cases halive : w.alive pid with
    | false => rfl
    | true => exact absurd (hheld pid halive) (h.fresh i pid hi).2
  · intro hover pid halive
    rcases h.held pid halive with hproc | ⟨i, hi⟩
    · exact hproc
    · rw [hover i pid hi] at halive
      cases halive

variable [DecidableEq ι] {i : ι} {s : Option (Option Pid)}

/-- A step of thread `i`, which passes its check only if no other start is on the way. -/
theorem step (h : OneStart start w) (hs : StartStep (start i) w s w')
    (halone : start i = none → s = some none → ∀ j, start j = none) :
    OneStart (Function.update start i s) w' := by
  have hne : ∀ {j}, j ≠ i → Function.update start i s j = start j :=
    fun hj => Function.update_of_ne hj _ _
  -- a thread that is no start after the step
  have hnone : ∀ {j}, s = none → Function.update start i s j ≠ none → j ≠ i ∧ start j ≠ none := by
    intro j hover hj
    have hji : j ≠ i := by
      rintro rfl
      rw [Function.update_self] at hj
      exact hj hover
    exact ⟨hji, hne hji ▸ hj⟩
  generalize hi : start i = si at hs
  cases hs with
  | check hidle =>
    have hnobody := halone hi rfl
    have hdead : ∀ pid, w.alive pid = true → False := by
      intro pid halive
      rcases h.held pid halive with hproc | ⟨j, hj⟩
      · unfold K6World.procAlive at hidle
        rw [hproc] at hidle
        simp only at hidle
        rw [halive] at hidle
        cases hidle
      · rw [hnobody j] at hj
        cases hj
    have hself : ∀ {j}, Function.update start i (some none) j ≠ none → j = i := by
      intro j hj
      by_contra hji
      rw [hne hji] at hj
      exact hj (hnobody j)
    refine ⟨fun j k hj hk => (hself hj).trans (hself hk).symm, h.proc_lt, fun j pid hj => ?_,
      fun pid halive => (hdead pid halive).elim, fun _ _ pid halive => (hdead pid halive).elim⟩
    have hji := hself (by rw [hj]; exact nofun)
    rw [hji, Function.update_self] at hj
    cases hj
  | launch =>
    have hstarting : start i ≠ none := by rw [hi]; exact nofun
    have hself : ∀ {j}, Function.update start i (some (some w.launched)) j ≠ none → j = i := by
      intro j hj
      by_contra hji
      rw [hne hji] at hj
      exact hji (h.alone j i hj hstarting)
    have hdead : ∀ pid, w.alive pid = true → False := by
      intro pid halive
      have hown := h.own i hstarting pid halive
      rw [hi] at hown
      cases hown
    have halive : ∀ pid, Function.update w.alive w.launched true pid = true → pid = w.launched := by
      intro pid halive
      by_contra hpid
      rw [Function.update_of_ne hpid] at halive
      exact hdead pid halive
    refine ⟨fun j k hj hk => (hself hj).trans (hself hk).symm,
      fun pid hproc => Nat.lt_succ_of_lt (h.proc_lt pid hproc), fun j pid hj => ?_,
      fun pid hpid => ?_, fun j hj pid hpid => ?_⟩
    · have hji := hself (by rw [hj]; exact nofun)
      rw [hji, Function.update_self] at hj
      cases hj
      exact ⟨Nat.lt_succ_self _, fun hproc => Nat.lt_irrefl _ (h.proc_lt _ hproc)⟩
    · right
      refine ⟨i, ?_⟩
      rw [Function.update_self, halive pid hpid]
    · rw [hself hj, Function.update_self, halive pid hpid]
  | launchFails =>
    refine ⟨fun j k hj hk => h.alone j k (hnone rfl hj).2 (hnone rfl hk).2, h.proc_lt,
      fun j pid hj => ?_, fun pid halive => ?_, fun j hj pid halive => ?_⟩
    · rw [hne (hnone rfl (by rw [hj]; exact nofun)).1] at hj
      exact h.fresh j pid hj
    · rcases h.held pid halive with hproc | ⟨j, hj⟩
      · exact .inl hproc
      · have hji : j ≠ i := by
          rintro rfl
          rw [hi] at hj
          cases hj
        exact .inr ⟨j, (hne hji).trans hj⟩
    · rw [hne (hnone rfl hj).1]
      exact h.own j (hnone rfl hj).2 pid halive
  | @store _ _ pid hproc hlaunched halive =>
    have hstarting : start i ≠ none := by rw [hi]; exact nofun
    have hnobody : ∀ j, Function.update start i none j = none := by
      intro j
      by_contra hj
      obtain ⟨hji, hj⟩ := hnone rfl hj
      exact hji (h.alone j i hj hstarting)
    have hpid := (h.fresh i pid hi).1
    refine ⟨fun j _ hj => absurd (hnobody j) hj, fun pid' hpid' => ?_, fun j pid' hj => ?_,
      fun pid' halive' => ?_, fun j hj => absurd (hnobody j) hj⟩
    · rw [hproc] at hpid'
      cases hpid'
      rwa [hlaunched]
    · rw [hnobody j] at hj
      cases hj
    · left
      rw [halive] at halive'
      have hown := h.own i hstarting pid' halive'
      rw [hi] at hown
      cases hown
      exact hproc
  | other hproc hlaunched halive =>
    have hsame : ∀ j, Function.update start i none j = start j := by
      intro j
      by_cases hji : j = i
      · rw [hji, Function.update_self, hi]
      · exact hne hji
    refine ⟨fun j k hj hk => ?_, fun pid hpid => ?_, fun j pid hj => ?_, fun pid hpid => ?_,
      fun j hj pid hpid => ?_⟩
    · rw [hsame] at hj hk
      exact h.alone j k hj hk
    · rw [hlaunched]
      exact h.proc_lt pid (hproc ▸ hpid)
    · rw [hsame] at hj
      rw [hlaunched, hproc]
      exact h.fresh j pid hj
    · rw [hproc]
      simp only [hsame]
      exact h.held pid (halive pid hpid)
    · rw [hsame] at hj ⊢
      exact h.own j hj pid (halive pid hpid)

end OneStart

end

section

variable {ι : Type} [DecidableEq ι] {environ : K6Environ} {p p' : K6Pool ι} {i j : ι} {c : K6Choice}

/-- Every thread is in some phase. -/
def InK6Phases (environ : K6Environ) (p : K6Pool ι) : Prop :=
  ∀ i, ∃ phase : K6Phase, p.procs i = phase.prog environ

theorem InK6Phases.step (hphases : InK6Phases environ p) (h : p.next (k6Server ι) i c = some p') :
    InK6Phases environ p' := by
  intro j
  by_cases hj : j = i
  · obtain ⟨phase, hphase⟩ := hphases i
    exact ⟨_, hj ▸ (k6_step h hphase).1⟩
  · rw [Pool.next_procs_ne h hj]
    exact hphases j

omit [DecidableEq ι] in
theorem startOf_threads (thread : ι → K6Thread) :
    startOf (k6Threads environ thread) = fun _ => none := by
  funext i
  have hphase : (k6Threads environ thread).procs i = (K6Phase.begins (thread i)).prog environ := rfl
  rw [startOf_phase hphase]
  cases thread i <;> rfl

theorem startOf_step (h : p.next (k6Server ι) i c = some p') :
    startOf p' = Function.update (startOf p) i (startOf p' i) := by
  funext j
  by_cases hj : j = i
  · rw [hj, Function.update_self]
  · rw [Function.update_of_ne hj]
    exact startOf_ne h hj

omit [DecidableEq ι] in
theorem oneStart_threads (thread : ι → K6Thread) :
    OneStart (startOf (k6Threads environ thread)) (k6Threads environ thread).world := by
  rw [startOf_threads]
  exact ⟨fun _ _ h => absurd rfl h, nofun, nofun, nofun, fun _ h => absurd rfl h⟩

/-- What every step of a run that checks alone keeps. -/
theorem oneStart_steps (thread : ι → K6Thread)
    (h : Pool.Steps (k6Server ι) StartsAlone (k6Threads environ thread) p) :
    InK6Phases environ p ∧ OneStart (startOf p) p.world := by
  refine h.inv (J := fun p => InK6Phases environ p ∧ OneStart (startOf p) p.world) ?_
    ⟨fun i => ⟨.begins (thread i), rfl⟩, oneStart_threads thread⟩
  rintro p p' i c halone hn ⟨hphases, hone⟩
  obtain ⟨phase, hphase⟩ := hphases i
  obtain ⟨hstep, hpoll⟩ := start_step hn hphase
  refine ⟨hphases.step hn, ?_⟩
  rw [startOf_step hn]
  refine hone.step hstep fun hbefore hafter => halone (hpoll hbefore hafter) ?_
  generalize p.world = w at hstep ⊢
  generalize p'.world = w' at hstep
  rw [hbefore, hafter] at hstep
  cases hstep with
  | check hidle => exact hidle

/-! ## A check that is overlapped -/

/-- A choice under which a process can be launched. -/
def launching : K6Choice := ⟨0, none, none⟩

/-- A start before its store can go on to it. -/
theorem store_goes (hfree : p.holder = none) {run : K6Run} {pid : Pid}
    (hj : p.procs j = (K6Phase.stores run pid).prog environ) :
    ∃ q, p.next (k6Server ι) j launching = some q ∧ startOf q j = none ∧
      q.world.alive = p.world.alive ∧
      q.world.launched = p.world.launched ∧ q.world.proc = some pid := by
  refine ⟨_, Pool.next_of_call hfree hj rfl, ?_, rfl, rfl, rfl⟩
  unfold startOf
  simp only [Function.update_self]
  rfl

/-- A start before its launch can go on to it. -/
theorem launch_goes (hfree : p.holder = none) {run : K6Run}
    (hj : p.procs j = (K6Phase.launches run).prog environ) :
    ∃ q, p.next (k6Server ι) j launching = some q ∧
      q.procs j = (K6Phase.stores run p.world.launched).prog environ ∧
      q.world.alive = Function.update p.world.alive p.world.launched true ∧
      q.world.launched = p.world.launched + 1 := by
  refine ⟨_, Pool.next_of_call hfree hj rfl, ?_, rfl, rfl⟩
  simp only [Function.update_self]
  rfl

/-- A start on the way can go on to its end, without disturbing the others. -/
theorem start_finishes (hphases : InK6Phases environ p) (hfree : p.holder = none) {s : Option Pid}
    (hj : startOf p j = some s) :
    ∃ q, Pool.Steps (k6Server ι) (fun _ _ _ => True) p q ∧ (∀ k, k ≠ j → q.procs k = p.procs k) ∧
      startOf q j = none ∧ q.world.proc = some (s.getD p.world.launched) ∧
      (∀ pid, p.world.alive pid = true → q.world.alive pid = true) ∧
      (s = none → q.world.alive p.world.launched = true ∧ p.world.launched < q.world.launched) := by
  obtain ⟨phase, hphase⟩ := hphases j
  rw [startOf_phase hphase] at hj
  cases phase with
  | launches run =>
    cases hj
    obtain ⟨q₁, hn₁, hj₁, halive₁, hlaunched₁⟩ := launch_goes hfree hphase
    have hsteps₁ : Pool.Steps (k6Server ι) (fun _ _ _ => True) p q₁ := .step trivial hn₁ (.refl q₁)
    obtain ⟨q₂, hn₂, hj₂, halive₂, hlaunched₂, hproc₂⟩ :=
      store_goes (hsteps₁.free (fun _ => rfl) hfree) hj₁
    refine ⟨q₂, hsteps₁.trans (.step trivial hn₂ (.refl q₂)), fun k hk => ?_, hj₂, hproc₂,
      fun pid hpid => ?_, fun _ => ?_⟩
    · rw [Pool.next_procs_ne hn₂ hk, Pool.next_procs_ne hn₁ hk]
    · rw [halive₂, halive₁]
      by_cases h : pid = p.world.launched
      · rw [h, Function.update_self]
      · rwa [Function.update_of_ne h]
    · rw [halive₂, halive₁, Function.update_self, hlaunched₂, hlaunched₁]
      exact ⟨rfl, Nat.lt_succ_self _⟩
  | stores run pid =>
    cases hj
    obtain ⟨q, hn, hj, halive, -, hproc⟩ := store_goes hfree hphase
    refine ⟨q, .step trivial hn (.refl q), fun k hk => Pool.next_procs_ne hn hk, hj, hproc,
      fun pid hpid => ?_, nofun⟩
    rwa [halive]
  | begins thread => cases thread <;> cases hj
  | waits pid => cases hj
  | ends => cases hj
  | done r => cases hj

/-- From a check that passes while another start is on the way, the two can go on to their ends and
leave a process alive that is not in `_proc`. -/
theorem overlap_strands (hphases : InK6Phases environ p) (hfree : p.holder = none)
    (hone : OneStart (startOf p) p.world) (halone : ¬ StartsAlone p i c)
    (h : p.next (k6Server ι) i c = some p') :
    ∃ q pid, Pool.Steps (k6Server ι) (fun _ _ _ => True) p' q ∧ q.world.alive pid = true ∧
      q.world.proc ≠ some pid ∧ ∀ k, startOf q k = none := by
  unfold StartsAlone at halone
  push Not at halone
  obtain ⟨hpoll, hidle, j, hj⟩ := halone
  obtain ⟨phase, hphase⟩ := hphases i
  obtain ⟨hafter, call, r, hcall, hserve⟩ := k6_step h hphase
  have hi : startOf p i = none := by
    unfold startOf
    rw [hpoll]
    rfl
  have hi' : startOf p' i = some none ∧ p'.world = p.world := by
    rw [hpoll] at hcall
    cases hcall
    refine ⟨?_, (Prod.mk.inj (Option.some.inj hserve)).2.symm⟩
    rw [startOf_phase hafter]
    rw [hphase, K6Phase.next?_prog] at hpoll
    cases phase with
    | begins thread =>
      cases thread with
      | start run => simp [K6Phase.after, hidle, K6Phase.call?, K6Call.window?]
      | _ => cases hpoll
    | _ => cases hpoll
  have hji : j ≠ i := by
    rintro rfl
    exact hj hi
  have hsteps : Pool.Steps (k6Server ι) (fun _ _ _ => True) p p' := .step trivial h (.refl p')
  have hphases' := hphases.step h
  have hfree' := hsteps.free (fun _ => rfl) hfree
  -- the start that has just checked launches and stores
  obtain ⟨q₁, hsteps₁, hothers₁, hi₁, -, -, hlaunch₁⟩ := start_finishes hphases' hfree' hi'.1
  obtain ⟨halive₁, hlaunched₁⟩ := hlaunch₁ rfl
  have hphases₁ : InK6Phases environ q₁ :=
    hsteps₁.inv (J := InK6Phases environ) (fun _ _ _ _ _ hn hJ => hJ.step hn) hphases'
  obtain ⟨s, hs⟩ := Option.ne_none_iff_exists'.1 hj
  have hs₁ : startOf q₁ j = some s := by
    unfold startOf
    rw [hothers₁ j hji]
    exact (startOf_ne h hji).trans hs
  -- then the other one stores its own
  obtain ⟨q₂, hsteps₂, hothers₂, hj₂, hproc₂, halive₂, -⟩ :=
    start_finishes hphases₁ (hsteps₁.free (fun _ => rfl) hfree') hs₁
  refine ⟨q₂, p'.world.launched, hsteps₁.trans hsteps₂, halive₂ _ halive₁, ?_, fun k => ?_⟩
  · rw [hproc₂]
    cases s with
    | none =>
      intro heq
      exact Nat.ne_of_gt hlaunched₁ (Option.some.inj heq)
    | some pid =>
      rw [hi'.2]
      intro heq
      exact Nat.ne_of_lt (hone.fresh j pid hs).1 (Option.some.inj heq)
  · by_cases hkj : k = j
    · rw [hkj, hj₂]
    · by_cases hki : k = i
      · unfold startOf
        rw [hothers₂ k hkj, hki]
        exact hi₁
      · unfold startOf
        rw [hothers₂ k hkj, hothers₁ k hki, Pool.next_procs_ne h hki]
        by_contra hk
        exact hkj (hone.alone k j hk hj)

/-! ## Runs -/

/-- **At most one k6 process** is alive in every run each of whose checks is passed only while no
start is between its check and its store; and it is in `_proc`, where `stop` reaches it, just when
no start is between the launch and the store of a process that is alive. From the first check that
is passed otherwise, a run can go on to a process that is alive and not in `_proc` with no start on
the way. -/
theorem one_k6_process (environ : K6Environ) (thread : ι → K6Thread) :
    (∀ p, Pool.Steps (k6Server ι) StartsAlone (k6Threads environ thread) p →
      (∀ a b, p.world.alive a = true → p.world.alive b = true → a = b) ∧
      ((∀ pid, p.world.alive pid = true → p.world.proc = some pid) ↔
        ∀ i pid, startOf p i = some (some pid) → p.world.alive pid = false)) ∧
    ∀ p i c p', Pool.Steps (k6Server ι) StartsAlone (k6Threads environ thread) p →
      ¬ StartsAlone p i c → p.next (k6Server ι) i c = some p' →
      ∃ q pid, Pool.Steps (k6Server ι) (fun _ _ _ => True) p' q ∧ q.world.alive pid = true ∧
        q.world.proc ≠ some pid ∧ ∀ k, startOf q k = none := by
  constructor
  · intro p h
    have hone := (oneStart_steps thread h).2
    exact ⟨fun a b ha hb => hone.at_most_one ha hb, hone.held_iff⟩
  · intro p i c p' h halone hn
    obtain ⟨hphases, hone⟩ := oneStart_steps thread h
    exact overlap_strands hphases (h.free (fun _ => rfl) rfl) hone halone hn

end

/-! ## Two starts -/

/-- A run of 50 users for half a minute. -/
def k6Sample : K6Run := ⟨"", 50, "30s", ""⟩

/-- The threads that take a step each, one after the other. -/
def k6Turns {ι : Type} (l : List ι) : List (ι × K6Choice) := l.map fun i => (i, launching)

/-- The second start finds the test of the first one running. -/
theorem one_k6_process_sample : ∃ p : K6Pool (Fin 2), p.procs 0 = .ret (.started "" 50 "30s") ∧
    p.procs 1 = .ret alreadyRunning ∧ ∀ a b, p.world.alive a = true → p.world.alive b = true →
      a = b := by
  obtain ⟨p, hrun, h₀, h₁⟩ : ∃ p : K6Pool (Fin 2),
      (k6Threads ⟨none, none⟩ (fun _ => .start k6Sample)).runIf (k6Server (Fin 2)) StartsAlone
          (k6Turns [0, 0, 0, 1]) = some p ∧
        p.procs 0 = .ret (.started "" 50 "30s") ∧ p.procs 1 = .ret alreadyRunning :=
    ⟨_, rfl, rfl, rfl⟩
  exact ⟨p, h₀, h₁, ((one_k6_process ⟨none, none⟩ fun _ => .start k6Sample).1 p (.of_runIf hrun)).1⟩

/-- Two starts check before either has stored its process: both processes are alive, and the one
that was stored first is not in `_proc`. -/
theorem two_k6_processes : ∃ p : K6Pool (Fin 2),
    Pool.Steps (k6Server (Fin 2)) (fun _ _ _ => True)
      (k6Threads ⟨none, none⟩ fun _ => .start k6Sample) p ∧
      p.procs 0 = .ret (.started "" 50 "30s") ∧ p.procs 1 = .ret (.started "" 50 "30s") ∧
      p.world.alive 0 = true ∧ p.world.alive 1 = true ∧ p.world.proc = some 1 := by
  obtain ⟨p, hrun, h⟩ : ∃ p : K6Pool (Fin 2),
      (k6Threads ⟨none, none⟩ (fun _ => .start k6Sample)).runIf (k6Server (Fin 2))
          (fun _ _ _ => True) (k6Turns [0, 1, 0, 0, 1, 1]) = some p ∧
        p.procs 0 = .ret (.started "" 50 "30s") ∧ p.procs 1 = .ret (.started "" 50 "30s") ∧
        p.world.alive 0 = true ∧ p.world.alive 1 = true ∧ p.world.proc = some 1 :=
    ⟨_, rfl, rfl, rfl, rfl, rfl, rfl⟩
  exact ⟨p, .of_runIf hrun, h⟩

end PeHackathon.Dashboard
