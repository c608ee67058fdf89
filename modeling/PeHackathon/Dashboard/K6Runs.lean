import Mathlib.Data.Fin.VecNotation
import PeHackathon.Dashboard.OneK6Process
import PeHackathon.Dashboard.K6Live

/-!
# k6 runs do not mix

The reader thread of a run goes on reading after its process is over, and writes to what `start` has
put in place since. `runs_separate`: what is reported of a run comes from the output of its own
process, and the run is over only after this process is, as long as no start stores its process
while a reader has lines to read, a data point to count or its last sections before it. `runs_mix`
is a run in which a reader is late.
-/

namespace PeHackathon.Dashboard

open Lib

/-! ## Where a thread stands -/

/-- What is left of a thread. -/
inductive K6LivePhase
  | begins (thread : K6LiveThread)
  | launches (run : K6Run)
  | stores (run : K6Run) (pid : Pid)
  | reads (lines : Nat) (pid : Pid)
  | counts (lines : Nat) (pid : Pid) (metric value : Json)
  | readsStdout (pid : Pid)
  | summarizes (pid : Pid) (text : String)
  | ends (pid : Pid)
  | done (r : K6LiveResult)

namespace K6LivePhase

def prog (environ : K6Environ) : K6LivePhase → K6LiveProg K6LiveResult
  | begins thread => thread.prog environ
  | launches run => onRunner (startChecked environ run)
  | stores run pid => onRunner (startLaunched environ run pid)
  | reads lines pid => readLines lines pid
  | counts lines pid metric value => applyPoint metric value (readLines lines pid)
  | readsStdout pid => readStdout pid
  | summarizes _ text => summarize text
  | ends _ => liveReaderEnded
  | done r => return r

/-- Where a line leads. -/
def onLine (lines : Nat) (pid : Pid) (raw : String) : K6LivePhase :=
  match readLine raw with
  | .skip => reads lines pid
  | .raises => done .raised
  | .point metric value => counts lines pid metric value

/-- Where the `stdout` of the process leads. -/
def onStdout (pid : Pid) (stdout : String) : K6LivePhase :=
  if pyStrip stdout = "" then ends pid else summarizes pid (pyStrip stdout)

variable (environ : K6Environ)

theorem readLines_succ (lines : Nat) (pid : Pid) : readLines (lines + 1) pid =
    .call (.readerLine pid) fun line => (line.elim (readsStdout pid) (onLine lines pid)).prog
      environ := by
  refine congrArg (Prog.call (K6LiveCall.readerLine pid)) (funext fun line => ?_)
  cases line with
  | none => rfl
  | some raw =>
    dsimp only [Prog.bind, Option.elim_some, onLine]
    cases readLine raw with
    | skip => rfl
    | raises => rfl
    | point metric value => rfl

theorem applyPoint_reads (lines : Nat) (pid : Pid) (metric value : Json) :
    applyPoint metric value (readLines lines pid) = .call (.readerPoint metric value) fun raises =>
      (if raises then done .raised else reads lines pid).prog environ := by
  refine congrArg (Prog.call (K6LiveCall.readerPoint metric value)) (funext fun raises => ?_)
  cases raises <;> rfl

theorem readStdout_eq (pid : Pid) :
    readStdout pid = .call (.readerStdout pid) fun stdout =>
      (onStdout pid stdout).prog environ := by
  refine congrArg (Prog.call (K6LiveCall.readerStdout pid)) (funext fun stdout => ?_)
  dsimp only [Prog.bind, onStdout]
  split
  · rfl
  · rfl

end K6LivePhase

open K6LivePhase

/-- What a step is to its thread and to the world. -/
inductive LiveStep (n : K6Numbers) (environ : K6Environ) (now : Int) :
    K6LivePhase → K6Live → K6LivePhase → K6Live → Prop
  /-- The check of `start`, and `stop`. -/
  | look {thread : K6LiveThread} {phase : K6LivePhase} {w : K6Live}
      (hphase : (∃ run, phase = launches run) ∨ ∃ r, phase = done (.runner r)) : LiveStep n environ
        now (begins thread) w phase w
  | exit {pid : Pid} {w : K6Live} {r : K6Result} :
      LiveStep n environ now (begins (.exit pid)) w (done (.runner r))
        { w with alive := Function.update w.alive pid false }
  | launch (run : K6Run) (w : K6Live) :
      LiveStep n environ now (launches run) w (stores run w.launched)
      { w with
        launched := w.launched + 1
        alive := Function.update w.alive w.launched true
        process := Function.update w.process w.launched (.launched (some (k6Env environ run))) }
  | launchFails (run : K6Run) (w : K6Live) (r : K6Result) :
      LiveStep n environ now (launches run) w (done (.runner r)) w
  | store {run : K6Run} {pid : Pid} {w : K6Live} {r : K6Result} {b : K6Begun}
      (hb : b = ⟨pid, run, resolvedUrl environ run, now⟩) :
      LiveStep n environ now (stores run pid) w (done (.runner r))
        { w with proc := some pid, shown := .of b.stats, begun := b :: w.begun }
  /-- `proc = self._proc`, in the reader. -/
  | pick {lines : Nat} {pid : Pid} {w : K6Live} (hproc : w.proc = some pid) :
      LiveStep n environ now (begins (.reader lines)) w (reads lines pid) w
  | pickNone {lines : Nat} {w : K6Live} :
      LiveStep n environ now (begins (.reader lines)) w (done .ended) w
  | line {lines : Nat} {pid : Pid} {w : K6Live} {raw : String} {stderr : List String}
      (hpipe : (w.process pid).stderr = raw :: stderr) :
      LiveStep n environ now (reads (lines + 1) pid) w (onLine lines pid raw)
        (w.setProcess pid { w.process pid with stderr })
  | eof {lines : Nat} {pid : Pid} {w : K6Live} (hover : w.alive pid = false) :
      LiveStep n environ now (reads (lines + 1) pid) w (readsStdout pid) w
  | count (lines : Nat) (pid : Pid) (metric value : Json) (w : K6Live) :
      LiveStep n environ now (counts lines pid metric value) w
        (if (w.shown.point n metric value).2 then done .raised else reads lines pid)
        { w with shown := (w.shown.point n metric value).1 }
  | stdout {pid : Pid} {w : K6Live} (hover : w.alive pid = false) :
      LiveStep n environ now (readsStdout pid) w (onStdout pid (w.process pid).stdout) w
  | summary (pid : Pid) (text : String) (w : K6Live) :
      LiveStep n environ now (summarizes pid text) w (ends pid)
        { w with shown := w.shown.setSummary text }
  | ends (pid : Pid) (w : K6Live) :
      LiveStep n environ now (ends pid) w (done .ended) { w with shown := w.shown.readerEnds n now }
  | status (w : K6Live) :
      LiveStep n environ now (begins .status) w
        (done (.status ((w.shown.polled n now w.ended).report n now)))
        { w with shown := w.shown.polled n now w.ended }
  /-- The process writes. -/
  | write {thread : K6LiveThread} {pid : Pid} {w : K6Live} {process : K6Process}
      (halive : w.alive pid = true) (henv : process.env = (w.process pid).env)
      (hstderr : ∀ line ∈ process.stderr, line ∈ (w.process pid).stderr ∨ line ∈ process.written)
      (hwritten : ∀ line ∈ (w.process pid).written, line ∈ process.written) :
      LiveStep n environ now (begins thread) w (done .ended) (w.setProcess pid process)

section

variable {n : K6Numbers} {ι : Type} [DecidableEq ι] {environ : K6Environ} {p p' : K6LivePool ι}
  {i : ι} {c : K6Choice}

/-- Everything a step of a thread can be. -/
theorem live_step (h : p.next (liveServer n ι) i c = some p') {phase : K6LivePhase}
    (hphase : p.procs i = phase.prog environ) :
    ∃ phase', p'.procs i = phase'.prog environ ∧
      LiveStep n environ c.now phase p.world phase' p'.world := by
  obtain ⟨q, k, r, w, hq, hr, -, rfl⟩ := Pool.next_cases h
  simp only [Function.update_self]
  rw [hphase] at hq
  simp only [liveServer] at hr
  cases phase with
  | begins thread =>
    cases thread with
    | start run =>
      cases hq
      obtain ⟨rfl, rfl⟩ := Prod.mk.inj (Option.some.inj hr)
      cases p.world.runner.procAlive with
      | true => exact ⟨.done (.runner alreadyRunning), rfl, .look (.inr ⟨_, rfl⟩)⟩
      | false => exact ⟨.launches run, rfl, .look (.inl ⟨_, rfl⟩)⟩
    | stop =>
      cases hq
      obtain ⟨answer, hserve, heq⟩ := Option.map_eq_some_iff.1 hr
      obtain ⟨rfl, rfl⟩ := Prod.mk.inj heq
      simp only [k6Serve] at hserve
      split at hserve
      · split at hserve
        · cases hserve
          exact ⟨.done (.runner .stopping), rfl, .look (.inr ⟨_, rfl⟩)⟩
        · cases hserve
          exact ⟨.done (.runner (.error _)), rfl, .look (.inr ⟨_, rfl⟩)⟩
      · cases hserve
        exact ⟨.done (.runner .notRunning), rfl, .look (.inr ⟨_, rfl⟩)⟩
    | exit pid =>
      cases hq
      obtain ⟨answer, hserve, heq⟩ := Option.map_eq_some_iff.1 hr
      obtain ⟨rfl, rfl⟩ := Prod.mk.inj heq
      simp only [k6Serve] at hserve
      split at hserve
      · cases hserve
        exact ⟨.done (.runner .ended), rfl, .exit⟩
      · cases hserve
    | status =>
      cases hq
      obtain ⟨rfl, rfl⟩ := Prod.mk.inj (Option.some.inj hr)
      exact ⟨.done (.status _), rfl, .status _⟩
    | reader lines =>
      cases hq
      obtain ⟨rfl, rfl⟩ := Prod.mk.inj (Option.some.inj hr)
      cases hp : p.world.runner.proc with
      | none => exact ⟨.done .ended, rfl, .pickNone⟩
      | some pid => exact ⟨.reads lines pid, rfl, .pick hp⟩
    | write pid line =>
      cases hq
      simp only [liveServe] at hr
      split at hr
      · obtain ⟨rfl, rfl⟩ := Prod.mk.inj (Option.some.inj hr)
        refine ⟨.done .ended, rfl, .write ‹_› rfl (fun l hl => ?_) fun l hl =>
          List.mem_append_left _ hl⟩
        rcases List.mem_append.1 hl with hl | hl
        · exact .inl hl
        · exact .inr (List.mem_append_right _ hl)
      · cases hr
    | writeStdout pid text =>
      cases hq
      simp only [liveServe] at hr
      split at hr
      · obtain ⟨rfl, rfl⟩ := Prod.mk.inj (Option.some.inj hr)
        exact ⟨.done .ended, rfl, .write ‹_› rfl (fun l hl => .inl hl) fun l hl => hl⟩
      · cases hr
  | launches run =>
    cases hq
    obtain ⟨answer, hserve, heq⟩ := Option.map_eq_some_iff.1 hr
    obtain ⟨rfl, rfl⟩ := Prod.mk.inj heq
    simp only [k6Serve] at hserve
    split at hserve
    · cases hserve
      exact ⟨.stores run _, rfl, .launch run _⟩
    · rename_i error _
      cases hserve
      cases error with
      | fileNotFound => exact ⟨.done (.runner binaryNotFound), rfl, .launchFails run _ _⟩
      | other => exact ⟨.done (.runner .raised), rfl, .launchFails run _ _⟩
  | stores run pid =>
    -- the address is not computed
    obtain ⟨url, hurl⟩ : ∃ url, url = resolvedUrl environ run := ⟨_, rfl⟩
    dsimp only [K6LivePhase.prog, startLaunched] at hq
    rw [← hurl] at hq
    cases hq
    obtain ⟨rfl, rfl⟩ := Prod.mk.inj (Option.some.inj hr)
    exact ⟨.done (.runner _), rfl, .store (congrArg (K6Begun.mk pid run · c.now) hurl)⟩
  | reads lines pid =>
    cases lines with
    | zero => cases hq
    | succ lines =>
      rw [prog, readLines_succ environ] at hq
      cases hq
      simp only [liveServe] at hr
      split at hr
      · rename_i raw stderr hpipe
        obtain ⟨rfl, rfl⟩ := Prod.mk.inj (Option.some.inj hr)
        dsimp only [Option.elim_some]
        exact ⟨_, rfl, .line hpipe⟩
      · split at hr
        · cases hr
        · rename_i hover
          obtain ⟨rfl, rfl⟩ := Prod.mk.inj (Option.some.inj hr)
          exact ⟨.readsStdout pid, rfl, .eof (Bool.eq_false_of_not_eq_true hover)⟩
  | counts lines pid metric value =>
    rw [prog, applyPoint_reads environ] at hq
    cases hq
    obtain ⟨rfl, rfl⟩ := Prod.mk.inj (Option.some.inj hr)
    exact ⟨_, rfl, .count lines pid metric value _⟩
  | readsStdout pid =>
    rw [prog, readStdout_eq environ] at hq
    cases hq
    simp only [liveServe] at hr
    split at hr
    · cases hr
    · rename_i hover
      obtain ⟨rfl, rfl⟩ := Prod.mk.inj (Option.some.inj hr)
      exact ⟨_, rfl, .stdout (Bool.eq_false_of_not_eq_true hover)⟩
  | summarizes pid text =>
    cases hq
    obtain ⟨rfl, rfl⟩ := Prod.mk.inj (Option.some.inj hr)
    exact ⟨.ends pid, rfl, .summary pid text _⟩
  | ends pid =>
    cases hq
    obtain ⟨rfl, rfl⟩ := Prod.mk.inj (Option.some.inj hr)
    exact ⟨.done .ended, rfl, .ends pid _⟩
  | done r => cases hq

end

/-! ## What is shown of a run -/

/-- What changes what the runner shows. -/
inductive K6Event
  | point (metric value : Json)
  | summary (text : String)
  | polled (now : Int) (ended : Bool)
  | ends (now : Int)

def K6Shown.after (n : K6Numbers) (s : K6Shown) : K6Event → K6Shown
  | .point metric value => (s.point n metric value).1
  | .summary text => s.setSummary text
  | .polled now ended => s.polled n now ended
  | .ends now => s.readerEnds n now

namespace K6Live

/-- Of the output of a process an event has only what it has written. -/
def Wrote (w : K6Live) (pid : Pid) : K6Event → Prop
  | .point metric value => ∃ line ∈ (w.process pid).written, readLine line = .point metric value
  | .summary text => w.alive pid = false ∧ text = pyStrip (w.process pid).stdout
  | _ => True

/-- `s` is what the output of the process of `b` makes of the statistics that were stored with
it. -/
def ShownOf (n : K6Numbers) (w : K6Live) (b : K6Begun) (s : K6Shown) : Prop :=
  ∃ events : List K6Event, s = events.foldl (K6Shown.after n) (.of b.stats) ∧ ∀ e ∈ events,
    w.Wrote b.pid e

/-- The report is of the run `b`, whose process was launched for it. -/
structure ReportedOf (n : K6Numbers) (environ : K6Environ) (w : K6Live) (b : K6Begun)
    (report : K6Report) : Prop where
  begun : b ∈ w.begun
  env : (w.process b.pid).env = some (k6Env environ b.run)
  shown : ∃ s now, w.ShownOf n b s ∧ report = s.report n now
  exited : report.stats.running = false → w.alive b.pid = false

/-- Nothing of a process is lost: what it has written and that it is over. -/
structure Later (w w' : K6Live) : Prop where
  launched : w.launched ≤ w'.launched
  begun : ∀ b ∈ w.begun, b ∈ w'.begun
  alive : ∀ pid < w.launched, w'.alive pid = true → w.alive pid = true
  env : ∀ pid < w.launched, (w'.process pid).env = (w.process pid).env
  written : ∀ pid < w.launched, ∀ line ∈ (w.process pid).written, line ∈ (w'.process pid).written
  stdout : ∀ pid < w.launched, w.alive pid = false →
    (w'.process pid).stdout = (w.process pid).stdout

variable {n : K6Numbers} {environ : K6Environ} {w w' : K6Live} {pid : Pid} {b : K6Begun}
  {s : K6Shown} {e : K6Event}

theorem Later.refl (w : K6Live) : w.Later w :=
  ⟨Nat.le_refl _, fun _ h => h, fun _ _ h => h, fun _ _ => rfl, fun _ _ _ h => h, fun _ _ _ => rfl⟩

theorem Later.exited (h : w.Later w') (hpid : pid < w.launched) (hover : w.alive pid = false) :
    w'.alive pid = false := by
  cases halive : w'.alive pid with
  | false => rfl
  | true => exact absurd (h.alive pid hpid halive) (by rw [hover]; exact Bool.false_ne_true)

theorem Wrote.later (hw : w.Wrote pid e) (hpid : pid < w.launched) (h : w.Later w') :
    w'.Wrote pid e := by
  cases e with
  | point metric value =>
    obtain ⟨line, hline, hpoint⟩ := hw
    exact ⟨line, h.written pid hpid line hline, hpoint⟩
  | summary text =>
    refine ⟨h.exited hpid hw.1, ?_⟩
    rw [h.stdout pid hpid hw.1]
    exact hw.2
  | polled | ends => trivial

theorem ShownOf.later (hs : w.ShownOf n b s) (hpid : b.pid < w.launched) (h : w.Later w') :
    w'.ShownOf n b s := by
  obtain ⟨events, hs, hevents⟩ := hs
  exact ⟨events, hs, fun e he => (hevents e he).later hpid h⟩

theorem ShownOf.after (hs : w.ShownOf n b s) (he : w.Wrote b.pid e) :
    w.ShownOf n b (s.after n e) := by
  obtain ⟨events, rfl, hevents⟩ := hs
  refine ⟨events ++ [e], by rw [List.foldl_append]; rfl, fun e' he' => ?_⟩
  rcases List.mem_append.1 he' with he' | he'
  · exact hevents e' he'
  · rw [List.mem_singleton.1 he']
    exact he

theorem ReportedOf.later {report : K6Report} (hr : w.ReportedOf n environ b report)
    (hpid : b.pid < w.launched) (h : w.Later w') : w'.ReportedOf n environ b report where
  begun := h.begun b hr.begun
  env := (h.env b.pid hpid).trans hr.env
  shown := by
    obtain ⟨s, now, hs, hreport⟩ := hr.shown
    exact ⟨s, now, hs.later hpid h, hreport⟩
  exited hrunning := h.exited hpid (hr.exited hrunning)

/-- What the runner shows is of the run whose process it has, which is over only after this process
is. -/
def Current (n : K6Numbers) (w : K6Live) : Prop :=
  w.proc = none ∧ w.shown = .of .new ∨
    ∃ b ∈ w.begun, w.proc = some b.pid ∧ w.ShownOf n b w.shown ∧
      (w.shown.stats.running = false → w.alive b.pid = false)

end K6Live

namespace K6Shown

variable (n : K6Numbers) (now : Int) (s : K6Shown)

@[simp] theorem appendSeriesSample_stats (force : Bool) :
    (s.appendSeriesSample n now force).stats = s.stats := by
  unfold appendSeriesSample
  split
  · rfl
  · split
    · rfl
    · split <;> rfl

theorem countErrors_stats (value : Json) : (s.countErrors value).1.stats = s.stats := by
  unfold countErrors
  split
  · rfl
  · dsimp only
    split
    · split <;> rfl
    · rfl

theorem countDuration_stats (value : Json) : (s.countDuration n value).1.stats = s.stats := by
  unfold countDuration
  dsimp only
  split
  · rfl
  · split
    · split <;> rfl
    · rfl

theorem point_stats (metric value : Json) : (s.point n metric value).1.stats = s.stats := by
  unfold point
  split
  · rfl
  · exact s.countErrors_stats value
  · exact s.countDuration_stats n value
  · unfold countVus
    split <;> rfl
  · rfl

/-- While the process is alive, polling leaves the statistics. -/
theorem polled_stats : (s.polled n now false).stats = s.stats := by
  unfold polled
  rw [Bool.false_and, if_neg Bool.false_ne_true]
  split
  · exact s.appendSeriesSample_stats n now false
  · rfl

theorem polled_new : (of .new).polled n now false = of .new := rfl

end K6Shown

/-! ## One step -/

namespace K6LivePhase

/-- What a thread relies on: a reader reads the process that the runner has, and counts what it has
written; a process is stored with the run it was launched for. -/
def Sound (n : K6Numbers) (environ : K6Environ) (w : K6Live) : K6LivePhase → Prop
  | reads 0 _ => True
  | reads (_ + 1) pid => w.proc = some pid
  | counts _ pid metric value => w.proc = some pid ∧ w.Wrote pid (.point metric value)
  | readsStdout pid => w.proc = some pid ∧ w.alive pid = false
  | summarizes pid text => w.proc = some pid ∧ w.Wrote pid (.summary text)
  | ends pid => w.proc = some pid ∧ w.alive pid = false
  | stores run pid => pid < w.launched ∧ (w.process pid).env = some (k6Env environ run)
  | done (.status report) =>
    (∃ now, report = (K6Shown.of .new).report n now) ∨ ∃ b, w.ReportedOf n environ b report
  | _ => True

/-- The thread is a reader that has its process and is not at its end. -/
def reading : K6LivePhase → Bool
  | reads 0 _ => false
  | reads (_ + 1) _ | counts .. | readsStdout _ | summarizes .. | ends _ => true
  | _ => false

end K6LivePhase

/-- What every step keeps that stores a process only while no reader is reading. -/
structure RunsApart {ι : Type} (n : K6Numbers) (environ : K6Environ) (phase : ι → K6LivePhase)
    (w : K6Live) : Prop where
  begun : ∀ b ∈ w.begun, b.pid < w.launched ∧ (w.process b.pid).env = some (k6Env environ b.run)
  distinct : w.begun.Pairwise fun b b' => b.pid ≠ b'.pid
  current : w.Current n
  pipes : ∀ pid, ∀ line ∈ (w.process pid).stderr, line ∈ (w.process pid).written
  sound : ∀ i, (phase i).Sound n environ w
  fresh : ∀ i run pid, phase i = stores run pid → ∀ b ∈ w.begun, b.pid ≠ pid
  alone : ∀ i j run run' pid, phase i = stores run pid → phase j = stores run' pid → i = j

section

variable {n : K6Numbers} {environ : K6Environ} {now : Int} {phase phase' : K6LivePhase}
  {w w' : K6Live}

theorem LiveStep.later (h : LiveStep n environ now phase w phase' w') : w.Later w' := by
  cases h with
  | look | launchFails | pick | pickNone | eof | stdout => exact .refl w
  | count | summary | ends | status =>
    exact ⟨Nat.le_refl _, fun _ h => h, fun _ _ h => h, fun _ _ => rfl, fun _ _ _ h => h,
      fun _ _ _ => rfl⟩
  | store =>
    exact ⟨Nat.le_refl _, fun _ h => List.mem_cons_of_mem _ h, fun _ _ h => h, fun _ _ => rfl,
      fun _ _ _ h => h, fun _ _ _ => rfl⟩
  | @exit pid =>
    refine ⟨Nat.le_refl _, fun _ h => h, fun pid' _ halive => ?_, fun _ _ => rfl, fun _ _ _ h => h,
      fun _ _ _ => rfl⟩
    by_cases hpid : pid' = pid
    · simp [hpid] at halive
    · simpa [hpid] using halive
  | launch run =>
    have hne : ∀ pid < w.launched, Function.update w.alive w.launched true pid = w.alive pid ∧
        Function.update w.process w.launched (.launched (some (k6Env environ run))) pid =
          w.process pid :=
      fun pid hpid => ⟨Function.update_of_ne (Nat.ne_of_lt hpid) _ _,
        Function.update_of_ne (Nat.ne_of_lt hpid) _ _⟩
    refine ⟨Nat.le_succ _, fun _ h => h, fun pid hpid halive => (hne pid hpid).1 ▸ halive,
      fun pid hpid => ?_, fun pid hpid line hline => ?_, fun pid hpid _ => ?_⟩
    · exact congrArg K6Process.env (hne pid hpid).2
    · exact (congrArg K6Process.written (hne pid hpid).2) ▸ hline
    · exact congrArg K6Process.stdout (hne pid hpid).2
  | @line lines pid w raw stderr hpipe =>
    have hsame : ∀ pid', ((w.setProcess pid { w.process pid with stderr }).process pid').env =
        (w.process pid').env ∧
        ((w.setProcess pid { w.process pid with stderr }).process pid').written =
          (w.process pid').written ∧
        ((w.setProcess pid { w.process pid with stderr }).process pid').stdout =
          (w.process pid').stdout := by
      intro pid'
      unfold K6Live.setProcess
      dsimp only
      by_cases hpid : pid' = pid
      · rw [hpid, Function.update_self]
        exact ⟨rfl, rfl, rfl⟩
      · rw [Function.update_of_ne hpid]
        exact ⟨rfl, rfl, rfl⟩
    exact ⟨Nat.le_refl _, fun _ h => h, fun _ _ h => h, fun pid' _ => (hsame pid').1,
      fun pid' _ line hline => (hsame pid').2.1 ▸ hline, fun pid' _ _ => (hsame pid').2.2⟩
  | @write thread pid w process halive henv hstderr hwritten =>
    have hself : (w.setProcess pid process).process pid = process := Function.update_self _ _ _
    have hne : ∀ pid', pid' ≠ pid → (w.setProcess pid process).process pid' = w.process pid' :=
      fun pid' hpid => Function.update_of_ne hpid _ _
    refine ⟨Nat.le_refl _, fun _ h => h, fun _ _ h => h, fun pid' _ => ?_,
      fun pid' _ line hline => ?_, fun pid' _ hover => ?_⟩
    · by_cases hpid : pid' = pid
      · rw [hpid, hself, henv]
      · rw [hne pid' hpid]
    · by_cases hpid : pid' = pid
      · rw [hpid, hself]
        exact hwritten line (hpid ▸ hline)
      · rwa [hne pid' hpid]
    · by_cases hpid : pid' = pid
      · rw [hpid, halive] at hover
        cases hover
      · rw [hne pid' hpid]

/-- A step that does not store keeps the process and the runs. -/
theorem LiveStep.kept (h : LiveStep n environ now phase w phase' w')
    (hstores : ∀ run pid, phase ≠ stores run pid) :
    w'.proc = w.proc ∧ w'.begun = w.begun := by
  cases h with
  | store => exact absurd rfl (hstores _ _)
  | _ => exact ⟨rfl, rfl⟩

/-- What is in a pipe was written. -/
theorem LiveStep.pipes (h : LiveStep n environ now phase w phase' w')
    (hw : ∀ pid, ∀ line ∈ (w.process pid).stderr, line ∈ (w.process pid).written) :
    ∀ pid, ∀ line ∈ (w'.process pid).stderr, line ∈ (w'.process pid).written := by
  have hset : ∀ pid process, (∀ line ∈ process.stderr, line ∈ process.written) →
      ∀ pid', ∀ line ∈ (Function.update w.process pid process pid').stderr,
        line ∈ (Function.update w.process pid process pid').written := by
    intro pid process hprocess pid'
    by_cases hpid : pid' = pid
    · rw [hpid, Function.update_self]
      exact hprocess
    · rw [Function.update_of_ne hpid]
      exact hw pid'
  cases h with
  | launch run => exact hset _ _ fun line hline => absurd hline List.not_mem_nil
  | @line _ pid _ raw stderr hpipe =>
    refine hset _ _ fun line hline => hw pid line ?_
    rw [hpipe]
    exact List.mem_cons_of_mem _ hline
  | @write _ pid _ process _ _ hstderr hwritten =>
    refine hset _ _ fun line hline => ?_
    exact (hstderr line hline).elim (fun hold => hwritten line (hw pid line hold)) id
  | _ => exact hw

theorem K6LivePhase.Sound.later (hs : phase.Sound n environ w) (h : w.Later w')
    (hbegun : ∀ b ∈ w.begun, b.pid < w.launched) (hlt : ∀ pid, w.proc = some pid → pid < w.launched)
    (hproc : w'.proc = w.proc ∨ phase.reading = false) : phase.Sound n environ w' := by
  have hsame : phase.reading = true → w'.proc = w.proc := fun hreading =>
    hproc.resolve_right (by rw [hreading]; exact Bool.noConfusion)
  cases phase with
  | begins | launches => trivial
  | stores run pid => exact ⟨Nat.lt_of_lt_of_le hs.1 h.launched, (h.env pid hs.1).trans hs.2⟩
  | reads lines pid =>
    cases lines with
    | zero => trivial
    | succ lines => exact (hsame rfl).trans hs
  | counts lines pid metric value => exact ⟨(hsame rfl).trans hs.1, hs.2.later (hlt pid hs.1) h⟩
  | readsStdout pid => exact ⟨(hsame rfl).trans hs.1, h.exited (hlt pid hs.1) hs.2⟩
  | summarizes pid text => exact ⟨(hsame rfl).trans hs.1, hs.2.later (hlt pid hs.1) h⟩
  | ends pid => exact ⟨(hsame rfl).trans hs.1, h.exited (hlt pid hs.1) hs.2⟩
  | done r =>
    cases r with
    | status report =>
      rcases hs with hnew | ⟨b, hb⟩
      · exact .inl hnew
      · exact .inr ⟨b, hb.later (hbegun b hb.begun) h⟩
    | _ => trivial

/-- The process of the runner, as that of its newest run. -/
theorem K6Live.Current.of_proc {pid : Pid} (hw : w.Current n) (hproc : w.proc = some pid) :
    ∃ b ∈ w.begun, b.pid = pid ∧ w.ShownOf n b w.shown ∧
      (w.shown.stats.running = false → w.alive pid = false) := by
  rcases hw with ⟨hnone, -⟩ | ⟨b, hb, hpid, hshown, hover⟩
  · rw [hnone] at hproc
    cases hproc
  · rw [hpid] at hproc
    cases hproc
    exact ⟨b, hb, rfl, hshown, hover⟩

/-- An event of the runner's process leaves what is shown that of its run. -/
theorem K6Live.Current.event {pid : Pid} {e : K6Event} (hw : w.Current n)
    (hproc : w.proc = some pid) (he : w.Wrote pid e)
    (hover : (w.shown.after n e).stats.running = false → w.shown.stats.running = false ∨
      w.alive pid = false) :
    K6Live.Current n { w with shown := w.shown.after n e } := by
  obtain ⟨b, hb, rfl, hshown, hold⟩ := hw.of_proc hproc
  exact .inr ⟨b, hb, hproc, hshown.after he, fun hrunning => (hover hrunning).elim hold id⟩

theorem K6Live.ended_iff {pid : Pid} (hproc : w.proc = some pid) :
    w.ended = true ↔ w.alive pid = false := by
  have hended : w.ended = !w.alive pid := by
    unfold ended
    rw [hproc]
    change (true && !w.runner.procAlive) = _
    unfold K6World.procAlive runner
    rw [hproc, Bool.true_and]
  rw [hended, Bool.not_eq_true']

theorem LiveStep.current (h : LiveStep n environ now phase w phase' w')
    (hs : phase.Sound n environ w) (hbegun : ∀ b ∈ w.begun, b.pid < w.launched) (hw : w.Current n) :
    w'.Current n := by
  have hlater := h.later
  have hsame : w'.proc = w.proc → w'.shown = w.shown → w'.begun = w.begun → w'.Current n := by
    intro hproc hshown hbegun'
    rcases hw with ⟨hnone, hnew⟩ | ⟨b, hb, hpid, hof, hover⟩
    · exact .inl ⟨hproc.trans hnone, hshown.trans hnew⟩
    · refine .inr ⟨b, hbegun' ▸ hb, hproc.trans hpid, ?_, fun hrunning => ?_⟩
      · rw [hshown]
        exact hof.later (hbegun b hb) hlater
      · rw [hshown] at hrunning
        exact hlater.exited (hbegun b hb) (hover hrunning)
  cases h with
  | @store run pid _ r b hb =>
    subst hb
    exact .inr ⟨_, List.mem_cons_self, rfl, ⟨[], rfl, fun e he => absurd he List.not_mem_nil⟩,
      fun hrunning => by cases hrunning⟩
  | count lines pid metric value =>
    refine hw.event (e := .point metric value) hs.1 hs.2 fun hrunning => .inl ?_
    rwa [K6Shown.after, K6Shown.point_stats] at hrunning
  | summary pid text => exact hw.event (e := .summary text) hs.1 hs.2 fun hrunning => .inl hrunning
  | ends pid => exact hw.event (e := .ends now) hs.1 trivial fun _ => .inr hs.2
  | status =>
    rcases hw with ⟨hproc, hnew⟩ | ⟨b, hb, hproc, hof⟩
    · have hended : w.ended = false := by
        unfold K6Live.ended
        rw [hproc]
        rfl
      refine .inl ⟨hproc, ?_⟩
      dsimp only
      rw [hended, hnew, K6Shown.polled_new]
    · refine K6Live.Current.event (e := .polled now w.ended) (.inr ⟨b, hb, hproc, hof⟩)
        hproc trivial fun hrunning => ?_
      cases hended : w.ended with
      | true => exact .inr ((K6Live.ended_iff hproc).1 hended)
      | false =>
        rw [hended, K6Shown.after, K6Shown.polled_stats] at hrunning
        exact .inl hrunning
  | _ => exact hsame rfl rfl rfl

/-- Only a launch leads to a store. -/
theorem LiveStep.of_stores {run : K6Run} {pid : Pid}
    (h : LiveStep n environ now phase w (stores run pid) w') :
    pid = w.launched ∧ w'.begun = w.begun := by
  generalize hnext : stores run pid = next at h
  cases h with
  | launch =>
    cases hnext
    exact ⟨rfl, rfl⟩
  | look hphase => rcases hphase with ⟨_, rfl⟩ | ⟨_, rfl⟩ <;> cases hnext
  | line =>
    unfold onLine at hnext
    split at hnext <;> cases hnext
  | count => split at hnext <;> cases hnext
  | stdout =>
    unfold onStdout at hnext
    split at hnext <;> cases hnext
  | _ => cases hnext

/-- What the thread that has taken the step relies on then. -/
theorem LiveStep.sound (h : LiveStep n environ now phase w phase' w') (hs : phase.Sound n environ w)
    (hbegun : ∀ b ∈ w.begun, b.pid < w.launched ∧
      (w.process b.pid).env = some (k6Env environ b.run))
    (hpipes : ∀ pid, ∀ line ∈ (w.process pid).stderr, line ∈ (w.process pid).written)
    (hw : w.Current n) :
    phase'.Sound n environ w' := by
  have hreads : ∀ {lines pid w}, w.proc = some pid → (reads lines pid).Sound n environ w := by
    intro lines pid w hproc
    cases lines with
    | zero => trivial
    | succ lines => exact hproc
  have hcurrent := h.current hs (fun b hb => (hbegun b hb).1) hw
  cases h with
  | look hphase =>
    rcases hphase with ⟨run, rfl⟩ | ⟨r, rfl⟩
    · trivial
    · trivial
  | exit | launchFails | store | pickNone | ends | write => trivial
  | launch run =>
    refine ⟨Nat.lt_succ_self _, ?_⟩
    dsimp only
    rw [Function.update_self]
    rfl
  | pick hproc => exact hreads hproc
  | @line lines pid _ raw stderr hpipe =>
    have hwritten : raw ∈ (w.process pid).written :=
      hpipes pid raw (by rw [hpipe]; exact List.mem_cons_self)
    unfold onLine
    split
    · exact hreads hs
    · trivial
    · rename_i metric value hpoint
      refine ⟨hs, raw, ?_, hpoint⟩
      unfold K6Live.setProcess
      dsimp only
      rw [Function.update_self]
      exact hwritten
  | eof hover => exact ⟨hs, hover⟩
  | count lines pid metric value =>
    split
    · trivial
    · exact hreads hs.1
  | stdout hover =>
    unfold onStdout
    split
    · exact ⟨hs.1, hover⟩
    · exact ⟨hs.1, hover, rfl⟩
  | summary pid text => exact ⟨hs.1, hs.2.1⟩
  | status =>
    rcases hcurrent with ⟨-, hnew⟩ | ⟨b, hb, -, hshown, hover⟩
    · exact .inl ⟨now, congrArg (K6Shown.report n now) hnew⟩
    · exact .inr ⟨b, hb, (hbegun b hb).2, ⟨_, now, hshown, rfl⟩, hover⟩

end

namespace RunsApart

variable {ι : Type} [DecidableEq ι] {n : K6Numbers} {environ : K6Environ} {now : Int}
  {phase : ι → K6LivePhase} {next : K6LivePhase} {w w' : K6Live} {i : ι}

/-- **A step** that stores a process only while no reader is reading. -/
theorem step (h : RunsApart n environ phase w) (hstep : LiveStep n environ now (phase i) w next w')
    (hdone : ∀ run pid, phase i = stores run pid → ∀ j, (phase j).reading = false) :
    RunsApart n environ (Function.update phase i next) w' := by
  have hlater := hstep.later
  have hself : Function.update phase i next i = next := Function.update_self _ _ _
  have hne : ∀ {j}, j ≠ i → Function.update phase i next j = phase j :=
    fun hj => Function.update_of_ne hj _ _
  have hlt : ∀ pid, w.proc = some pid → pid < w.launched := by
    intro pid hproc
    obtain ⟨b, hb, rfl, -⟩ := h.current.of_proc hproc
    exact (h.begun b hb).1
  -- the threads that are about to store, after the step
  have hstores : ∀ {j run pid}, Function.update phase i next j = stores run pid →
      phase j = stores run pid ∧ j ≠ i ∨ j = i ∧ pid = w.launched ∧ w'.begun = w.begun := by
    intro j run pid hj
    by_cases hji : j = i
    · rw [hji, hself] at hj
      rw [hj] at hstep
      exact .inr ⟨hji, hstep.of_stores⟩
    · rw [hne hji] at hj
      exact .inl ⟨hj, hji⟩
  have hbegun : ∀ b ∈ w'.begun, b ∈ w.begun ∨ ∃ run pid, phase i = stores run pid ∧
      b.pid = pid ∧ b.run = run := by
    intro b hb
    generalize phase i = before at hstep
    cases hstep with
    | @store run pid _ r b' hb' =>
      rcases List.mem_cons.1 hb with rfl | hb
      · exact .inr ⟨run, pid, rfl, by rw [hb'], by rw [hb']⟩
      · exact .inl hb
    | _ => exact .inl hb
  constructor
  case begun =>
    intro b hb
    have hold : b.pid < w.launched ∧ (w.process b.pid).env = some (k6Env environ b.run) := by
      rcases hbegun b hb with hb | ⟨run, pid, hphase, rfl, rfl⟩
      · exact h.begun b hb
      · have hsound := h.sound i
        rw [hphase] at hsound
        exact hsound
    exact ⟨Nat.lt_of_lt_of_le hold.1 hlater.launched, (hlater.env _ hold.1).trans hold.2⟩
  case distinct =>
    generalize hbefore : phase i = before at hstep
    cases hstep with
    | @store run pid _ r b hb =>
      refine .cons (fun b' hb' => ?_) h.distinct
      rw [hb]
      exact (h.fresh i run pid hbefore b' hb').symm
    | _ => exact h.distinct
  case current => exact hstep.current (h.sound i) (fun b hb => (h.begun b hb).1) h.current
  case pipes => exact hstep.pipes h.pipes
  case sound =>
    intro j
    by_cases hji : j = i
    · rw [hji, hself]
      exact hstep.sound (h.sound i) h.begun h.pipes h.current
    · rw [hne hji]
      refine (h.sound j).later hlater (fun b hb => (h.begun b hb).1) hlt ?_
      by_cases hstore : ∃ run pid, phase i = stores run pid
      · obtain ⟨run, pid, hstore⟩ := hstore
        exact .inr (hdone run pid hstore j)
      · exact .inl (hstep.kept fun run pid hphase => hstore ⟨run, pid, hphase⟩).1
  case fresh =>
    intro j run pid hj b hb
    rcases hstores hj with ⟨hj, hji⟩ | ⟨-, rfl, hsame⟩
    · rcases hbegun b hb with hb | ⟨run', pid', hphase, rfl, -⟩
      · exact h.fresh j run pid hj b hb
      · intro hpid
        rw [hpid] at hphase
        exact hji (h.alone j i run run' pid hj hphase)
    · rw [hsame] at hb
      exact Nat.ne_of_lt (h.begun b hb).1
  case alone =>
    intro j k run run' pid hj hk
    have hold : ∀ {j run}, phase j = stores run pid → pid < w.launched := by
      intro j run hj
      have hsound := h.sound j
      rw [hj] at hsound
      exact hsound.1
    rcases hstores hj with ⟨hj, -⟩ | ⟨rfl, hpid, -⟩
    · rcases hstores hk with ⟨hk, -⟩ | ⟨-, hpid, -⟩
      · exact h.alone j k run run' pid hj hk
      · exact absurd (hold hj) (by rw [hpid]; exact Nat.lt_irrefl _)
    · rcases hstores hk with ⟨hk, -⟩ | ⟨rfl, -, -⟩
      · exact absurd (hold hk) (by rw [hpid]; exact Nat.lt_irrefl _)
      · rfl

end RunsApart

/-! ## Runs of threads -/

/-- The second section of `start`. -/
def K6LiveCall.stores : K6LiveCall → Bool
  | .runner (.store ..) => true
  | _ => false

/-- A section of the reader after it has its process. -/
def K6LiveCall.reads : K6LiveCall → Bool
  | .readerLine _ | .readerPoint .. | .readerStdout _ | .readerSummary _ | .readerEnds => true
  | _ => false

section

variable {ι : Type}

/-- What a run asks of a step: a start stores its process only if every reader that has its process
is at its end. -/
def ReadersDone (p : K6LivePool ι) (i : ι) (_ : K6Choice) : Prop :=
  (p.procs i).next?.any K6LiveCall.stores = true →
    ∀ j, (p.procs j).next?.any K6LiveCall.reads = false

instance [Fintype ι] (p : K6LivePool ι) (i : ι) (c : K6Choice) : Decidable (ReadersDone p i c) :=
  inferInstanceAs (Decidable (_ → _))

/-- The runs do not mix: every run has a process of its own; what the runner shows, and what
`get_status` has reported, comes from the output of the process of one run, and that run is over
only after this process is. -/
structure Separate (n : K6Numbers) (environ : K6Environ) (p : K6LivePool ι) : Prop where
  distinct : p.world.begun.Pairwise fun b b' => b.pid ≠ b'.pid
  current : p.world.Current n
  reported : ∀ i report, p.procs i = .ret (.status report) →
    (∃ now, report = (K6Shown.of .new).report n now) ∨ ∃ b, p.world.ReportedOf n environ b report

theorem K6LivePhase.next?_reads (environ : K6Environ) (phase : K6LivePhase) :
    (phase.prog environ).next?.any K6LiveCall.reads = phase.reading := by
  cases phase with
  | begins thread => cases thread <;> rfl
  | reads lines pid => cases lines <;> rfl
  | _ => rfl

theorem K6LivePhase.of_reported {environ : K6Environ} {phase : K6LivePhase} {report : K6Report}
    (h : phase.prog environ = .ret (.status report)) : phase = done (.status report) := by
  cases phase with
  | begins thread => cases thread <;> cases h
  | reads lines pid =>
    cases lines with
    | zero => cases h
    | succ lines => cases h
  | done r =>
    cases h
    rfl
  | _ => cases h

variable [DecidableEq ι] {n : K6Numbers} {environ : K6Environ} {p : K6LivePool ι}

omit [DecidableEq ι] in
theorem runsApart_new (thread : ι → K6LiveThread) :
    RunsApart n environ (fun i => begins (thread i)) .new where
  begun _ h := absurd h List.not_mem_nil
  distinct := .nil
  current := .inl ⟨rfl, rfl⟩
  pipes _ _ h := absurd h List.not_mem_nil
  sound _ := trivial
  fresh _ _ _ h := by cases h
  alone _ _ _ _ _ h := by cases h

/-- **k6 runs do not mix** in a run of the threads each of whose starts stores its process only
while no reader is reading. -/
theorem runs_separate (thread : ι → K6LiveThread)
    (h : Pool.Steps (liveServer n ι) ReadersDone (liveThreads environ thread) p) :
    Separate n environ p := by
  have hall : ∃ phase : ι → K6LivePhase, (∀ i, p.procs i = (phase i).prog environ) ∧
      RunsApart n environ phase p.world := by
    refine h.inv (J := fun p => ∃ phase : ι → K6LivePhase,
      (∀ i, p.procs i = (phase i).prog environ) ∧
      RunsApart n environ phase p.world) ?_ ⟨_, fun i => rfl, runsApart_new thread⟩
    rintro p p' i c hdone hn ⟨phase, hphase, hinv⟩
    obtain ⟨next, hnext, hstep⟩ := live_step hn (hphase i)
    refine ⟨Function.update phase i next, fun j => ?_, hinv.step hstep fun run pid hstores j => ?_⟩
    · by_cases hj : j = i
      · rw [hj, Function.update_self, hnext]
      · rw [Function.update_of_ne hj, Pool.next_procs_ne hn hj, hphase j]
    · rw [← K6LivePhase.next?_reads environ, ← hphase j]
      refine hdone ?_ j
      rw [hphase i, hstores]
      rfl
  obtain ⟨phase, hphase, hinv⟩ := hall
  refine ⟨hinv.distinct, hinv.current, fun i report hi => ?_⟩
  have hsound := hinv.sound i
  rw [hphase i] at hi
  rw [K6LivePhase.of_reported hi] at hsound
  exact hsound

end

/-! ## Two runs -/

/-- Arithmetic for whole numbers. -/
def sampleNumbers : K6Numbers where
  round x _ := x
  roundRate x _ := x
  seconds dt := .float (Float.ofInt dt / 1000000)
  mean durations :=
    (durations.mapM Json.asInt).map fun ds => .float (Float.ofInt ds.sum / Float.ofNat ds.length)
  p95 durations := (durations.mapM Json.asInt).bind fun ds =>
    (ds.mergeSort[min (ds.length * 19 / 20) (ds.length - 1)]?).map .int

/-- A data point of k6. -/
def requestPoint : String :=
  "\x7b\"type\":\"Point\",\"metric\":\"http_reqs\",\"data\":\x7b\"value\":1\x7d\x7d"

/-- At this time. -/
def atSecond (second : Int) : K6Choice := ⟨second * 1000000, none, none⟩

/-- Two tests one after the other, a reader for each, what their processes write, and a request. -/
def twoRuns : Fin 8 → K6LiveThread :=
  ![.start k6Sample, .reader 9, .write 0 requestPoint, .exit 0, .start k6Sample, .reader 9,
    .write 1 requestPoint, .status]

/-- The threads that take a step each, a second apart. -/
def liveTurns (l : List (Fin 8)) : List (Fin 8 × K6Choice) :=
  l.zipIdx.map fun x => (x.1, atSecond (x.2 + 1))

/-- The reader of the first run is at its end before the second run. -/
theorem runs_separate_sample : ∃ p : K6LivePool (Fin 8),
    (p.world.begun.map (·.pid) = [1, 0] ∧ p.world.shown.metrics.requests = 1) ∧
      Separate sampleNumbers ⟨none, none⟩ p := by
  obtain ⟨p, hrun, hp⟩ :=
    Pool.Steps.exists_of_runIf (S := liveServer sampleNumbers (Fin 8)) (P := ReadersDone)
    (p := liveThreads ⟨none, none⟩ twoRuns)
    (l := liveTurns [0, 0, 0, 1, 2, 1, 1, 3, 1, 1, 1, 4, 4, 4, 5, 6, 5, 5, 7])
    (J := fun p => decide (p.world.begun.map (·.pid) = [1, 0] ∧ p.world.shown.metrics.requests = 1))
    (by decide +kernel)
  exact ⟨p, of_decide_eq_true hp, runs_separate twoRuns hrun⟩

/-- The first section of `start`. -/
def K6LiveCall.checks : K6LiveCall → Bool
  | .runner .poll => true
  | _ => false

/-- A start between its check and its end. -/
def K6LiveCall.starting : K6LiveCall → Bool
  | .runner (.popen _) | .runner (.store ..) => true
  | _ => false

/-- A start begins only when no start is on the way and every process is over. -/
def InTurn {ι : Type} (p : K6LivePool ι) (i : ι) (_ : K6Choice) : Prop :=
  (p.procs i).next?.any K6LiveCall.checks = true →
    (∀ pid < p.world.launched, p.world.alive pid = false) ∧
      ∀ j, (p.procs j).next?.any K6LiveCall.starting = false

instance {ι : Type} [Fintype ι] (p : K6LivePool ι) (i : ι) (c : K6Choice) :
    Decidable (InTurn p i c) :=
  inferInstanceAs (Decidable (_ → _))

/-- **A late reader**: the first process has written a data point and is over, the second run
begins, and then the reader of the first goes on. The second run has a request that its process has
not made, and is over while this process is alive. -/
theorem runs_mix : ∃ p : K6LivePool (Fin 8),
    Pool.Steps (liveServer sampleNumbers (Fin 8)) InTurn (liveThreads ⟨none, none⟩ twoRuns) p ∧
      (p.world.proc = some 1 ∧ p.world.alive 1 = true ∧ (p.world.process 1).written = [] ∧
        p.world.shown.metrics.requests = 1 ∧ p.world.shown.stats.running = false) ∧
      ¬ Separate sampleNumbers ⟨none, none⟩ p := by
  obtain ⟨p, hrun, hp⟩ :=
    Pool.Steps.exists_of_runIf (S := liveServer sampleNumbers (Fin 8)) (P := InTurn)
    (p := liveThreads ⟨none, none⟩ twoRuns)
      (l := liveTurns [0, 0, 0, 1, 2, 3, 4, 4, 4, 1, 1, 1, 1, 1])
    (J := fun p => decide (p.world.proc = some 1 ∧ p.world.alive 1 = true ∧
      (p.world.process 1).written = [] ∧
      p.world.shown.metrics.requests = 1 ∧ p.world.shown.stats.running = false)) (by decide +kernel)
  have hp := of_decide_eq_true hp
  refine ⟨p, hrun, hp, fun hseparate => ?_⟩
  obtain ⟨hproc, halive, -, -, hrunning⟩ := hp
  obtain ⟨b, -, -, -, hover⟩ := hseparate.current.of_proc hproc
  rw [hover hrunning] at halive
  cases halive

end PeHackathon.Dashboard
