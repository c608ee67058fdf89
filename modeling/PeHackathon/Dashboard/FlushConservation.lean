import Mathlib.Algebra.BigOperators.Group.Finset.Basic
import Mathlib.Algebra.Order.Group.Multiset
import Mathlib.Data.Fin.VecNotation
import Mathlib.Data.Fintype.Basic
import Mathlib.Tactic.Abel
import Mathlib.Tactic.FinCases
import PeHackathon.Dashboard.LogCache

/-!
# No entry is lost or stored twice

An entry that was added is in the table, waits for a flush, or is in a batch that some thread holds
between taking it out and having it stored or putting it back. `flush_conserves`: at every point of
every interleaving without a clear, these three together are exactly what was added.
-/

namespace PeHackathon.Dashboard

open Lib

/-! ## Batches in flight -/

/-- The batch a step sends or puts back. -/
def LogCall.batch : LogCall → List LogEntry
  | .flushLogs logs | .putBack logs => logs
  | _ => []

/-- The batch a thread holds. -/
def LogProg.held {α : Type} (p : LogProg α) : List LogEntry :=
  match p.next? with
  | some q => q.batch
  | none => []

/-- The batch that the answer to a step leaves in the hands of the thread. -/
def handed : (q : LogCall) → LogAnswer q → List LogEntry
  | .takePending, logs => logs
  | .flushLogs logs, flushed => if (flushed : Nat) = 0 then logs else []
  | _, _ => []

/-- The thread holds on to what it is handed. -/
def Accounts {α : Type} : LogProg α → Prop
  | .ret _ => True
  | .call q k => ∀ r, LogProg.held (k r) = handed q r

section

variable {α : Type}

@[simp] theorem held_ret (a : α) : LogProg.held (.ret a : LogProg α) = [] := rfl

@[simp] theorem held_call (q : LogCall) (k : LogAnswer q → LogProg α) :
    LogProg.held (.call q k) = q.batch := rfl

/-- A flush accounts for its batch, whatever follows it. -/
theorem sendBatch_accounts {f : Unit → LogProg α} (hf : (f ()).Always Accounts)
    (hheld : (f ()).held = []) (logs : List LogEntry) :
    (sendBatch logs >>= f).held = logs ∧ (sendBatch logs >>= f).Always Accounts := by
  by_cases hne : logs = []
  · subst hne
    rw [sendBatch_nil_bind]
    exact ⟨hheld, hf⟩
  · rw [sendBatch_bind hne]
    refine ⟨rfl, fun (flushed : Nat) => ?_, fun (flushed : Nat) => ?_⟩
    · change LogProg.held (if flushed = 0 then .call (.putBack logs) f else f ()) =
        if flushed = 0 then logs else []
      by_cases h : flushed = 0
      · rw [if_pos h, if_pos h]
        rfl
      · rw [if_neg h, if_neg h]
        exact hheld
    · change Prog.Always Accounts (if flushed = 0 then .call (.putBack logs) f else f ())
      split
      · exact ⟨fun _ => hheld, fun _ => hf⟩
      · exact hf

theorem flushToDb_accounts {f : Unit → LogProg α} (hf : (f ()).Always Accounts)
    (hheld : (f ()).held = []) : (flushToDb >>= f).Always Accounts := by
  rw [flushToDb_bind]
  exact ⟨fun logs => (sendBatch_accounts hf hheld logs).1, fun logs =>
    (sendBatch_accounts hf hheld logs).2⟩

theorem ingestLogs_accounts (entries : List JsonObject) : (ingestLogs entries).Always Accounts := by
  induction entries with
  | nil => trivial
  | cons fields rest ih =>
    refine ⟨fun _ => ?_, fun _ => ih⟩
    cases rest <;> rfl

theorem flushTick_accounts : flushTick.Always Accounts := by
  have hend : scheduleTick.Always Accounts := by
    refine ⟨fun running => ?_, fun running => ?_⟩
    · cases running <;> rfl
    · cases running
      · trivial
      · exact ⟨fun _ => rfl, fun _ => trivial⟩
  refine ⟨fun running => ?_, fun running => ?_⟩
  · cases running <;> rfl
  · cases running
    · trivial
    · exact flushToDb_accounts hend rfl

/-- Every thread accounts for its batches. -/
theorem thread_accounts (thread : LogThread) : thread.prog.Always Accounts := by
  have hflush : flushToDb.Always Accounts := by
    rw [← Prog.bind_ret flushToDb]
    exact flushToDb_accounts trivial rfl
  cases thread with
  | ingest entries => exact ingestLogs_accounts entries
  | flush => exact hflush
  | timer id =>
    refine ⟨fun live => ?_, fun live => ?_⟩
    · cases live <;> rfl
    · cases live
      · trivial
      · exact flushTick_accounts
  | startLoop => exact ⟨fun _ => rfl, fun _ => ⟨fun _ => rfl, fun _ => trivial⟩⟩
  | stopLoop => exact ⟨fun _ => rfl, fun _ => ⟨fun _ => rfl, fun _ => hflush⟩⟩
  | clear => exact ⟨fun _ => rfl, fun _ => ⟨fun _ => rfl, fun _ => trivial⟩⟩

end

/-! ## Conservation -/

/-- The steps that discard nothing. -/
def LogCall.Keeps : LogCall → Prop
  | .clearCache | .clearLogs => False
  | _ => True

/-- What was added is in the table, waits for a flush, or is in flight. -/
def Conserved (w : LogWorld) (inFlight : Multiset LogEntry) : Prop :=
  (w.added : Multiset LogEntry) = w.stored + w.cache.pendingFlush + inFlight

/-- A step that discards nothing turns the batch it was given into the batch it hands out. -/
theorem logServe_conserves {pg : Postgres} {c : LogChoice} {w w' : LogWorld} {q : LogCall}
    {r : LogAnswer q} {others : Multiset LogEntry} (hq : q.Keeps)
    (h : logServe pg c w q = some (r, w')) (hw : Conserved w (others + q.batch)) :
    Conserved w' (others + handed q r) := by
  unfold Conserved at hw ⊢
  cases q with
  | clearCache | clearLogs => exact hq.elim
  | add fields =>
    cases h
    simp only [LogWorld.add, LogCache.add, LogCall.batch, handed, ← Multiset.coe_add] at hw ⊢
    rw [hw]
    change _ = (w.stored : Multiset LogEntry) + _ + _
    abel
  | takePending =>
    cases h
    simp only [LogCache.takePending, LogCall.batch, handed] at hw ⊢
    change _ = (w.stored : Multiset LogEntry) + _ + _
    rw [hw]
    abel
  | flushLogs logs =>
    cases h
    simp only [LogCall.batch, handed] at hw ⊢
    rcases flushLogs_cases pg c.reachable c.now logs w.kafkaLogs with
      ⟨hcount, htable⟩ | ⟨hne, hcount, htable⟩
    · rw [hcount, if_pos rfl]
      change _ = (((flushLogs pg c.reachable c.now logs w.kafkaLogs).2.map (·.entry) :
        List LogEntry) : Multiset LogEntry) + _ + _
      rw [htable]
      exact hw
    · rw [hcount, if_neg (List.length_pos_iff.2 hne).ne']
      change _ = (((flushLogs pg c.reachable c.now logs w.kafkaLogs).2.map (·.entry) :
        List LogEntry) : Multiset LogEntry) + _ + _
      rw [htable, ← Multiset.coe_add, hw]
      change (w.stored : Multiset LogEntry) + _ + _ = (w.stored : Multiset LogEntry) + _ + _ + _
      simp only [Multiset.coe_nil]
      abel
  | putBack logs =>
    cases h
    simp only [LogCache.putBack, LogCall.batch, handed, ← Multiset.coe_add] at hw ⊢
    change _ = (w.stored : Multiset LogEntry) + _ + _
    rw [hw]
    abel
  | setRunning b => cases h; exact hw
  | isRunning => cases h; exact hw
  | startTimer => cases h; exact hw
  | cancelTimer =>
    cases h
    simp only [LogWorld.stored, LogWorld.cancelTimer_added, LogWorld.cancelTimer_kafkaLogs,
      LogWorld.cancelTimer_cache]
    exact hw
  | fire timer =>
    obtain ⟨cancelled, -, he⟩ := Option.map_eq_some_iff.1 h
    cases he
    exact hw

/-! ## Runs -/

section Runs

variable {ι : Type} [DecidableEq ι] {pg : Postgres} {thread : ι → LogThread} {n : Nat}
  {P : Pool LogAnswer ι LogWorld Unit → ι → LogChoice → Prop}
    {p p' : Pool LogAnswer ι LogWorld Unit}

/-- The batches of all threads. -/
def inFlight [Fintype ι] (p : Pool LogAnswer ι LogWorld Unit) : Multiset LogEntry :=
  ∑ i, (LogProg.held (p.procs i) : Multiset LogEntry)

/-- One step of the pool. -/
theorem Conserved.next [Fintype ι] {i : ι} {c : LogChoice}
    (haccounts : ∀ i, Accounts (p.procs i)) (hkeeps : ∀ i q, (p.procs i).next? = some q → q.Keeps)
    (hn : p.next (logServer pg ι) i c = some p') (hw : Conserved p.world (inFlight p)) :
    Conserved p'.world (inFlight p') := by
  obtain ⟨q, k, r, w, hq, hr, -, rfl⟩ := Pool.next_cases hn
  have hqk : q.Keeps := hkeeps i q (by rw [hq]; rfl)
  have hheld : LogProg.held (k r) = handed q r := by
    have := haccounts i
    rw [hq] at this
    exact this r
  unfold inFlight at hw ⊢
  dsimp only
  rw [← Finset.sum_erase_add _ _ (Finset.mem_univ i), hq, held_call] at hw
  rw [← Finset.sum_erase_add _ _ (Finset.mem_univ i), Function.update_self, hheld]
  have hothers : ∑ j ∈ Finset.univ.erase i, (LogProg.held (Function.update p.procs i (k r) j) :
      Multiset LogEntry) = ∑ j ∈ Finset.univ.erase i,
        (LogProg.held (p.procs j) : Multiset LogEntry) :=
    Finset.sum_congr rfl fun j hj => by rw [Function.update_of_ne (Finset.ne_of_mem_erase hj)]
  rw [hothers]
  exact logServe_conserves hqk hr hw

/-- Every thread but a clear takes only steps that discard nothing. -/
theorem thread_keeps {thread : LogThread} (h : thread ≠ .clear) :
    thread.prog.All LogCall.Keeps := by
  have hflush : flushToDb.All LogCall.Keeps := by
    refine ⟨trivial, fun logs => ?_⟩
    change (sendBatch logs).All LogCall.Keeps
    unfold sendBatch
    split
    · refine ⟨trivial, fun (flushed : Nat) => ?_⟩
      change (if flushed = 0 then LogProg.step (.putBack logs) else return ()).All LogCall.Keeps
      split
      · exact ⟨trivial, fun _ => trivial⟩
      · trivial
    · trivial
  cases thread with
  | clear => exact absurd rfl h
  | ingest entries =>
    change (ingestLogs entries).All LogCall.Keeps
    induction entries with
    | nil => trivial
    | cons fields rest ih => exact ⟨trivial, fun _ => ih nofun⟩
  | flush => exact hflush
  | timer id =>
    refine ⟨trivial, fun live => ?_⟩
    cases live
    · trivial
    · refine ⟨trivial, fun running => ?_⟩
      cases running
      · trivial
      · change (flushToDb >>= fun _ => scheduleTick).All LogCall.Keeps
        refine hflush.bind fun _ => ⟨trivial, fun again => ?_⟩
        cases again
        · trivial
        · exact ⟨trivial, fun _ => trivial⟩
  | startLoop => exact ⟨trivial, fun _ => ⟨trivial, fun _ => trivial⟩⟩
  | stopLoop => exact ⟨trivial, fun _ => ⟨trivial, fun _ => hflush⟩⟩

/-- In a run without a clear, what was added is in the table, waits, or is in flight. -/
theorem conserved_of_steps [Fintype ι] (hclear : ∀ i, thread i ≠ .clear)
    (h : Pool.Steps (logServer pg ι) P (logThreads thread n) p) :
    Conserved p.world (inFlight p) := by
  have hprogs : ∀ i, ((logThreads thread n).procs i).Always fun p =>
      Accounts p ∧ ∀ q, p.next? = some q → q.Keeps := fun i =>
    (thread_accounts (thread i)).and (thread_keeps (hclear i)).always
  have hstart : Conserved (logThreads thread n).world (inFlight (logThreads thread n)) := by
    have hnone : inFlight (logThreads thread n) = 0 := Finset.sum_eq_zero fun i _ => by
      change (LogProg.held (thread i).prog : Multiset LogEntry) = 0
      cases thread i with
      | ingest entries => cases entries <;> rfl
      | _ => rfl
    rw [hnone]
    rfl
  refine (h.inv (J := fun p => (∀ i, (p.procs i).Always fun p =>
    Accounts p ∧ ∀ q, p.next? = some q → q.Keeps) ∧ Conserved p.world (inFlight p)) ?_
    ⟨hprogs, hstart⟩).2
  rintro p p' i c hP hn ⟨halways, hw⟩
  have hstep : Pool.Steps (logServer pg ι) P p p' := .step hP hn (.refl p')
  exact ⟨fun j => hstep.always (halways j),
    hw.next (fun i => (halways i).here.1) (fun i => (halways i).here.2) hn⟩

/-- Entries are numbered as they arrive. -/
theorem added_refs (h : Pool.Steps (logServer pg ι) P (logThreads thread n) p) :
    p.world.added.map (·.ref) = List.range p.world.added.length := by
  refine h.inv (J := fun p => p.world.added.map (·.ref) = List.range p.world.added.length) ?_ rfl
  intro p p' i c _ hn hw
  obtain ⟨q, k, r, w, -, hr, -, rfl⟩ := Pool.next_cases hn
  change w.added.map (·.ref) = List.range w.added.length
  change logServe pg c p.world q = some (r, w) at hr
  cases q with
  | add fields =>
    cases hr
    simp only [LogWorld.add, List.map_append, List.map_cons, List.map_nil, List.length_append,
      List.length_singleton, List.range_succ, hw]
  | fire timer =>
    obtain ⟨cancelled, -, he⟩ := Option.map_eq_some_iff.1 hr
    cases he
    exact hw
  | cancelTimer =>
    cases hr
    simpa using hw
  | _ => cases hr; exact hw

/-- **Log entries are conserved**: in every interleaving of ingests, flushes, timers and the start
and stop of the loop, with no clear, at every point the entries added so far are the disjoint union
of those stored, those that wait for a flush, and the batches in flight, and none is stored
twice. -/
theorem flush_conserves [Fintype ι] (hclear : ∀ i, thread i ≠ .clear)
    (h : Pool.Steps (logServer pg ι) (fun _ _ _ => True) (logThreads thread n) p) :
    (p.world.added : Multiset LogEntry) =
        p.world.stored + p.world.cache.pendingFlush + inFlight p ∧
      p.world.added.Nodup ∧ p.world.stored.Nodup := by
  have hw := conserved_of_steps hclear h
  have hadded : p.world.added.Nodup := by
    refine List.Nodup.of_map (·.ref) ?_
    rw [added_refs h]
    exact List.nodup_range
  refine ⟨hw, hadded, ?_⟩
  have hall :
      ((p.world.stored : Multiset LogEntry) + p.world.cache.pendingFlush + inFlight p).Nodup :=
    hw ▸ Multiset.coe_nodup.2 hadded
  exact Multiset.coe_nodup.1 (Multiset.nodup_of_le
    ((Multiset.le_add_right _ _).trans (Multiset.le_add_right _ _)) hall)

end Runs

/-- Two flushes overlap; the first one fails after the second has stored a later entry. -/
theorem flush_conserves_sample : ∃ p : Pool LogAnswer (Fin 3) LogWorld Unit,
    p.world.stored.length = 1 ∧ p.world.cache.pendingFlush.length = 1 ∧
      (p.world.added : Multiset LogEntry) =
        p.world.stored + p.world.cache.pendingFlush + inFlight p := by
  let thread : Fin 3 → LogThread := ![.ingest [sampleLog "a", sampleLog "b"], .flush, .flush]
  obtain ⟨p, hrun, hcounts⟩ := Pool.Steps.exists_of_runIf (S := logServer samplePostgres (Fin 3))
    (P := fun _ _ _ => True) (p := logThreads thread 10)
    (l := steps 1 0 ++ steps 1 1 ++ steps 1 0 ++ steps 2 2 ++ failing 1 ++ steps 1 1)
    (J := fun p => p.world.stored.length = 1 ∧ p.world.cache.pendingFlush.length = 1)
    (by decide +kernel)
  obtain ⟨hstored, hpending⟩ := of_decide_eq_true hcounts
  have hclear : ∀ i, thread i ≠ .clear := by
    intro i
    fin_cases i <;> exact nofun
  exact ⟨p, hstored, hpending, (flush_conserves hclear hrun).1⟩

end PeHackathon.Dashboard
