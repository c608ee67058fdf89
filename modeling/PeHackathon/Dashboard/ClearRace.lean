import Mathlib.Data.Fin.VecNotation
import Mathlib.Data.Fintype.Basic
import PeHackathon.Dashboard.FlushConservation

/-!
# What a clear leaves behind

`clear_errors` empties the cache, and then the table. A flush that took its batch out before the
first of these steps has it stored, or puts it back, after the second. `clear_complete_iff`: the
entries from before the clear are gone for good exactly when, as the table is emptied, none of them
waits or is in flight.
-/

namespace PeHackathon.Dashboard

open Lib

/-! ## Entries from before -/

/-- An entry from before the `n`-th one is in the ring, waits for a flush, or is stored. -/
def Remains (n : Nat) (w : LogWorld) : Prop :=
  ∃ entry, entry.ref < n ∧
    (entry ∈ w.cache.logs ∨ entry ∈ w.cache.pendingFlush ∨ entry ∈ w.stored)

/-- All entries of a list are from the `n`-th one on. -/
def Since (n : Nat) (logs : List LogEntry) : Prop := ∀ entry ∈ logs, n ≤ entry.ref

theorem Since.append {n : Nat} {l l' : List LogEntry} (h : Since n l) (h' : Since n l') :
    Since n (l ++ l') := fun entry hentry =>
  (List.mem_append.1 hentry).elim (h entry) (h' entry)

theorem since_nil (n : Nat) : Since n [] := fun _ hentry => absurd hentry List.not_mem_nil

/-- The ring holds no entry from before the `n`-th one, which has arrived. -/
structure RingSince (n : Nat) (w : LogWorld) : Prop where
  count : n ≤ w.added.length
  ring : Since n w.cache.logs

/-- Neither what waits nor what is stored is from before the `n`-th entry. -/
structure StoresSince (n : Nat) (w : LogWorld) : Prop where
  pending : Since n w.cache.pendingFlush
  stored : Since n w.stored

section

variable {pg : Postgres} {c : LogChoice} {n : Nat} {w w' : LogWorld} {q : LogCall} {r : LogAnswer q}

/-- No step brings an entry back to the ring. -/
theorem logServe_ring (h : logServe pg c w q = some (r, w')) (hw : RingSince n w) :
    RingSince n w' := by
  cases q with
  | add fields =>
    cases h
    constructor
    · simp only [LogWorld.add, List.length_append]
      exact Nat.le_add_right_of_le hw.count
    · have hnew : Since n [({ ref := w.added.length, fields } : LogEntry)] := by
        intro entry hentry
        rw [List.mem_singleton.1 hentry]
        exact hw.count
      exact fun entry hentry => hw.ring.append hnew entry (List.mem_of_mem_drop hentry)
  | clearCache =>
    cases h
    exact ⟨hw.count, since_nil n⟩
  | cancelTimer =>
    cases h
    exact ⟨by simpa using hw.count, by simpa using hw.ring⟩
  | fire timer =>
    obtain ⟨cancelled, -, he⟩ := Option.map_eq_some_iff.1 h
    cases he
    exact hw
  | _ => cases h; exact ⟨hw.count, hw.ring⟩

/-- From stores without entries from before, and a batch without any, a step makes the same. -/
theorem logServe_since (h : logServe pg c w q = some (r, w')) (hcount : n ≤ w.added.length)
    (hw : StoresSince n w) (hq : Since n q.batch) : StoresSince n w' ∧ Since n (handed q r) := by
  cases q with
  | add fields =>
    cases h
    refine ⟨⟨hw.pending.append fun entry hentry => ?_, hw.stored⟩, since_nil n⟩
    rw [List.mem_singleton.1 hentry]
    exact hcount
  | takePending =>
    cases h
    exact ⟨⟨since_nil n, hw.stored⟩, hw.pending⟩
  | flushLogs logs =>
    cases h
    constructor
    · refine ⟨hw.pending, ?_⟩
      change Since n ((flushLogs pg c.reachable c.now logs w.kafkaLogs).2.map (·.entry))
      rcases flushLogs_cases pg c.reachable c.now logs w.kafkaLogs with ⟨-, ht⟩ | ⟨-, -, ht⟩
      · rw [ht]
        exact hw.stored
      · rw [ht]
        exact hw.stored.append hq
    · change Since n (if (flushLogs pg c.reachable c.now logs w.kafkaLogs).1 = 0 then logs else [])
      split
      · exact hq
      · exact since_nil n
  | putBack logs =>
    cases h
    exact ⟨⟨Since.append hq hw.pending, hw.stored⟩, since_nil n⟩
  | clearCache =>
    cases h
    exact ⟨⟨since_nil n, hw.stored⟩, since_nil n⟩
  | clearLogs =>
    cases h
    refine ⟨⟨hw.pending, ?_⟩, since_nil n⟩
    change Since n ((clearLogs c.reachable w.kafkaLogs).2.map (·.entry))
    unfold clearLogs
    split
    · exact since_nil n
    · exact hw.stored
  | cancelTimer =>
    cases h
    refine ⟨⟨?_, ?_⟩, since_nil n⟩
    · simpa using hw.pending
    · simpa [LogWorld.stored] using hw.stored
  | fire timer =>
    obtain ⟨cancelled, -, he⟩ := Option.map_eq_some_iff.1 h
    cases he
    exact ⟨hw, since_nil n⟩
  | _ => cases h; exact ⟨⟨hw.pending, hw.stored⟩, since_nil n⟩

end

/-! ## Runs -/

section Runs

variable {ι : Type} [DecidableEq ι] {pg : Postgres} {n : Nat} {i j : ι}
  {P : Pool LogAnswer ι LogWorld Unit → ι → LogChoice → Prop}
  {p p' : Pool LogAnswer ι LogWorld Unit}

/-- Some entry from before the `n`-th one waits or is in flight. -/
def Carried (n : Nat) (p : Pool LogAnswer ι LogWorld Unit) : Prop :=
  ∃ entry, entry.ref < n ∧
    (entry ∈ p.world.cache.pendingFlush ∨ ∃ j, entry ∈ LogProg.held (p.procs j))

/-- No entry from before the `n`-th one is left anywhere. -/
structure Gone (n : Nat) (p : Pool LogAnswer ι LogWorld Unit) : Prop where
  ring : RingSince n p.world
  stores : StoresSince n p.world
  held : ∀ i, Since n (LogProg.held (p.procs i))

omit [DecidableEq ι] in
theorem Gone.not_remains (h : Gone n p) : ¬ Remains n p.world := by
  rintro ⟨entry, hold, hentry | hentry | hentry⟩
  · exact absurd (h.ring.ring entry hentry) (by omega)
  · exact absurd (h.stores.pending entry hentry) (by omega)
  · exact absurd (h.stores.stored entry hentry) (by omega)

/-- What is gone does not come back. -/
theorem Gone.steps (hp : ∀ i, (p.procs i).Always Accounts) (h : Pool.Steps (logServer pg ι) P p p')
    (hgone : Gone n p) : Gone n p' := by
  refine (h.inv (J := fun p => (∀ i, (p.procs i).Always Accounts) ∧ Gone n p) ?_ ⟨hp, hgone⟩).2
  rintro p p' i c hP hn ⟨halways, hgone⟩
  have hstep : Pool.Steps (logServer pg ι) P p p' := .step hP hn (.refl p')
  refine ⟨fun j => hstep.always (halways j), ?_⟩
  obtain ⟨q, k, r, w, hq, hr, -, rfl⟩ := Pool.next_cases hn
  have hheld : LogProg.held (k r) = handed q r := by
    have := (halways i).here
    rw [hq] at this
    exact this r
  have hbatch : Since n q.batch := by
    have := hgone.held i
    rwa [hq, held_call] at this
  obtain ⟨hstores, hhanded⟩ := logServe_since hr hgone.ring.count hgone.stores hbatch
  refine ⟨logServe_ring hr hgone.ring, hstores, fun j => ?_⟩
  by_cases hj : j = i
  · subst hj
    simp only [Function.update_self, hheld]
    exact hhanded
  · simp only [Function.update_of_ne hj]
    exact hgone.held j

/-- An entry in flight is stored or put back, if the thread that holds it goes on. -/
theorem held_surfaces (hfree : p.holder = none) (hp : (p.procs j).Always Accounts)
    {entry : LogEntry} (hentry : entry ∈ LogProg.held (p.procs j)) :
    ∃ p', Pool.Steps (logServer pg ι) (fun _ _ _ => True) p p' ∧
      (entry ∈ p'.world.cache.pendingFlush ∨ entry ∈ p'.world.stored) := by
  let c : LogChoice := { now := 0, reachable := true }
  generalize hprog : p.procs j = prog at hp hentry
  induction prog generalizing p with
  | ret a => exact absurd hentry List.not_mem_nil
  | call q k ih =>
    cases q with
    | flushLogs logs =>
      have hn := Pool.next_of_call (S := logServer pg ι) (c := c) hfree hprog rfl
      have hstep := Pool.Steps.step (P := fun _ _ _ => True) trivial hn (.refl _)
      rcases flushLogs_cases pg c.reachable c.now logs p.world.kafkaLogs with
        ⟨hcount, -⟩ | ⟨-, -, htable⟩
      · -- the batch is refused: the thread still holds it
        have hheld : LogProg.held (k (flushLogs pg c.reachable c.now logs p.world.kafkaLogs).1) =
            logs := (hp.1 _).trans (if_pos hcount)
        obtain ⟨p', hlater, hsurface⟩ := ih _ (hstep.free (fun _ => rfl) hfree)
          (Function.update_self j _ _) (hp.2 _) (hheld.symm ▸ hentry)
        exact ⟨p', hstep.trans hlater, hsurface⟩
      · refine ⟨_, hstep, .inr ?_⟩
        change entry ∈ (flushLogs pg c.reachable c.now logs p.world.kafkaLogs).2.map (·.entry)
        rw [htable]
        exact List.mem_append_right _ hentry
    | putBack logs =>
      have hn := Pool.next_of_call (S := logServer pg ι) (c := c) hfree hprog rfl
      exact ⟨_, .step trivial hn (.refl _), .inl (List.mem_append_left _ hentry)⟩
    | _ => exact absurd hentry List.not_mem_nil

end Runs

/-! ## A clear among others -/

section Clear

variable {ι : Type} [DecidableEq ι] {pg : Postgres} {thread : ι → LogThread} {maxEntries n : Nat}
  {i : ι} {p₁ p₂ p₃ p₄ : Pool LogAnswer ι LogWorld Unit}

/-- A run in which thread `i` clears: it empties the cache at `p₁`, and at `p₃` the table, which can
be reached, and it returns at `p₄`. -/
structure ClearRun (pg : Postgres) (thread : ι → LogThread) (maxEntries : Nat) (i : ι)
    (p₁ p₂ p₃ p₄ : Pool LogAnswer ι LogWorld Unit) : Prop where
  clears : thread i = .clear
  before : Pool.Steps (logServer pg ι) (fun _ _ _ => True) (logThreads thread maxEntries) p₁
  fresh : p₁.begun i = false
  cache : ∃ c, p₁.next (logServer pg ι) i c = some p₂
  between : Pool.Steps (logServer pg ι) (fun _ j _ => j ≠ i) p₂ p₃
  table : ∃ now, p₃.next (logServer pg ι) i { now, reachable := true } = some p₄

namespace ClearRun

/-- As the table is emptied, nothing from before the clear is in the ring. -/
theorem ring (run : ClearRun pg thread maxEntries i p₁ p₂ p₃ p₄) (hn : n ≤ p₁.world.added.length) :
    p₃.procs i = .call .clearLogs (fun _ => .ret ()) ∧ RingSince n p₃.world := by
  obtain ⟨c, hcache⟩ := run.cache
  have hprog : p₁.procs i = clearErrors := by
    rw [run.before.unbegun run.fresh, run.clears]
    rfl
  have hemptied : p₂.procs i = .call .clearLogs (fun _ => .ret ()) ∧ RingSince n p₂.world := by
    obtain ⟨q, k, r, w, hq, hr, -, rfl⟩ := Pool.next_cases hcache
    rw [hprog] at hq
    cases hq
    cases hr
    exact ⟨Function.update_self _ _ _, hn, since_nil n⟩
  refine run.between.inv (J := fun p => p.procs i = .call .clearLogs (fun _ => .ret ()) ∧
    RingSince n p.world) ?_ hemptied
  rintro p p' j c hj hnext ⟨hwaits, hring⟩
  refine ⟨(Pool.next_procs_ne hnext hj.symm).trans hwaits, ?_⟩
  obtain ⟨q, k, r, w, -, hr, -, rfl⟩ := Pool.next_cases hnext
  exact logServe_ring hr hring

/-- The last step empties the table and nothing else. -/
theorem emptied (run : ClearRun pg thread maxEntries i p₁ p₂ p₃ p₄) :
    p₄.world = { p₃.world with kafkaLogs := [] } ∧
      p₄.procs = Function.update p₃.procs i (.ret ()) := by
  obtain ⟨now, htable⟩ := run.table
  obtain ⟨q, k, r, w, hq, hr, -, rfl⟩ := Pool.next_cases htable
  rw [(run.ring (Nat.zero_le _)).1] at hq
  cases hq
  cases hr
  exact ⟨rfl, rfl⟩

/-- A run in which everyone but the clear is the same before and after the last step. -/
theorem held_emptied (run : ClearRun pg thread maxEntries i p₁ p₂ p₃ p₄) (j : ι) :
    LogProg.held (p₄.procs j) = LogProg.held (p₃.procs j) := by
  rw [run.emptied.2]
  by_cases hj : j = i
  · subst hj
    rw [Function.update_self, (run.ring (Nat.zero_le _)).1]
    rfl
  · rw [Function.update_of_ne hj]

/-- The whole run up to the return of the clear. -/
theorem steps (run : ClearRun pg thread maxEntries i p₁ p₂ p₃ p₄) :
    Pool.Steps (logServer pg ι) (fun _ _ _ => True) (logThreads thread maxEntries) p₄ := by
  obtain ⟨c, hcache⟩ := run.cache
  obtain ⟨now, htable⟩ := run.table
  have hbetween : Pool.Steps (logServer pg ι) (fun _ _ _ => True) p₂ p₃ :=
    run.between.mono fun _ _ _ _ => trivial
  exact run.before.trans (.step trivial hcache (hbetween.trans (.step trivial htable (.refl _))))

end ClearRun

/-- **A clear is complete exactly when, as the table is emptied, no entry from before it waits or is
in flight**: then none of them is in the ring, waits, or is stored, at any later point. -/
theorem clear_complete_iff (run : ClearRun pg thread maxEntries i p₁ p₂ p₃ p₄)
    (hn : n ≤ p₁.world.added.length) :
    (∀ p₅, Pool.Steps (logServer pg ι) (fun _ _ _ => True) p₄ p₅ → ¬ Remains n p₅.world) ↔
      ¬ Carried n p₃ := by
  have haccounts : ∀ j, (p₄.procs j).Always Accounts :=
    fun j => run.steps.always (thread_accounts (thread j))
  constructor
  · rintro hcomplete ⟨entry, hold, hentry | ⟨j, hentry⟩⟩
    · refine hcomplete p₄ (.refl _) ⟨entry, hold, .inr (.inl ?_)⟩
      rw [run.emptied.1]
      exact hentry
    · rw [← run.held_emptied j] at hentry
      obtain ⟨p₅, hlater, hsurface⟩ :=
        held_surfaces (run.steps.free (fun _ => rfl) rfl) (haccounts j) hentry
      exact hcomplete p₅ hlater ⟨entry, hold, .inr hsurface⟩
  · intro hfree p₅ hlater
    have hgone : Gone n p₄ := by
      refine ⟨?_, ⟨?_, ?_⟩, fun j entry hentry => ?_⟩
      · rw [run.emptied.1]
        exact ⟨(run.ring hn).2.count, (run.ring hn).2.ring⟩
      · rw [run.emptied.1]
        intro entry hentry
        by_contra hold
        exact hfree ⟨entry, by omega, .inl hentry⟩
      · rw [run.emptied.1]
        exact since_nil n
      · rw [run.held_emptied j] at hentry
        by_contra hold
        exact hfree ⟨entry, by omega, .inr ⟨j, hentry⟩⟩
    exact (hgone.steps haccounts hlater).not_remains

end Clear

/-- One entry, a flush, and a clear. -/
def clearThreads : Fin 3 → LogThread := ![.ingest [sampleLog "a"], .clear, .flush]

/-- A clear that runs without a break after a schedule. -/
theorem ClearRun.of_schedule (before : List (Fin 3 × LogChoice))
    (J : Pool LogAnswer (Fin 3) LogWorld Unit → Pool LogAnswer (Fin 3) LogWorld Unit →
      Pool LogAnswer (Fin 3) LogWorld Unit → Bool)
    (h : (((logThreads clearThreads 10).runIf (logServer samplePostgres (Fin 3))
      (fun _ _ _ => True) before).any fun p₁ => !p₁.begun 1 &&
        (p₁.next (logServer samplePostgres (Fin 3)) 1 { now := 0, reachable := true }).any fun p₂ =>
          (p₂.next (logServer samplePostgres (Fin 3)) 1 { now := 0, reachable := true }).any
            fun p₃ => J p₁ p₂ p₃) = true) :
    ∃ p₁ p₂ p₃, ClearRun samplePostgres clearThreads 10 1 p₁ p₂ p₂ p₃ ∧ J p₁ p₂ p₃ = true := by
  obtain ⟨p₁, hbefore, h⟩ := (Option.any_eq_true _ _).1 h
  obtain ⟨hfresh, h⟩ := Bool.and_eq_true_iff.1 h
  obtain ⟨p₂, hcache, h⟩ := (Option.any_eq_true _ _).1 h
  obtain ⟨p₃, htable, hJ⟩ := (Option.any_eq_true _ _).1 h
  exact ⟨p₁, p₂, p₃, ⟨rfl, .of_runIf hbefore, by simpa using hfresh, ⟨_, hcache⟩, .refl _,
    ⟨0, htable⟩⟩, hJ⟩

/-- The clear runs while nothing is in flight. -/
theorem clear_complete_sample : ∃ p₁ p₄ : Pool LogAnswer (Fin 3) LogWorld Unit,
    p₁.world.added.length = 1 ∧
      ∀ p₅, Pool.Steps (logServer samplePostgres (Fin 3)) (fun _ _ _ => True) p₄ p₅ →
        ¬ Remains 1 p₅.world := by
  obtain ⟨p₁, p₂, p₄, run, hempty⟩ := ClearRun.of_schedule (steps 1 0)
    (fun p₁ p₂ _ => p₁.world.added.length = 1 ∧ p₂.world.cache.pendingFlush.isEmpty ∧
      ∀ j, (LogProg.held (p₂.procs j)).isEmpty) (by decide +kernel)
  obtain ⟨hadded, hpending, hheld⟩ := of_decide_eq_true hempty
  refine ⟨p₁, p₄, hadded, (clear_complete_iff run hadded.ge).2 ?_⟩
  rintro ⟨entry, -, hentry | ⟨j, hentry⟩⟩
  · rw [List.isEmpty_iff.1 hpending] at hentry
    exact List.not_mem_nil hentry
  · rw [List.isEmpty_iff.1 (hheld j)] at hentry
    exact List.not_mem_nil hentry

/-- The flush holds the entry while the clear runs, and stores it afterwards. -/
theorem clear_incomplete : ∃ p₁ p₂ p₃ p₄ p₅ : Pool LogAnswer (Fin 3) LogWorld Unit,
    ClearRun samplePostgres clearThreads 10 1 p₁ p₂ p₃ p₄ ∧ p₁.world.added.length = 1 ∧
      Pool.Steps (logServer samplePostgres (Fin 3)) (fun _ _ _ => True) p₄ p₅ ∧
      Remains 1 p₅.world := by
  obtain ⟨p₁, p₂, p₄, run, hlater⟩ := ClearRun.of_schedule (steps 1 0 ++ steps 1 2)
    (fun p₁ _ p₄ => p₁.world.added.length = 1 ∧
      (p₄.runIf (logServer samplePostgres (Fin 3)) (fun _ _ _ => True) (steps 1 2)).any fun p₅ =>
        p₅.world.stored.any (·.ref < 1)) (by decide +kernel)
  obtain ⟨hadded, hlater⟩ := of_decide_eq_true hlater
  obtain ⟨p₅, hsteps, hstored⟩ := Pool.Steps.exists_of_runIf hlater
  obtain ⟨entry, hentry, hold⟩ := List.any_eq_true.1 hstored
  exact ⟨p₁, p₂, p₂, p₄, p₅, run, hadded, hsteps, entry, of_decide_eq_true hold,
    .inr (.inr hentry)⟩

end PeHackathon.Dashboard
