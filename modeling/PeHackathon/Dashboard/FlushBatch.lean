import PeHackathon.Dashboard.LogCache

/-!
# One bad entry in a batch

A flush sends what waits as one transaction. `flush_stores_fitting_iff`: while the database can be
reached, one `flush_to_db` stores every waiting entry that fits the columns exactly when all of them
fit or none does. An entry that does not fit is put back in front, so it is in the next batch too:
`Blocked.inTurn`.
-/

namespace PeHackathon.Dashboard

open Lib

section

variable {pg : Postgres}

/-! ## Which batches are stored -/

/-- The entry satisfies the types and lengths of the columns. -/
def Fits (pg : Postgres) (entry : JsonObject) : Prop := ∀ now, (rowOf pg now entry).isSome

theorem bind_eq_map {α β γ : Type} {o : Option α} {f : α → Option β} {f' : α → Option γ} {g : β → γ}
    (h : ∀ a, f' a = (f a).map g) : o.bind f' = (o.bind f).map g := by
  cases o with
  | none => rfl
  | some a => exact h a

/-- The time of a row does not decide whether there is one. -/
theorem rowOf_now (now now' : Int) (entry : JsonObject) :
    rowOf pg now' entry = (rowOf pg now entry).map fun row => { row with ingestedAt := now' } := by
  unfold rowOf
  iterate 12 refine bind_eq_map fun _ => ?_
  rfl

theorem fits_iff (now : Int) {entry : JsonObject} :
    Fits pg entry ↔ (rowOf pg now entry).isSome := by
  constructor
  · intro h
    exact h now
  · intro h now'
    rw [rowOf_now now now', Option.isSome_map]
    exact h

/-- A batch has rows exactly when each of its entries fits. -/
theorem rowsOf_isSome {now : Int} {logs : List LogEntry} :
    (rowsOf pg now logs).isSome ↔ ∀ entry ∈ logs, Fits pg entry.fields := by
  induction logs with
  | nil => simp [rowsOf]
  | cons entry logs ih =>
    rw [List.forall_mem_cons, ← ih, fits_iff now, rowsOf, List.mapM_cons]
    cases hrow : rowOf pg now entry.fields with
    | none => simp
    | some row => simp [rowsOf, Option.isSome_bind]

end

/-! ## One flush -/

section

variable {pg : Postgres} {ι : Type} {i : ι} {c : LogChoice} {w w' : LogWorld}

/-- A flush that commits moves what waited into the table. -/
theorem flushToDb_commits {rows : List StoredLog}
    (hrows : rowsOf pg c.now w.cache.pendingFlush = some rows) (hreach : c.reachable = true) :
    (logServer pg ι).eval i c flushToDb w = some ((),
      { w with cache := w.cache.takePending.2, kafkaLogs := w.kafkaLogs ++ rows }) := by
  have hcount : rows.length = w.cache.pendingFlush.length := by
    rw [← rowsOf_entries hrows, List.length_map]
  by_cases hne : w.cache.pendingFlush = []
  · have hnil : rows = [] := List.eq_nil_of_length_eq_zero (by rw [hcount, hne, List.length_nil])
    rw [hnil, List.append_nil, ← Prog.bind_ret flushToDb, flushToDb_bind, Server.eval_call]
    change (logServer pg ι).eval i c (sendBatch w.cache.pendingFlush >>= .ret) _ = _
    rw [hne]
    rfl
  · have hflush : flushLogs pg c.reachable c.now w.cache.pendingFlush w.kafkaLogs =
        (rows.length, w.kafkaLogs ++ rows) := by
      rw [flushLogs, if_neg (by simpa using hne), if_pos hreach, hrows]
    rw [← Prog.bind_ret flushToDb, flushToDb_bind, Server.eval_call]
    change (logServer pg ι).eval i c (sendBatch w.cache.pendingFlush >>= .ret) _ = _
    rw [sendBatch_bind hne, Server.eval_call]
    change (logServer pg ι).eval i c (if (flushLogs pg c.reachable c.now w.cache.pendingFlush
      w.kafkaLogs).1 = 0 then _ else _) { w with
        cache := w.cache.takePending.2
        kafkaLogs := (flushLogs pg c.reachable c.now w.cache.pendingFlush w.kafkaLogs).2 } = _
    rw [hflush, if_neg (by rw [hcount]; exact (List.length_pos_iff.2 hne).ne')]
    rfl

/-- One that does not puts it back. -/
theorem flushToDb_keeps (hrows : c.reachable = true → rowsOf pg c.now w.cache.pendingFlush = none) :
    (logServer pg ι).eval i c flushToDb w = some ((), w) := by
  rw [← Prog.bind_ret flushToDb, flushToDb_bind, Server.eval_call]
  change (logServer pg ι).eval i c (sendBatch w.cache.pendingFlush >>= .ret)
    { w with cache := w.cache.takePending.2 } = _
  by_cases hne : w.cache.pendingFlush = []
  · rw [hne]
    change some ((), { w with cache := { w.cache with pendingFlush := [] } }) = some ((), w)
    rw [← hne]
  · have hflush : flushLogs pg c.reachable c.now w.cache.pendingFlush w.kafkaLogs =
        (0, w.kafkaLogs) := by
      rw [flushLogs, if_neg (by simpa using hne)]
      cases hreach : c.reachable with
      | false => rfl
      | true => rw [if_pos rfl, hrows hreach]
    rw [sendBatch_bind hne, Server.eval_call]
    change (logServer pg ι).eval i c (if (flushLogs pg c.reachable c.now w.cache.pendingFlush
      w.kafkaLogs).1 = 0 then _ else _) { w with
        cache := w.cache.takePending.2
        kafkaLogs := (flushLogs pg c.reachable c.now w.cache.pendingFlush w.kafkaLogs).2 } = _
    rw [hflush, if_pos rfl, Server.eval_call]
    change some ((), { w with
      cache := { w.cache with pendingFlush := w.cache.pendingFlush ++ [] } }) = some ((), w)
    rw [List.append_nil]

/-- Every waiting entry that fits gets a row among those that were added. -/
def StoresFitting (pg : Postgres) (w w' : LogWorld) : Prop :=
  ∃ rows, w'.kafkaLogs = w.kafkaLogs ++ rows ∧
    ∀ entry ∈ w.cache.pendingFlush, Fits pg entry.fields → ∃ stored ∈ rows, stored.entry = entry

/-- **One flush stores the waiting entries that fit exactly when all of them fit or none does.** -/
theorem flush_stores_fitting_iff (pg : Postgres) {ι : Type} (i : ι) (now : Int) (w : LogWorld) :
    (∃ w', (logServer pg ι).eval i { now, reachable := true } flushToDb w = some ((), w') ∧
        StoresFitting pg w w') ↔
      (∀ entry ∈ w.cache.pendingFlush, Fits pg entry.fields) ∨
        ∀ entry ∈ w.cache.pendingFlush, ¬ Fits pg entry.fields := by
  cases hrows : rowsOf pg now w.cache.pendingFlush with
  | some rows =>
    have hfits := rowsOf_isSome.1 (Option.isSome_of_eq_some hrows)
    refine iff_of_true ⟨_, flushToDb_commits hrows rfl, rows, rfl, fun entry hentry _ => ?_⟩
      (.inl hfits)
    rw [← rowsOf_entries hrows] at hentry
    exact List.mem_map.1 hentry
  | none =>
    have hbad : ¬ ∀ entry ∈ w.cache.pendingFlush, Fits pg entry.fields := by
      intro hall
      have hsome : (rowsOf pg now w.cache.pendingFlush).isSome := rowsOf_isSome.2 hall
      rw [hrows] at hsome
      cases hsome
    have hrun : (logServer pg ι).eval i { now, reachable := true } flushToDb w = some ((), w) :=
      flushToDb_keeps fun _ => hrows
    constructor
    · rintro ⟨w', hrun', rows, htable, hstored⟩
      rw [hrun] at hrun'
      cases hrun'
      have hnil : rows = [] := List.append_right_eq_self.1 htable.symm
      subst hnil
      refine .inr fun entry hentry hfits => ?_
      obtain ⟨_, hmem, -⟩ := hstored entry hentry hfits
      exact List.not_mem_nil hmem
    · rintro (hall | hnone)
      · exact absurd hall hbad
      · exact ⟨w, hrun, [], (List.append_nil _).symm, fun entry hentry hfits =>
          absurd hfits (hnone entry hentry)⟩

end

/-- An entry whose level has 17 characters. -/
def overlongLog : JsonObject := [("level", .str "LEVEL_OF_17_CHARS")]

/-- Two entries arrive, of which one fits, and the flush stores none. -/
theorem flush_skips_fitting : ∃ w,
    (logServer samplePostgres Unit).eval () { now := 0, reachable := true }
        (ingestLogs [sampleLog "a", overlongLog]) (.start 10) = some ((), w) ∧
      ¬ ∃ w', (logServer samplePostgres Unit).eval () { now := 0, reachable := true } flushToDb w =
          some ((), w') ∧ StoresFitting samplePostgres w w' := by
  let w := ((LogWorld.start 10).add (sampleLog "a")).add overlongLog
  have hkept : (logServer samplePostgres Unit).eval () { now := 0, reachable := true } flushToDb w =
      some ((), w) := flushToDb_keeps fun _ => by decide +kernel
  refine ⟨w, rfl, ?_⟩
  rintro ⟨w', hrun, rows, htable, hstored⟩
  rw [hkept] at hrun
  cases hrun
  have hnil : rows = [] := List.append_right_eq_self.1 htable.symm
  subst hnil
  obtain ⟨_, hmem, -⟩ := hstored { ref := 0, fields := sampleLog "a" } (.head _)
    ((fits_iff 0).2 (by decide +kernel))
  exact List.not_mem_nil hmem

/-! ## Later flushes -/

section

variable {pg : Postgres} {ι : Type} {i : ι} {w w' : LogWorld}

/-- Something that waits does not fit. -/
def Blocked (pg : Postgres) (w : LogWorld) : Prop :=
  ∃ entry ∈ w.cache.pendingFlush, ¬ Fits pg entry.fields

theorem Blocked.rowsOf (h : Blocked pg w) (now : Int) :
    rowsOf pg now w.cache.pendingFlush = none := by
  obtain ⟨entry, hentry, hbad⟩ := h
  rw [← Option.not_isSome_iff_eq_none, rowsOf_isSome]
  exact fun hall => hbad (hall entry hentry)

/-- A flush of a batch that is blocked changes nothing. -/
theorem Blocked.flush (h : Blocked pg w) (hrun : (logServer pg ι).Runs i flushToDb w () w') :
    w' = w := by
  have hne : w.cache.pendingFlush ≠ [] := by
    obtain ⟨entry, hentry, -⟩ := h
    exact List.ne_nil_of_mem hentry
  rw [← Prog.bind_ret flushToDb, flushToDb_bind, Server.runs_call] at hrun
  obtain ⟨c, logs, w₁, htake, hrun⟩ := hrun
  cases htake
  change (logServer pg ι).Runs i (sendBatch w.cache.pendingFlush >>= .ret) _ () w' at hrun
  rw [sendBatch_bind hne, Server.runs_call] at hrun
  obtain ⟨c, flushed, w₂, hflush, hrun⟩ := hrun
  have hkept : flushLogs pg c.reachable c.now w.cache.pendingFlush w.kafkaLogs =
      (0, w.kafkaLogs) := by
    rw [flushLogs, if_neg (by simpa using hne), h.rowsOf c.now]
    split <;> rfl
  change some ((flushLogs pg c.reachable c.now w.cache.pendingFlush w.kafkaLogs).1,
    { w with
      cache := w.cache.takePending.2
      kafkaLogs := (flushLogs pg c.reachable c.now w.cache.pendingFlush w.kafkaLogs).2 }) =
    some (flushed, w₂) at hflush
  rw [hkept] at hflush
  cases hflush
  change (logServer pg ι).Runs i (.call (.putBack w.cache.pendingFlush) .ret) _ () w' at hrun
  rw [Server.runs_call] at hrun
  obtain ⟨c, r, w₃, hback, hrun⟩ := hrun
  cases hback
  cases hrun
  change { w with cache := { w.cache with pendingFlush := w.cache.pendingFlush ++ [] } } = w
  rw [List.append_nil]

/-- An ingest stores nothing, and leaves what waits in front. -/
theorem ingest_appends {entries : List JsonObject}
    (hrun : (logServer pg ι).Runs i (ingestLogs entries) w () w') :
    w'.kafkaLogs = w.kafkaLogs ∧
      ∃ later, w'.cache.pendingFlush = w.cache.pendingFlush ++ later := by
  induction entries generalizing w with
  | nil =>
    cases hrun
    exact ⟨rfl, [], (List.append_nil _).symm⟩
  | cons fields rest ih =>
    obtain ⟨c, r, w₁, hadd, hrest⟩ := (Server.runs_call _ i).1 hrun
    cases hadd
    obtain ⟨htable, later, hlater⟩ := ih hrest
    exact ⟨htable, _ :: later, by rw [hlater]; exact List.append_assoc _ [_] later⟩

/-- Threads one after the other. -/
def inTurn : List LogThread → LogProg Unit
  | [] => return ()
  | thread :: rest => do
    thread.prog
    inTurn rest

/-- **A blocked cache stays blocked**: as long as ingests and flushes follow one another nothing is
stored, and all that arrives waits behind the entry that does not fit. -/
theorem Blocked.inTurn {threads : List LogThread}
    (hthreads : ∀ thread ∈ threads, thread = .flush ∨ ∃ entries, thread = .ingest entries)
    (h : Blocked pg w) (hrun : (logServer pg ι).Runs i (inTurn threads) w () w') :
    w'.kafkaLogs = w.kafkaLogs ∧
      ∃ later, w'.cache.pendingFlush = w.cache.pendingFlush ++ later := by
  induction threads generalizing w with
  | nil =>
    cases hrun
    exact ⟨rfl, [], (List.append_nil _).symm⟩
  | cons thread rest ih =>
    obtain ⟨⟨⟩, w₁, hfirst, hrest⟩ := (Server.runs_bind _ i).1 hrun
    rw [List.forall_mem_cons] at hthreads
    rcases hthreads.1 with rfl | ⟨entries, rfl⟩
    · cases h.flush hfirst
      exact ih hthreads.2 h hrest
    · obtain ⟨htable, later, hlater⟩ := ingest_appends hfirst
      obtain ⟨bad, hbad, hfits⟩ := h
      have hblocked : Blocked pg w₁ :=
        ⟨bad, by rw [hlater]; exact List.mem_append_left _ hbad, hfits⟩
      obtain ⟨htable', later', hlater'⟩ := ih hthreads.2 hblocked hrest
      exact ⟨htable'.trans htable, later ++ later', by
        rw [hlater', hlater, List.append_assoc]⟩

end

end PeHackathon.Dashboard
