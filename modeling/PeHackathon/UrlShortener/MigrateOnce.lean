import PeHackathon.UrlShortener.Migrations

/-!
# Migrations once and in order

A run commits a file's SQL and its name in one transaction, after it has found all files before it
committed; the unique index lets no second transaction with the name through.
`migrations_once_in_order`: whatever runs overlap, fail or crash, the names in `schema_migrations`
are those of the files whose SQL is committed, each once, and make a front part of the sorted files;
a run that ends with "Migrations complete." leaves every file committed.
-/

namespace PeHackathon.UrlShortener

open Lib

/-- A list with distinct items whose front part holds all items up to `x`, and not `x`. -/
theorem prefix_concat {α : Type} {l done rest : List α} {x : α} (hnodup : (done ++ x :: rest).Nodup)
    (hl : l <+: done ++ x :: rest) (hdone : ∀ y ∈ done, y ∈ l) (hx : x ∉ l) :
    l ++ [x] <+: done ++ x :: rest := by
  have hdone_nodup : done.Nodup := (List.nodup_append.1 hnodup).1
  have hle : done.length ≤ l.length := (List.subperm_of_subset hdone_nodup hdone).length_le
  have hfront : done <+: l := List.prefix_of_prefix_length_le (List.prefix_append _ _) hl hle
  obtain ⟨more, rfl⟩ := hfront
  rw [List.prefix_append_right_inj] at hl
  cases more with
  | nil => simp [List.prefix_append_right_inj]
  | cons y more =>
    obtain ⟨hyx, -⟩ := List.cons_prefix_cons.1 hl
    rw [hyx] at hx
    exact absurd (List.mem_append_right _ List.mem_cons_self) hx

section

variable {ι : Type} [DecidableEq ι] {files : List String} {db : MigrationDb ι} {i j : ι}

/-! ## The database -/

/-- What the committed rows are among the files, and who holds a name that is not committed. -/
structure Applied (files : List String) (db : MigrationDb ι) : Prop where
  applied : db.applied = db.rows
  inOrder : db.rows <+: files
  held : ∀ name i, db.holder name = some i ↔ name ∈ (db.tx i).inserted
  unapplied : ∀ name i, db.holder name = some i → name ∉ db.rows

namespace Applied

omit [DecidableEq ι] in
theorem empty : Applied files (.empty : MigrationDb ι) :=
  ⟨rfl, List.nil_prefix, fun _ _ => ⟨nofun, nofun⟩, nofun⟩

/-- A statement that inserts nothing. -/
theorem setTx (h : Applied files db) {tx : MigrationTx} (htx : tx.inserted = (db.tx i).inserted) :
    Applied files (db.setTx i tx) := by
  refine ⟨h.applied, h.inOrder, fun name j => (h.held name j).trans ?_, h.unapplied⟩
  by_cases hj : j = i
  · rw [hj]
    simp [MigrationDb.setTx, htx]
  · simp [MigrationDb.setTx, hj]

theorem insert (h : Applied files db) {path : String} (hholder : db.holder path = none)
    (hrows : path ∉ db.rows) : Applied files (db.insert i path) := by
  refine ⟨h.applied, h.inOrder, fun name j => ?_, fun name j => ?_⟩
  · have hpath : ∀ j, path ∉ (db.tx j).inserted := by
      intro j hj
      rw [(h.held path j).2 hj] at hholder
      cases hholder
    by_cases hname : name = path <;> by_cases hj : j = i
    · simp [MigrationDb.insert, MigrationDb.setTx, hname, hj]
    · simp [MigrationDb.insert, MigrationDb.setTx, hname, hj, hpath, Ne.symm hj]
    · simp [MigrationDb.insert, MigrationDb.setTx, hname, hj, h.held]
    · simp [MigrationDb.insert, MigrationDb.setTx, hname, hj, h.held]
  · intro hheld
    by_cases hname : name = path
    · rw [hname]
      exact hrows
    · simp only [MigrationDb.insert, Function.update_of_ne hname] at hheld
      exact h.unapplied name j hheld

/-- The end of a transaction lets go of the names it holds. -/
theorem held_released (h : Applied files db) (name : String) :
    (if db.holder name = some i then none else db.holder name) = some j ↔
      name ∈ (Function.update db.tx i .empty j).inserted := by
  by_cases hj : j = i
  · rw [hj, Function.update_self]
    simp only [MigrationTx.empty, List.not_mem_nil, iff_false]
    split
    · exact nofun
    · assumption
  · rw [Function.update_of_ne hj, ← h.held name j]
    split
    · rename_i hheld
      rw [hheld]
      simp [Ne.symm hj]
    · rfl

theorem rollback (h : Applied files db) : Applied files (db.rollback i) := by
  refine ⟨h.applied, h.inOrder, fun name j => h.held_released name, fun name j hheld => ?_⟩
  simp only [MigrationDb.rollback] at hheld
  split at hheld
  · cases hheld
  · exact h.unapplied name j hheld

/-- A transaction that has run the SQL of the files it inserts, the next ones in order. -/
theorem commit (h : Applied files db) (htx : (db.tx i).executed = (db.tx i).inserted)
    (hnext : db.rows ++ (db.tx i).inserted <+: files) : Applied files (db.commit i) := by
  refine ⟨?_, hnext, fun name j => h.held_released name, fun name j hheld hname => ?_⟩
  · simp only [MigrationDb.commit, h.applied, htx]
  · simp only [MigrationDb.commit] at hheld hname
    split at hheld
    · cases hheld
    · rename_i hother
      rcases List.mem_append.1 hname with hrow | hnew
      · exact h.unapplied name j hheld hrow
      · exact hother ((h.held name i).2 hnew)

end Applied

/-! ## A run -/

/-- What a run knows where it stands: the files it has found committed, and what its transaction
holds. -/
inductive RunAt (files : List String) (db : MigrationDb ι) (i : ι) : MigrationProg → Prop
  | connects (htx : db.tx i = .empty) : RunAt files db i (connect files)
  | creates (htx : db.tx i = .empty) : RunAt files db i (createTable files)
  | commitsTable (hexecuted : (db.tx i).executed = []) (hinserted : (db.tx i).inserted = []) :
      RunAt files db i (commitTable files)
  | loops {done rest : List String} (hfiles : files = done ++ rest) (hdone : ∀ f ∈ done,
      f ∈ db.rows) (hexecuted : (db.tx i).executed = []) (hinserted : (db.tx i).inserted = []) :
      RunAt files db i (migrate rest)
  | reads {done rest : List String} {path : String} (hfiles : files = done ++ path :: rest)
      (hdone : ∀ f ∈ done, f ∈ db.rows) (hexecuted : (db.tx i).executed = [])
      (hinserted : (db.tx i).inserted = []) : RunAt files db i (readFile path (migrate rest))
  | executes {done rest : List String} {path : String} (hfiles : files = done ++ path :: rest)
      (hdone : ∀ f ∈ done, f ∈ db.rows) (hexecuted : (db.tx i).executed = [])
      (hinserted : (db.tx i).inserted = []) : RunAt files db i (executeFile path (migrate rest))
  | inserts {done rest : List String} {path : String} (hfiles : files = done ++ path :: rest)
      (hdone : ∀ f ∈ done, f ∈ db.rows) (hexecuted : (db.tx i).executed = [path])
      (hinserted : (db.tx i).inserted = []) : RunAt files db i (insertFile path (migrate rest))
  | commits {done rest : List String} {path : String} (hfiles : files = done ++ path :: rest)
      (hdone : ∀ f ∈ done, f ∈ db.rows) (hexecuted : (db.tx i).executed = [path])
      (hinserted : (db.tx i).inserted = [path]) : RunAt files db i (commitFile (migrate rest))
  | rollsBack : RunAt files db i rollBack
  | leaves {result : MigrationExit} (hresult : result = .complete → ∀ f ∈ files, f ∈ db.rows) :
      RunAt files db i (leave result)
  | ended {result : MigrationExit} (hresult : result = .complete → ∀ f ∈ files, f ∈ db.rows) :
      RunAt files db i (.ret result)

namespace RunAt

omit [DecidableEq ι] in
/-- Rows that others commit take nothing from what a run knows. -/
theorem mono {db' : MigrationDb ι} {prog : MigrationProg} (h : RunAt files db i prog)
    (htx : db'.tx i = db.tx i) (hrows : ∀ f ∈ db.rows, f ∈ db'.rows) : RunAt files db' i prog := by
  cases h with
  | connects h => exact .connects (htx ▸ h)
  | creates h => exact .creates (htx ▸ h)
  | commitsTable hexecuted hinserted => exact .commitsTable (htx ▸ hexecuted) (htx ▸ hinserted)
  | loops hfiles hdone hexecuted hinserted =>
    exact .loops hfiles (fun f hf => hrows f (hdone f hf)) (htx ▸ hexecuted) (htx ▸ hinserted)
  | reads hfiles hdone hexecuted hinserted =>
    exact .reads hfiles (fun f hf => hrows f (hdone f hf)) (htx ▸ hexecuted) (htx ▸ hinserted)
  | executes hfiles hdone hexecuted hinserted =>
    exact .executes hfiles (fun f hf => hrows f (hdone f hf)) (htx ▸ hexecuted) (htx ▸ hinserted)
  | inserts hfiles hdone hexecuted hinserted =>
    exact .inserts hfiles (fun f hf => hrows f (hdone f hf)) (htx ▸ hexecuted) (htx ▸ hinserted)
  | commits hfiles hdone hexecuted hinserted =>
    exact .commits hfiles (fun f hf => hrows f (hdone f hf)) (htx ▸ hexecuted) (htx ▸ hinserted)
  | rollsBack => exact .rollsBack
  | leaves hresult => exact .leaves fun hcomplete f hf => hrows f (hresult hcomplete f hf)
  | ended hresult => exact .ended fun hcomplete f hf => hrows f (hresult hcomplete f hf)

omit [DecidableEq ι] in
/-- A run that fails. -/
theorem leaves_fault (fault : MigrationFault) : RunAt files db i (leave fault.exit) :=
  .leaves fun h => by cases fault <;> cases h

omit [DecidableEq ι] in
theorem of_failed (fault : MigrationFault) : RunAt files db i (failed fault) := by
  cases fault with
  | raised => exact .rollsBack
  | crashed => exact .leaves nofun

omit [DecidableEq ι] in
/-- A run that has completed has found or committed every file. -/
theorem complete {prog : MigrationProg} (h : RunAt files db i prog)
    (hprog : prog = .ret .complete) :
    ∀ f ∈ files, f ∈ db.rows := by
  cases h with
  | ended hresult =>
    cases hprog
    exact hresult rfl
  | @loops done rest => cases rest <;> cases hprog
  | _ => cases hprog

end RunAt

/-! ## Steps -/

/-- What a step of run `i` is to the database and to the other runs. -/
structure RunStep (files : List String) (i : ι) (db db' : MigrationDb ι) (prog : MigrationProg) :
    Prop where
  applied : Applied files db'
  run : RunAt files db' i prog
  rows : ∀ f ∈ db.rows, f ∈ db'.rows
  others : ∀ j, j ≠ i → db'.tx j = db.tx j

namespace RunStep

omit [DecidableEq ι] in
/-- A step that leaves the database as it is. -/
theorem stay (hdb : Applied files db) {prog : MigrationProg} (hrun : RunAt files db i prog) :
    RunStep files i db db prog :=
  ⟨hdb, hrun, fun _ h => h, fun _ _ => rfl⟩

theorem setTx (hdb : Applied files db) {tx : MigrationTx} {prog : MigrationProg}
    (hrun : RunAt files (db.setTx i tx) i prog) (htx : tx.inserted = (db.tx i).inserted) :
    RunStep files i db (db.setTx i tx) prog :=
  ⟨hdb.setTx htx, hrun, fun _ h => h, fun _ hj => Function.update_of_ne hj _ _⟩

theorem rollback (hdb : Applied files db) {prog : MigrationProg}
    (hrun : RunAt files (db.rollback i) i prog) :
    RunStep files i db (db.rollback i) prog :=
  ⟨hdb.rollback, hrun, fun _ h => h, fun _ hj => Function.update_of_ne hj _ _⟩

theorem commit (hdb : Applied files db) (htx : (db.tx i).executed = (db.tx i).inserted)
    (hnext : db.rows ++ (db.tx i).inserted <+: files) {prog : MigrationProg}
    (hrun : RunAt files (db.commit i) i prog) : RunStep files i db (db.commit i) prog :=
  ⟨hdb.commit htx hnext, hrun, fun _ h => List.mem_append_left _ h,
    fun _ hj => Function.update_of_ne hj _ _⟩

end RunStep

/-- A step of a run, whatever its choice. -/
theorem RunAt.step {c : MigrationChoice} {db' : MigrationDb ι} {q : MigrationCall}
    {k : MigrationAnswer q → MigrationProg} {r : MigrationAnswer q} {prog : MigrationProg}
    (hnodup : files.Nodup) (hdb : Applied files db) (h : RunAt files db i prog)
    (hprog : prog = .call q k) (hserve : migrationServe i c db q = some (r, db')) :
    RunStep files i db db' (k r) := by
  have hempty : ((db.commit i).tx i).executed = [] ∧ ((db.commit i).tx i).inserted = [] := by
    simp [MigrationDb.commit, MigrationTx.empty]
  cases h with
  | connects htx =>
    cases hprog
    cases hfault : c.fault with
    | some fault =>
      simp only [migrationServe, hfault] at hserve
      cases hserve
      exact .stay hdb (.ended fun h => by cases fault <;> cases h)
    | none =>
      simp only [migrationServe, hfault] at hserve
      cases hserve
      exact .stay hdb (.creates htx)
  | creates htx =>
    cases hprog
    cases hfault : c.fault with
    | some fault =>
      simp only [migrationServe, hfault] at hserve
      cases hserve
      exact .stay hdb (.leaves_fault fault)
    | none =>
      simp only [migrationServe, hfault] at hserve
      cases hserve
      refine .setTx hdb (.commitsTable ?_ ?_) rfl
      · simp [MigrationDb.setTx, htx, MigrationTx.empty]
      · simp [MigrationDb.setTx, htx, MigrationTx.empty]
  | commitsTable hexecuted hinserted =>
    cases hprog
    have hcommit : ∀ {prog}, RunAt files (db.commit i) i prog →
        RunStep files i db (db.commit i) prog :=
      fun hrun => .commit hdb (by rw [hexecuted, hinserted])
        (by rw [hinserted, List.append_nil]; exact hdb.inOrder) hrun
    cases hfault : c.fault with
    | some fault =>
      simp only [migrationServe, hfault] at hserve
      cases hserve
      split
      · exact hcommit (.leaves_fault fault)
      · exact .stay hdb (.leaves_fault fault)
    | none =>
      simp only [migrationServe, hfault] at hserve
      cases hserve
      exact hcommit (.loops (List.nil_append _).symm nofun hempty.1 hempty.2)
  | @loops done rest hfiles hdone hexecuted hinserted =>
    cases rest with
    | nil =>
      cases hprog
      cases hserve
      rw [List.append_nil] at hfiles
      exact .rollback hdb (.ended fun _ f hf => hdone f (hfiles ▸ hf))
    | cons path rest =>
      cases hprog
      cases hfault : c.fault with
      | some fault =>
        simp only [migrationServe, hfault] at hserve
        cases hserve
        exact .stay hdb (.leaves_fault fault)
      | none =>
        simp only [migrationServe, hfault, hinserted, List.not_mem_nil, or_false] at hserve
        split at hserve
        · cases hserve
          by_cases hrow : path ∈ db.rows
          · rw [decide_eq_true hrow]
            have hfound : files = (done ++ [path]) ++ rest := by simp [hfiles]
            refine .stay hdb (.loops hfound ?_ hexecuted hinserted)
            intro f hf
            rcases List.mem_append.1 hf with hf | hf
            · exact hdone f hf
            · rw [List.mem_singleton.1 hf]
              exact hrow
          · rw [decide_eq_false hrow]
            exact .stay hdb (.reads hfiles hdone hexecuted hinserted)
        · cases hserve
          exact .stay hdb (.leaves_fault .raised)
  | reads hfiles hdone hexecuted hinserted =>
    cases hprog
    cases hfault : c.fault with
    | some fault =>
      simp only [migrationServe, hfault] at hserve
      cases hserve
      exact .stay hdb (.leaves_fault fault)
    | none =>
      simp only [migrationServe, hfault] at hserve
      cases hserve
      exact .stay hdb (.executes hfiles hdone hexecuted hinserted)
  | executes hfiles hdone hexecuted hinserted =>
    cases hprog
    cases hfault : c.fault with
    | some fault =>
      simp only [migrationServe, hfault] at hserve
      cases hserve
      exact .stay hdb (.of_failed fault)
    | none =>
      simp only [migrationServe, hfault] at hserve
      cases hserve
      refine .setTx hdb (.inserts hfiles hdone ?_ ?_) rfl
      · simp [MigrationDb.setTx, hexecuted]
      · simp [MigrationDb.setTx, hinserted]
  | @inserts done rest path hfiles hdone hexecuted hinserted =>
    cases hprog
    cases hfault : c.fault with
    | some fault =>
      simp only [migrationServe, hfault] at hserve
      cases hserve
      exact .stay hdb (.of_failed fault)
    | none =>
      simp only [migrationServe, hfault] at hserve
      split at hserve
      · split at hserve
        · split at hserve
          · cases hserve
            exact .stay hdb .rollsBack
          · cases hserve
        · rename_i hholder
          split at hserve
          · cases hserve
            exact .stay hdb .rollsBack
          · rename_i hrow
            cases hserve
            refine ⟨hdb.insert hholder hrow, .commits hfiles hdone ?_ ?_, fun _ h => h,
              fun _ hj => Function.update_of_ne hj _ _⟩
            · simp [MigrationDb.insert, MigrationDb.setTx, hexecuted]
            · simp [MigrationDb.insert, MigrationDb.setTx, hinserted]
      · cases hserve
        exact .stay hdb .rollsBack
  | @commits done rest path hfiles hdone hexecuted hinserted =>
    cases hprog
    have hpath : path ∉ db.rows :=
      hdb.unapplied path i ((hdb.held path i).2
        (by rw [hinserted]; exact List.mem_singleton_self path))
    have hcommit : ∀ {prog}, RunAt files (db.commit i) i prog →
        RunStep files i db (db.commit i) prog := by
      intro prog hrun
      refine .commit hdb (by rw [hexecuted, hinserted]) ?_ hrun
      rw [hinserted]
      have hinOrder := hdb.inOrder
      rw [hfiles] at hnodup hinOrder ⊢
      exact prefix_concat hnodup hinOrder hdone hpath
    cases hfault : c.fault with
    | some fault =>
      simp only [migrationServe, hfault] at hserve
      cases hserve
      split
      · exact hcommit (.of_failed fault)
      · exact .stay hdb (.of_failed fault)
    | none =>
      simp only [migrationServe, hfault] at hserve
      cases hserve
      have hfound : files = (done ++ [path]) ++ rest := by simp [hfiles]
      refine hcommit (.loops hfound ?_ hempty.1 hempty.2)
      intro f hf
      simp only [MigrationDb.commit, hinserted]
      rcases List.mem_append.1 hf with hf | hf
      · exact List.mem_append_left _ (hdone f hf)
      · exact List.mem_append_right _ hf
  | rollsBack =>
    cases hprog
    cases hserve
    exact .rollback hdb (.leaves nofun)
  | leaves hresult =>
    cases hprog
    cases hserve
    exact .rollback hdb (.ended hresult)
  | ended hresult => cases hprog

/-! ## Runs -/

variable {p p' : MigrationPool ι}

/-- What every step keeps of the database and of all runs. -/
def InOrder (files : List String) (p : MigrationPool ι) : Prop :=
  Applied files p.world ∧ ∀ i, RunAt files p.world i (p.procs i)

theorem InOrder.step (hnodup : files.Nodup) (h : InOrder files p) {c : MigrationChoice}
    (hn : p.next (migrationServer ι) i c = some p') : InOrder files p' := by
  obtain ⟨q, k, r, db', hq, hserve, -, rfl⟩ := Pool.next_cases hn
  have hstep := (h.2 i).step hnodup h.1 hq hserve
  refine ⟨hstep.applied, fun j => ?_⟩
  by_cases hj : j = i
  · subst hj
    simp only [Function.update_self]
    exact hstep.run
  · simp only [Function.update_of_ne hj]
    exact (h.2 j).mono (hstep.others j hj) hstep.rows

omit [DecidableEq ι] in
theorem inOrder_runs (env : ι → MigrationEnv) (files : Finset String) :
    InOrder (sortedFiles files) (migrationRuns env files) := by
  refine ⟨.empty, fun i => ?_⟩
  have hproc : (migrationRuns env files).procs i = applyMigrations (env i) files := rfl
  rw [hproc]
  unfold applyMigrations
  split
  · exact .ended nofun
  · split
    · exact .ended nofun
    · exact .connects rfl

theorem inOrder_steps {env : ι → MigrationEnv} {files : Finset String}
    (h : Pool.Steps (migrationServer ι) (fun _ _ _ => True) (migrationRuns env files) p) :
    InOrder (sortedFiles files) p :=
  h.inv (fun _ _ _ _ _ hn hJ => hJ.step (files.sort_nodup _) hn) (inOrder_runs env files)

/-- **Migrations are applied once and in order**, in every run of any number of `apply_migrations`,
each of which may fail or crash at any step: no file's SQL is committed twice, the names in
`schema_migrations` are those of the files whose SQL is committed, they are a front part of the
sorted files, and a run that has completed leaves all of them committed. -/
theorem migrations_once_in_order (env : ι → MigrationEnv) (files : Finset String)
    (p : MigrationPool ι)
    (h : Pool.Steps (migrationServer ι) (fun _ _ _ => True) (migrationRuns env files) p) :
    p.world.applied.Nodup ∧ p.world.rows = p.world.applied ∧ p.world.rows <+: sortedFiles files ∧
      ∀ i, p.procs i = .ret .complete → ∀ f ∈ files, f ∈ p.world.applied := by
  have hnodup : (sortedFiles files).Nodup := files.sort_nodup _
  obtain ⟨hdb, hruns⟩ := inOrder_steps h
  refine ⟨?_, hdb.applied.symm, hdb.inOrder, fun i hi f hf => ?_⟩
  · rw [hdb.applied]
    exact hnodup.sublist hdb.inOrder.sublist
  · rw [hdb.applied]
    exact (hruns i).complete hi f ((files.mem_sort _).2 hf)

/-! ## What a run returns -/

theorem MigrationFault.exit_code (fault : MigrationFault) : fault.exit.code = none := by
  cases fault <;> rfl

omit [DecidableEq ι] in
theorem migrate_returns (files : List String) :
    (migrate files).Returns fun result => result = .complete ∨ result.code = none := by
  have hfailed : ∀ fault, (failed fault).Returns fun result => result = .complete ∨
      result.code = none := by
    rintro (_ | _)
    · exact fun _ _ => .inr rfl
    · exact fun _ => .inr rfl
  induction files with
  | nil => exact fun _ => .inl rfl
  | cons path rest ih =>
    rintro (fault | _ | _)
    · exact fun _ => .inr (fault.exit_code)
    · rintro (fault | _)
      · exact fun _ => .inr (fault.exit_code)
      rintro (fault | _)
      · exact hfailed fault
      rintro (fault | _)
      · exact hfailed fault
      rintro (fault | _)
      · exact hfailed fault
      · exact ih
    · exact ih

/-- A run that goes to the database completes, or does not return. -/
theorem connect_returns (files : List String) :
    (connect files).Returns fun result => result = .complete ∨ result.code = none := by
  rintro (fault | _)
  · exact .inr (fault.exit_code)
  rintro (fault | _)
  · exact fun _ => .inr (fault.exit_code)
  rintro (fault | _)
  · exact fun _ => .inr (fault.exit_code)
  · exact migrate_returns files

/-- What a run returns: it has nothing to do where there is no directory, it is skipped where there
is one and no database is configured, and if it goes to the database and returns 0, it has
completed. -/
theorem migration_returned {env : ι → MigrationEnv} {files : Finset String} {result : MigrationExit}
    (h : Pool.Steps (migrationServer ι) (fun _ _ _ => True) (migrationRuns env files) p)
    (hret : p.procs i = .ret result) :
    (result = .nothingToDo ↔ (env i).migrationsDir = false) ∧
      (∀ strict, result = .skipped strict ↔
        (env i).migrationsDir = true ∧ (env i).configured = false ∧
        strict = (env i).strict) ∧
      ((env i).migrationsDir = true → (env i).configured = true → result.code = some 0 →
        ∀ f ∈ files, f ∈ p.world.applied) := by
  have hruns := inOrder_steps h
  have hprog : (migrationRuns env files).procs i = applyMigrations (env i) files := rfl
  -- what `main` may return from the beginning
  have hends : ∀ {ψ : MigrationExit → Prop}, (applyMigrations (env i) files).Returns ψ → ψ result :=
    fun {ψ} hψ => by
      have hend := h.returns (i := i) (ψ := ψ) (by rwa [hprog])
      rwa [hret] at hend
  cases hdir : (env i).migrationsDir with
  | false =>
    obtain rfl : result = .nothingToDo :=
      hends (ψ := (· = .nothingToDo)) (by simp [applyMigrations, hdir])
    simp
  | true =>
    cases hconfigured : (env i).configured with
    | false =>
      obtain rfl : result = .skipped (env i).strict :=
        hends (ψ := (· = .skipped (env i).strict)) (by simp [applyMigrations, hdir, hconfigured])
      simp [eq_comm]
    | true =>
      have hend : result = .complete ∨ result.code = none := by
        refine hends (ψ := fun result => result = .complete ∨ result.code = none) ?_
        simpa [applyMigrations, hdir, hconfigured] using connect_returns (sortedFiles files)
      rcases hend with rfl | hnone
      · refine ⟨by simp, by simp, fun _ _ _ f hf => ?_⟩
        rw [hruns.1.applied]
        exact (hruns.2 i).complete hret f ((files.mem_sort _).2 hf)
      · cases result with
        | nothingToDo | skipped | complete => cases hnone
        | raised | crashed => simp [MigrationExit.code]

end

/-! ## Two replicas -/

theorem sortedFiles_singleton (path : String) : sortedFiles {path} = [path] := by
  simp [sortedFiles]

/-- Two replicas that start together, with one file. -/
def twoReplicas : MigrationPool (Fin 2) := .init (fun _ => connect ["001_noop.sql"]) .empty

theorem migrationRuns_twoReplicas :
    migrationRuns (fun _ : Fin 2 => ⟨true, true, false⟩) {"001_noop.sql"} = twoReplicas := by
  simp [migrationRuns, twoReplicas, applyMigrations, sortedFiles_singleton]

/-- The steps of replica `i`, none of which fails by itself. -/
def migrationTurns (n : Nat) (i : Fin 2) : List (Fin 2 × MigrationChoice) :=
  List.replicate n (i, ⟨none, true⟩)

/-- Both replicas run the file; the first one commits it, and the second one's insert raises. -/
theorem migrations_once_in_order_sample : ∃ p : MigrationPool (Fin 2),
    Pool.Steps (migrationServer (Fin 2)) (fun _ _ _ => True)
      (migrationRuns (fun _ => ⟨true, true, false⟩) {"001_noop.sql"}) p ∧
    p.procs 0 = .ret .complete ∧ p.procs 1 = .ret .raised ∧
    p.world.applied.Nodup ∧ p.world.rows = p.world.applied := by
  obtain ⟨p, hrun, h₀, h₁⟩ : ∃ p : MigrationPool (Fin 2),
      twoReplicas.runIf (migrationServer (Fin 2)) (fun _ _ _ => True)
          (migrationTurns 7 0 ++ migrationTurns 6 1 ++ migrationTurns 2 0 ++ migrationTurns 3 1) =
            some p ∧
        p.procs 0 = .ret .complete ∧ p.procs 1 = .ret .raised :=
    ⟨_, rfl, rfl, rfl⟩
  have hsteps : Pool.Steps (migrationServer (Fin 2)) (fun _ _ _ => True)
      (migrationRuns (fun _ => ⟨true, true, false⟩) {"001_noop.sql"}) p :=
    migrationRuns_twoReplicas ▸ .of_runIf hrun
  obtain ⟨hnodup, hrows, -⟩ := migrations_once_in_order _ _ p hsteps
  exact ⟨p, hsteps, h₀, h₁, hnodup, hrows⟩

end PeHackathon.UrlShortener
