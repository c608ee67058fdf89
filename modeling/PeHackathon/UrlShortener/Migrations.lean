import Mathlib.Data.Finset.Sort
import Mathlib.Data.String.Basic
import PeHackathon.Lib.Pool

/-!
# Applying the migrations

`scripts/apply_migrations.py`: each statement is a step, and so are the commit, the rollback and the
end of the connection, which drops an open transaction. A step may raise, and the run may crash at
any of them; a commit that does not come back may have taken effect. An insert waits while another
transaction holds the same file name.
-/

namespace PeHackathon.UrlShortener

open Lib

/-! ## The database -/

/-- An open transaction: whether it made the table, the files whose SQL it ran, and the names it
inserted. -/
structure MigrationTx where
  created : Bool
  executed : List String
  inserted : List String
  deriving DecidableEq

def MigrationTx.empty : MigrationTx := ⟨false, [], []⟩

/-- What is committed: the table, its file names, and the files whose SQL is in effect; and the open
transaction of each run, with the one that holds a name in the unique index. -/
structure MigrationDb (ι : Type) where
  tableExists : Bool
  rows : List String
  applied : List String
  tx : ι → MigrationTx
  holder : String → Option ι

namespace MigrationDb

variable {ι : Type} [DecidableEq ι] (db : MigrationDb ι) (i : ι)

def empty : MigrationDb ι where
  tableExists := false
  rows := []
  applied := []
  tx _ := .empty
  holder _ := none

def setTx (tx : MigrationTx) : MigrationDb ι := { db with tx := Function.update db.tx i tx }

/-- The transaction of run `i` is over, and nothing is left of it. -/
def rollback : MigrationDb ι where
  tableExists := db.tableExists
  rows := db.rows
  applied := db.applied
  tx := Function.update db.tx i .empty
  holder name := if db.holder name = some i then none else db.holder name

/-- The transaction of run `i` takes effect. -/
def commit : MigrationDb ι where
  tableExists := db.tableExists || (db.tx i).created
  rows := db.rows ++ (db.tx i).inserted
  applied := db.applied ++ (db.tx i).executed
  tx := Function.update db.tx i .empty
  holder name := if db.holder name = some i then none else db.holder name

def execute (path : String) : MigrationDb ι :=
  db.setTx i { db.tx i with executed := (db.tx i).executed ++ [path] }

def insert (path : String) : MigrationDb ι :=
  { db.setTx i { db.tx i with inserted := (db.tx i).inserted ++ [path] } with
    holder := Function.update db.holder path (some i) }

/-- Run `i` sees the table. -/
def hasTable : Bool := db.tableExists || (db.tx i).created

end MigrationDb

/-! ## Steps -/

inductive MigrationCall
  | connect
  /-- `CREATE TABLE IF NOT EXISTS schema_migrations`. -/
  | createTable
  | commit
  | select (path : String)
  | readText (path : String)
  | execute (path : String)
  | insert (path : String)
  | rollback
  /-- The connection is closed, or its process is over. -/
  | disconnect
  deriving DecidableEq, Repr

inductive MigrationFault
  | raised
  | crashed
  deriving DecidableEq, Repr

abbrev MigrationAnswer : MigrationCall → Type
  | .select _ => Except MigrationFault Bool
  | .rollback | .disconnect => Unit
  | _ => Except MigrationFault Unit

/-- What is left open at a step: whether it fails, and whether a commit that fails has taken
effect. -/
structure MigrationChoice where
  fault : Option MigrationFault
  takesEffect : Bool

variable {ι : Type} [DecidableEq ι]

/-- What a step answers and does; nothing where it has to wait. -/
def migrationServe (i : ι) (c : MigrationChoice) (db : MigrationDb ι) :
    (q : MigrationCall) → Option (MigrationAnswer q × MigrationDb ι)
  | .connect | .readText _ =>
    match c.fault with
    | some fault => some (.error fault, db)
    | none => some (.ok (), db)
  | .createTable =>
    match c.fault with
    | some fault => some (.error fault, db)
    | none => some (.ok (), db.setTx i { db.tx i with created := true })
  | .commit =>
    match c.fault with
    | some fault => some (.error fault, if c.takesEffect then db.commit i else db)
    | none => some (.ok (), db.commit i)
  | .select path =>
    match c.fault with
    | some fault => some (.error fault, db)
    | none =>
      if db.hasTable i then some (.ok (decide (path ∈ db.rows ∨ path ∈ (db.tx i).inserted)), db)
      else some (.error .raised, db)
  | .execute path =>
    match c.fault with
    | some fault => some (.error fault, db)
    | none => some (.ok (), db.execute i path)
  | .insert path =>
    match c.fault with
    | some fault => some (.error fault, db)
    | none =>
      if db.hasTable i then
        match db.holder path with
        | some j => if j = i then some (.error .raised, db) else none
        | none =>
          if path ∈ db.rows then some (.error .raised, db) else some (.ok (), db.insert i path)
      else some (.error .raised, db)
  | .rollback | .disconnect => some ((), db.rollback i)

/-- Runs that share the database. -/
def migrationServer (ι : Type) [DecidableEq ι] :
    Server MigrationAnswer ι MigrationChoice (MigrationDb ι) where
  respond i c db q := migrationServe i c db q
  yields _ := true

/-! ## A run -/

/-- What a run finds around it: the directory, a configured database, and `STRICT_MIGRATIONS`. -/
structure MigrationEnv where
  migrationsDir : Bool
  configured : Bool
  strict : Bool

inductive MigrationExit
  /-- "No migrations directory; nothing to do." -/
  | nothingToDo
  /-- The database is not configured. -/
  | skipped (strict : Bool)
  /-- "Migrations complete." -/
  | complete
  | raised
  | crashed
  deriving DecidableEq, Repr

/-- What `main` returns. -/
def MigrationExit.code : MigrationExit → Option Int
  | nothingToDo | complete => some 0
  | skipped strict => some (if strict then 1 else 0)
  | raised | crashed => none

def MigrationFault.exit : MigrationFault → MigrationExit
  | raised => .raised
  | crashed => .crashed

abbrev MigrationProg := Prog MigrationAnswer MigrationExit

def MigrationProg.step (q : MigrationCall) : Prog MigrationAnswer (MigrationAnswer q) := .perform q

open MigrationProg

/-- The end of the process, with its connection. -/
def leave (result : MigrationExit) : MigrationProg := do
  step .disconnect
  return result

/-- `conn.rollback(); raise`. -/
def rollBack : MigrationProg := do
  step .rollback
  leave .raised

/-- A fault in the `try` block. -/
def failed : MigrationFault → MigrationProg
  | .raised => rollBack
  | .crashed => leave .crashed

def commitFile (next : MigrationProg) : MigrationProg := do
  match ← step .commit with
  | .error fault => failed fault
  | .ok _ => next

def insertFile (path : String) (next : MigrationProg) : MigrationProg := do
  match ← step (.insert path) with
  | .error fault => failed fault
  | .ok _ => commitFile next

def executeFile (path : String) (next : MigrationProg) : MigrationProg := do
  match ← step (.execute path) with
  | .error fault => failed fault
  | .ok _ => insertFile path next

def readFile (path : String) (next : MigrationProg) : MigrationProg := do
  match ← step (.readText path) with
  | .error fault => leave fault.exit
  | .ok _ => executeFile path next

/-- The loop over the files. -/
def migrate : List String → MigrationProg
  | [] => leave .complete
  | path :: rest => do
    match ← step (.select path) with
    | .error fault => leave fault.exit
    | .ok true => migrate rest
    | .ok false => readFile path (migrate rest)

def commitTable (files : List String) : MigrationProg := do
  match ← step .commit with
  | .error fault => leave fault.exit
  | .ok _ => migrate files

def createTable (files : List String) : MigrationProg := do
  match ← step .createTable with
  | .error fault => leave fault.exit
  | .ok _ => commitTable files

def connect (files : List String) : MigrationProg := do
  match ← step .connect with
  | .error fault => return fault.exit
  | .ok _ => createTable files

/-- `sorted(migrations_dir.glob("*.sql"))`. -/
def sortedFiles (files : Finset String) : List String := files.sort (· ≤ ·)

/-- `main`. -/
def applyMigrations (env : MigrationEnv) (files : Finset String) : MigrationProg :=
  if !env.migrationsDir then return .nothingToDo
  else if !env.configured then return .skipped env.strict
  else connect (sortedFiles files)

abbrev MigrationPool (ι : Type) := Pool MigrationAnswer ι (MigrationDb ι) MigrationExit

/-- Runs none of which has taken a step, on an empty database. -/
def migrationRuns (env : ι → MigrationEnv) (files : Finset String) : MigrationPool ι :=
  .init (fun i => applyMigrations (env i) files) .empty

end PeHackathon.UrlShortener
