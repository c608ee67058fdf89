import PeHackathon.Dashboard.Database
import PeHackathon.Lib.Pool

/-!
# The cache of the logs

`cache.py`: a ring of recent entries, and a list of entries that wait for the next flush to the
database. Every access to the two lists is one step, since it holds the lock; a flush takes the
waiting entries out, sends them without the lock, and puts them back in front if they were not
stored.

The rolling statistics are left out. `_update_stats` may raise, at the end of `add`, when the entry
is in both lists.
-/

namespace PeHackathon.Dashboard

open Lib

structure LogCache where
  maxEntries : Nat
  /-- The ring `_logs`, oldest first. -/
  logs : List LogEntry
  totalIngested : Nat
  pendingFlush : List LogEntry
  /-- The `Timer` that `_flush_timer` refers to. -/
  flushTimer : Option Nat
  flushRunning : Bool

/-- `deque(maxlen=n)` after an `append`. -/
def dequeAppend {α : Type} (n : Nat) (l : List α) (a : α) : List α :=
  (l ++ [a]).drop (l.length + 1 - n)

namespace LogCache

def empty (maxEntries : Nat) : LogCache where
  maxEntries := maxEntries
  logs := []
  totalIngested := 0
  pendingFlush := []
  flushTimer := none
  flushRunning := false

def add (cache : LogCache) (entry : LogEntry) : LogCache :=
  { cache with
    logs := dequeAppend cache.maxEntries cache.logs entry
    pendingFlush := cache.pendingFlush ++ [entry]
    totalIngested := cache.totalIngested + 1 }

/-- The first locked section of `flush_to_db`: the entries to flush, and the cache without them. -/
def takePending (cache : LogCache) : List LogEntry × LogCache :=
  (cache.pendingFlush, { cache with pendingFlush := [] })

/-- The second one: put them back so we retry next cycle. -/
def putBack (cache : LogCache) (toFlush : List LogEntry) : LogCache :=
  { cache with pendingFlush := toFlush ++ cache.pendingFlush }

def clear (cache : LogCache) : LogCache :=
  { cache with logs := [], pendingFlush := [], totalIngested := 0 }

end LogCache

/-! ## Steps -/

inductive LogCall
  /-- `LogCache.add`, of a new `dict`. -/
  | add (fields : JsonObject)
  | takePending
  | flushLogs (logs : List LogEntry)
  | putBack (logs : List LogEntry)
  | clearCache
  | clearLogs
  | setRunning (b : Bool)
  | isRunning
  /-- A new `Timer` becomes `_flush_timer` and starts. -/
  | startTimer
  /-- `_flush_timer.cancel()`. -/
  | cancelTimer
  /-- A `Timer` that was started is over: whether it goes on to its function. -/
  | fire (timer : Nat)

abbrev LogAnswer : LogCall → Type
  | .takePending => List LogEntry
  | .flushLogs _ | .clearLogs => Nat
  | .isRunning | .fire _ => Bool
  | _ => Unit

/-- What is left open at a step: the time, and whether the database can be reached. -/
structure LogChoice where
  now : Int
  reachable : Bool

/-- The cache, `kafka_logs`, and of each `Timer` whether it was cancelled. `added` is the history of
the entries, which no step reads but to number the next one. -/
structure LogWorld where
  cache : LogCache
  kafkaLogs : List StoredLog
  cancelled : List Bool
  added : List LogEntry

/-- Before the first entry. -/
def LogWorld.start (maxEntries : Nat) : LogWorld where
  cache := .empty maxEntries
  kafkaLogs := []
  cancelled := []
  added := []

namespace LogWorld

/-- A new entry arrives. -/
def add (w : LogWorld) (fields : JsonObject) : LogWorld :=
  let entry : LogEntry := { ref := w.added.length, fields }
  { w with cache := w.cache.add entry, added := w.added ++ [entry] }

def startTimer (w : LogWorld) : LogWorld :=
  { w with
    cache := { w.cache with flushTimer := some w.cancelled.length }
    cancelled := w.cancelled ++ [false] }

def cancelTimer (w : LogWorld) : LogWorld :=
  match w.cache.flushTimer with
  | none => w
  | some timer => { w with cancelled := w.cancelled.set timer true }

@[simp] theorem cancelTimer_cache (w : LogWorld) : w.cancelTimer.cache = w.cache := by
  unfold cancelTimer
  split <;> rfl

@[simp] theorem cancelTimer_kafkaLogs (w : LogWorld) : w.cancelTimer.kafkaLogs = w.kafkaLogs := by
  unfold cancelTimer
  split <;> rfl

@[simp] theorem cancelTimer_added (w : LogWorld) : w.cancelTimer.added = w.added := by
  unfold cancelTimer
  split <;> rfl

/-- The entries `kafka_logs` was written from. -/
def stored (w : LogWorld) : List LogEntry := w.kafkaLogs.map (·.entry)

end LogWorld

section

variable (pg : Postgres)

/-- What a step answers and does. Only a `Timer` that was started can be over. -/
def logServe (c : LogChoice) (w : LogWorld) : (q : LogCall) → Option (LogAnswer q × LogWorld)
  | .add fields => some ((), w.add fields)
  | .takePending => some (w.cache.takePending.1, { w with cache := w.cache.takePending.2 })
  | .flushLogs logs =>
    some ((flushLogs pg c.reachable c.now logs w.kafkaLogs).1,
      { w with kafkaLogs := (flushLogs pg c.reachable c.now logs w.kafkaLogs).2 })
  | .putBack logs => some ((), { w with cache := w.cache.putBack logs })
  | .clearCache => some ((), { w with cache := w.cache.clear })
  | .clearLogs =>
    some ((clearLogs c.reachable w.kafkaLogs).1,
      { w with kafkaLogs := (clearLogs c.reachable w.kafkaLogs).2 })
  | .setRunning b => some ((), { w with cache := { w.cache with flushRunning := b } })
  | .isRunning => some (w.cache.flushRunning, w)
  | .startTimer => some ((), w.startTimer)
  | .cancelTimer => some ((), w.cancelTimer)
  | .fire timer => w.cancelled[timer]?.map fun cancelled => (!cancelled, w)

/-- Threads that share the cache and the database. -/
def logServer (ι : Type) : Server LogAnswer ι LogChoice LogWorld where
  respond _ := logServe pg
  yields _ := true

end

/-! ## Threads -/

abbrev LogProg (α : Type) := Prog LogAnswer α

def LogProg.step (q : LogCall) : LogProg (LogAnswer q) := .perform q

open LogProg

/-- The entries of one `POST /api/ingest`, or what the Kafka consumer reads. -/
def ingestLogs : List JsonObject → LogProg Unit
  | [] => return ()
  | fields :: rest => do
    step (.add fields)
    ingestLogs rest

/-- What `flush_to_db` does with the entries it took out. -/
def sendBatch (toFlush : List LogEntry) : LogProg Unit :=
  if toFlush ≠ [] then do
    let flushed ← step (.flushLogs toFlush)
    if flushed = 0 then step (.putBack toFlush) else return ()
  else return ()

/-- `LogCache.flush_to_db`, and `POST /api/flush`. -/
def flushToDb : LogProg Unit := do
  let toFlush ← step .takePending
  sendBatch toFlush

theorem flushToDb_bind {α : Type} (f : Unit → LogProg α) :
    (flushToDb >>= f) = .call .takePending fun logs => sendBatch logs >>= f := rfl

theorem sendBatch_nil_bind {α : Type} (f : Unit → LogProg α) : (sendBatch [] >>= f) = f () := rfl

theorem sendBatch_bind {α : Type} {logs : List LogEntry} (h : logs ≠ []) (f : Unit → LogProg α) :
    (sendBatch logs >>= f) = .call (.flushLogs logs) fun flushed =>
      if (flushed : Nat) = 0 then .call (.putBack logs) f else f () := by
  rw [sendBatch, if_pos h]
  refine congrArg (Prog.call (LogCall.flushLogs logs)) (funext fun flushed => ?_)
  change ((if (flushed : Nat) = 0 then step (.putBack logs) else return ()) >>= f) = _
  split <;> rfl

/-- Schedule the next tick. -/
def scheduleTick : LogProg Unit := do
  if ← step .isRunning then step .startTimer

/-- `_tick`. -/
def flushTick : LogProg Unit := do
  if ← step .isRunning then
    flushToDb
    scheduleTick

/-- The thread of a `Timer`. -/
def timerThread (timer : Nat) : LogProg Unit := do
  if ← step (.fire timer) then flushTick

def startFlushLoop : LogProg Unit := do
  step (.setRunning true)
  step .startTimer

/-- Stop the flush timer and do one final flush. -/
def stopFlushLoop : LogProg Unit := do
  step (.setRunning false)
  step .cancelTimer
  flushToDb

/-- `clear_errors`: `cache.clear()`, then `clear_logs()`. -/
def clearErrors : LogProg Unit := do
  step .clearCache
  let _deleted ← step .clearLogs

/-- Who may run. -/
inductive LogThread
  | ingest (entries : List JsonObject)
  | flush
  | timer (id : Nat)
  | startLoop
  | stopLoop
  | clear

def LogThread.prog : LogThread → LogProg Unit
  | .ingest entries => ingestLogs entries
  | .flush => flushToDb
  | .timer id => timerThread id
  | .startLoop => startFlushLoop
  | .stopLoop => stopFlushLoop
  | .clear => clearErrors

/-- Threads none of which has taken a step. -/
def logThreads {ι : Type} (thread : ι → LogThread) (maxEntries : Nat) :
    Pool LogAnswer ι LogWorld Unit :=
  .init (fun i => (thread i).prog) (.start maxEntries)

/-- `n` steps of thread `i` while the database can be reached. -/
def steps {ι : Type} (n : Nat) (i : ι) : List (ι × LogChoice) :=
  List.replicate n (i, { now := 0, reachable := true })

/-- A step of thread `i` while it cannot. -/
def failing {ι : Type} (i : ι) : List (ι × LogChoice) := [(i, { now := 0, reachable := false })]

end PeHackathon.Dashboard
