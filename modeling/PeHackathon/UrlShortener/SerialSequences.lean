import Mathlib.Data.Fintype.Basic
import PeHackathon.Lib.Pool

/-!
# Serial sequences

`sync_postgres_serial_sequences` of `app/database.py`, which every worker runs on the first request
it connects to the database for, among the inserts of all workers. Its statement reads `MAX(id)`
over the committed rows, and sets the sequence after that; a statement that raises is logged and
passed over. `nextval` hands out an id that no row shows before the insert is committed.
`serial_ids_fresh`: no `nextval` returns an id that is stored or handed out, as long as each
statement leaves the sequence ahead of them.
-/

namespace PeHackathon.UrlShortener

open Lib

/-! ## Tables and sequences -/

inductive SerialTable
  | users
  | urls
  | events
  | loadTestResults
  deriving DecidableEq, Repr

/-- The tables that are synchronised, in order. -/
def serialTables : List SerialTable := [.users, .urls, .events, .loadTestResults]

/-- A sequence: the value it was left at, and whether that one is handed out already. -/
structure SerialSequence where
  lastValue : Int
  isCalled : Bool
  deriving DecidableEq, Repr

namespace SerialSequence

/-- What `nextval` returns. -/
def next (s : SerialSequence) : Int := if s.isCalled then s.lastValue + 1 else s.lastValue

/-- `setval(seq, COALESCE(max, 1), max IS NOT NULL)`: a value that is out of bounds raises, and the
sequence is left as it is. -/
def setval (max : Option Int) (s : SerialSequence) : SerialSequence :=
  if max.getD 1 < 1 then s else ⟨max.getD 1, max.isSome⟩

end SerialSequence

/-- The ids of the committed rows, the sequences, and the ids each worker has handed to the inserts
of its open transaction. -/
structure SerialWorld (ι : Type) where
  stored : SerialTable → List Int
  sequence : SerialTable → SerialSequence
  pending : ι → List (SerialTable × Int)

namespace SerialWorld

variable {ι : Type} (w : SerialWorld ι)

/-- An id is stored, or handed to an insert that is not committed. -/
def InUse (t : SerialTable) (id : Int) : Prop := id ∈ w.stored t ∨ ∃ i, (t, id) ∈ w.pending i

/-- The sequence is ahead of every id in use. -/
def Ahead (t : SerialTable) : Prop := ∀ id, w.InUse t id → id < (w.sequence t).next

variable [DecidableEq ι]

def setSequence (t : SerialTable) (max : Option Int) : SerialWorld ι :=
  { w with sequence := Function.update w.sequence t ((w.sequence t).setval max) }

/-- The end of a statement of the synchronisation. What it raises is caught, so the worker does not
see it. -/
def synced (raises : Bool) (t : SerialTable) (max : Option Int) : SerialWorld ι :=
  if raises then w else w.setSequence t max

/-- `nextval`, for an insert of worker `i`. -/
def handOut (i : ι) (t : SerialTable) : SerialWorld ι :=
  { w with
    sequence := Function.update w.sequence t ⟨(w.sequence t).next, true⟩
    pending := Function.update w.pending i ((t, (w.sequence t).next) :: w.pending i) }

/-- The transaction of worker `i` is committed, or rolled back. -/
def finish (i : ι) (committed : Bool) : SerialWorld ι where
  stored t :=
    if committed then w.stored t ++ (w.pending i).filterMap fun x => if x.1 = t then
      some x.2 else none
    else w.stored t
  sequence := w.sequence
  pending := Function.update w.pending i []

end SerialWorld

/-! ## Steps -/

inductive SerialCall
  /-- The part of the statement that reads `MAX(id)`. -/
  | readMax (t : SerialTable)
  | setval (t : SerialTable) (max : Option Int)
  /-- An insert calls `nextval`. -/
  | insert (t : SerialTable)
  /-- The transaction ends. -/
  | finish
  deriving DecidableEq, Repr

abbrev SerialAnswer : SerialCall → Type
  | .readMax _ => Option Int
  | .insert _ => Bool
  | _ => Unit

/-- What is left open at a step: whether an insert does not raise, whether a transaction is
committed, and whether a statement of the synchronisation raises before it sets the sequence. -/
structure SerialChoice where
  inserted : Bool
  committed : Bool
  raises : Bool

variable {ι : Type} [DecidableEq ι]

def serialServe (i : ι) (c : SerialChoice) (w : SerialWorld ι) :
    (q : SerialCall) → SerialAnswer q × SerialWorld ι
  | .readMax t => ((w.stored t).max?, w)
  | .setval t max => ((), w.synced c.raises t max)
  | .insert t => (c.inserted, w.handOut i t)
  | .finish => ((), w.finish i c.committed)

/-- Workers that share the database. -/
def serialServer (ι : Type) [DecidableEq ι] :
    Server SerialAnswer ι SerialChoice (SerialWorld ι) where
  respond i c w q := some (serialServe i c w q)
  yields _ := true

/-! ## Workers -/

abbrev SerialProg (α : Type) := Prog SerialAnswer α

def SerialProg.step (q : SerialCall) : SerialProg (SerialAnswer q) := .perform q

open SerialProg

/-- `sync_postgres_serial_sequences`, for the tables of a list. -/
def syncSequences : List SerialTable → SerialProg Unit
  | [] => return ()
  | t :: ts => do
    let max ← step (.readMax t)
    step (.setval t max)
    syncSequences ts

/-- A transaction that inserts in the tables of a list; an insert that raises ends it. -/
def insertRows : List SerialTable → SerialProg Unit
  | [] => step .finish
  | t :: ts => do
    if ← step (.insert t) then insertRows ts
    else step .finish

/-- The transactions of a worker; the first one synchronises the sequences (`_db_connect`). -/
def serialWorker : (synced : Bool) → List (List SerialTable) → SerialProg Unit
  | _, [] => return ()
  | true, tables :: rest => do
    insertRows tables
    serialWorker true rest
  | false, tables :: rest => do
    syncSequences serialTables
    insertRows tables
    serialWorker true rest

abbrev SerialPool (ι : Type) := Pool SerialAnswer ι (SerialWorld ι) Unit

/-- Workers none of which has taken a step, on tables with any rows and sequences with any
values. -/
def serialWorkers (transactions : ι → List (List SerialTable)) (stored : SerialTable → List Int)
    (sequence : SerialTable → SerialSequence) : SerialPool ι :=
  .init (fun i => serialWorker false (transactions i)) ⟨stored, sequence, fun _ => []⟩

/-- What a run asks of a step: a statement of the synchronisation, also one that raises, leaves its
sequence ahead of the ids in use. -/
def SetsAhead (p : SerialPool ι) (i : ι) (c : SerialChoice) : Prop :=
  ∀ t max, (p.procs i).next? = some (.setval t max) → (p.world.synced c.raises t max).Ahead t

instance [Fintype ι] (w : SerialWorld ι) (t : SerialTable) : Decidable (w.Ahead t) :=
  decidable_of_iff ((∀ id ∈ w.stored t, id < (w.sequence t).next) ∧
      ∀ i, ∀ x ∈ w.pending i, x.1 = t → x.2 < (w.sequence t).next) <| by
    constructor
    · rintro ⟨hstored, hpending⟩ id (hid | ⟨i, hid⟩)
      · exact hstored id hid
      · exact hpending i _ hid rfl
    · intro h
      exact ⟨fun id hid => h id (.inl hid), fun i x hx hxt => h x.2 (.inr ⟨i, hxt ▸ hx⟩)⟩

instance [Fintype ι] (p : SerialPool ι) (i : ι) (c : SerialChoice) : Decidable (SetsAhead p i c) :=
  match h : (p.procs i).next? with
  | some (.setval t max) =>
    decidable_of_iff ((p.world.synced c.raises t max).Ahead t) <| by
      constructor
      · intro hahead u max' hcall
        rw [h] at hcall
        cases hcall
        exact hahead
      · exact fun hsets => hsets t max h
  | some (.readMax _) | some (.insert _) | some .finish | none =>
    .isTrue fun _ _ hcall => by
      rw [h] at hcall
      cases hcall

/-! ## What a step leaves ahead -/

namespace SerialWorld

variable {w : SerialWorld ι} {t u : SerialTable} {i : ι}

omit [DecidableEq ι] in
theorem Ahead.not_inUse (h : w.Ahead t) : ¬ w.InUse t (w.sequence t).next :=
  fun hid => Int.lt_irrefl _ (h _ hid)

omit [DecidableEq ι] in
theorem Ahead.synced (h : w.Ahead t) {raises : Bool} {max : Option Int}
    (hset : (w.synced raises u max).Ahead u) : (w.synced raises u max).Ahead t := by
  by_cases htu : t = u
  · exact htu ▸ hset
  cases raises with
  | true => exact h
  | false =>
    intro id hid
    have hsequence : (w.setSequence u max).sequence t = w.sequence t :=
      Function.update_of_ne htu _ _
    change id < ((w.setSequence u max).sequence t).next
    rw [hsequence]
    exact h id hid

theorem Ahead.handOut (h : w.Ahead t) : (w.handOut i u).Ahead t := by
  have hinUse : ∀ id, (w.handOut i u).InUse t id → w.InUse t id ∨ t = u ∧
      id = (w.sequence u).next := by
    rintro id (hstored | ⟨j, hj⟩)
    · exact .inl (.inl hstored)
    · by_cases hji : j = i
      · rw [hji] at hj
        simp only [SerialWorld.handOut, Function.update_self, List.mem_cons, Prod.mk.injEq] at hj
        rcases hj with hnew | hold
        · exact .inr hnew
        · exact .inl (.inr ⟨i, hold⟩)
      · simp only [SerialWorld.handOut, Function.update_of_ne hji] at hj
        exact .inl (.inr ⟨j, hj⟩)
  intro id hid
  by_cases htu : t = u
  · subst htu
    have hnext : ((w.handOut i t).sequence t).next = (w.sequence t).next + 1 := by
      simp [SerialWorld.handOut, SerialSequence.next]
    rw [hnext]
    rcases hinUse id hid with hid | ⟨-, hid⟩
    · have := h id hid
      omega
    · omega
  · have hsequence : (w.handOut i u).sequence t = w.sequence t := Function.update_of_ne htu _ _
    rw [hsequence]
    rcases hinUse id hid with hid | ⟨hid, -⟩
    · exact h id hid
    · exact absurd hid htu

theorem Ahead.finish (h : w.Ahead t) {committed : Bool} : (w.finish i committed).Ahead t := by
  intro id hid
  refine h id ?_
  rcases hid with hstored | ⟨j, hj⟩
  · simp only [SerialWorld.finish] at hstored
    split at hstored
    · rcases List.mem_append.1 hstored with hstored | hnew
      · exact .inl hstored
      · obtain ⟨x, hx, hxt⟩ := List.mem_filterMap.1 hnew
        split at hxt
        · rename_i htable
          cases hxt
          exact .inr ⟨i, by rw [← htable]; exact hx⟩
        · cases hxt
    · exact .inl hstored
  · by_cases hji : j = i
    · rw [hji] at hj
      simp [SerialWorld.finish] at hj
    · simp only [SerialWorld.finish, Function.update_of_ne hji] at hj
      exact .inr ⟨j, hj⟩

/-- A sequence that is not ahead hands out an id in use, after enough calls of `nextval`. -/
theorem behind_collides (h : ¬ w.Ahead t) (i : ι) :
    ∃ n, (((fun w => w.handOut i t)^[n]) w).InUse t
      ((((fun w => w.handOut i t)^[n]) w).sequence t).next := by
  unfold Ahead at h
  push Not at h
  obtain ⟨id, hid, hle⟩ := h
  have hrun : ∀ n : Nat, (((fun w => w.handOut i t)^[n]) w).InUse t id ∧
      ((((fun w => w.handOut i t)^[n]) w).sequence t).next = (w.sequence t).next + n := by
    intro n
    induction n with
    | zero => exact ⟨hid, by simp⟩
    | succ n ih =>
      rw [Function.iterate_succ_apply']
      obtain ⟨hid, hnext⟩ := ih
      generalize (fun w => w.handOut i t)^[n] w = v at hid hnext ⊢
      refine ⟨?_, ?_⟩
      · rcases hid with hstored | ⟨j, hj⟩
        · exact .inl hstored
        · refine .inr ⟨j, ?_⟩
          by_cases hji : j = i
          · rw [hji] at hj ⊢
            simp only [SerialWorld.handOut, Function.update_self]
            exact List.mem_cons_of_mem _ hj
          · simpa only [SerialWorld.handOut, Function.update_of_ne hji] using hj
      · have hstep : ((v.handOut i t).sequence t).next = (v.sequence t).next + 1 := by
          simp [SerialWorld.handOut, SerialSequence.next]
        rw [hstep, hnext]
        push_cast
        omega
  obtain ⟨hid', hnext⟩ := hrun (id - (w.sequence t).next).toNat
  refine ⟨(id - (w.sequence t).next).toNat, ?_⟩
  rw [hnext, show (w.sequence t).next + ((id - (w.sequence t).next).toNat : Int) = id by omega]
  exact hid'

end SerialWorld

/-! ## Synchronised before the first insert -/

/-- What is left of a worker sets the sequence of table `t` before any insert in it. -/
def SyncsFirst (t : SerialTable) : SerialProg Unit → Prop
  | .ret _ => True
  | .call (.setval u _) k => u = t ∨ ∀ r, SyncsFirst t (k r)
  | .call (.insert u) k => u ≠ t ∧ ∀ r, SyncsFirst t (k r)
  | .call (.readMax _) k => ∀ r, SyncsFirst t (k r)
  | .call .finish k => ∀ r, SyncsFirst t (k r)

theorem syncsFirst_sync {t : SerialTable} {tables : List SerialTable} (ht : t ∈ tables)
    (k : Unit → SerialProg Unit) : SyncsFirst t (syncSequences tables >>= k) := by
  induction tables with
  | nil => cases ht
  | cons u tables ih =>
    intro max
    by_cases hut : u = t
    · exact .inl hut
    · right
      intro r
      refine ih ?_
      rcases List.mem_cons.1 ht with ht | ht
      · exact absurd ht.symm hut
      · exact ht

theorem syncsFirst_worker (t : SerialTable) (transactions : List (List SerialTable)) :
    SyncsFirst t (serialWorker false transactions) := by
  cases transactions with
  | nil => trivial
  | cons tables rest => exact syncsFirst_sync (by cases t <;> simp [serialTables]) _

/-! ## Runs -/

/-- The sequence of a table is ahead, or no worker has set it or inserted in the table. -/
def Serial (t : SerialTable) (p : SerialPool ι) : Prop :=
  p.world.Ahead t ∨ ∀ i, SyncsFirst t (p.procs i)

theorem Serial.step {t : SerialTable} {p p' : SerialPool ι} {i : ι} {c : SerialChoice}
    (h : Serial t p) (hsets : SetsAhead p i c) (hn : p.next (serialServer ι) i c = some p') :
    Serial t p' := by
  obtain ⟨q, k, r, w, hq, hr, -, rfl⟩ := Pool.next_cases hn
  obtain ⟨rfl, rfl⟩ := Prod.mk.inj (Option.some.inj hr)
  have hsets : ∀ u max, q = .setval u max → (p.world.synced c.raises u max).Ahead u :=
    fun u max hqu => hsets u max (by rw [hq]; exact congrArg some hqu)
  rcases h with hahead | hfirst
  · left
    cases q with
    | readMax u => exact hahead
    | setval u max => exact hahead.synced (hsets u max rfl)
    | insert u => exact hahead.handOut
    | finish => exact hahead.finish
  · have hi := hfirst i
    rw [hq] at hi
    -- the first `setval` of the table leaves it ahead
    by_cases hset : ∃ max, q = .setval t max
    · obtain ⟨max, rfl⟩ := hset
      exact .inl (hsets t max rfl)
    · right
      intro j
      by_cases hj : j = i
      · rw [hj]
        simp only [Function.update_self]
        cases q with
        | readMax u => exact hi _
        | setval u max =>
          rcases hi with hu | hi
          · exact absurd ⟨max, by rw [hu]⟩ hset
          · exact hi _
        | insert u => exact hi.2 _
        | finish => exact hi _
      · simp only [Function.update_of_ne hj]
        exact hfirst j

/-- **No id twice**: on tables with any rows and sequences with any values, in every run each of
whose statements that synchronise leaves its sequence ahead of the ids that are stored or handed
out, the id that a `nextval` returns is neither stored nor handed to an insert that is not
committed. From a statement that leaves its sequence behind one of them, it takes no more than calls
of `nextval` to hand out an id in use. -/
theorem serial_ids_fresh (transactions : ι → List (List SerialTable))
    (stored : SerialTable → List Int) (sequence : SerialTable → SerialSequence) :
    (∀ p, Pool.Steps (serialServer ι) SetsAhead (serialWorkers transactions stored sequence) p →
      ∀ i t, (p.procs i).next? = some (.insert t) → ¬ p.world.InUse t (p.world.sequence t).next) ∧
    ∀ p i c p', p.next (serialServer ι) i c = some p' → ¬ SetsAhead p i c → ∃ t, ∀ j, ∃ n,
      (((fun w => w.handOut j t)^[n]) p'.world).InUse t
        ((((fun w => w.handOut j t)^[n]) p'.world).sequence t).next := by
  constructor
  · intro p h i t hinsert
    have hserial : Serial t p := by
      refine h.inv (J := Serial t) (fun _ _ _ _ hsets hn hJ => hJ.step hsets hn) (.inr fun j => ?_)
      exact syncsFirst_worker t (transactions j)
    rcases hserial with hahead | hfirst
    · exact hahead.not_inUse
    · have hi := hfirst i
      cases hproc : p.procs i with
      | ret a =>
        rw [hproc] at hinsert
        cases hinsert
      | call q k =>
        rw [hproc] at hinsert hi
        cases hinsert
        exact absurd rfl hi.1
  · intro p i c p' hn hsets
    unfold SetsAhead at hsets
    push Not at hsets
    obtain ⟨t, max, hcall, hbehind⟩ := hsets
    obtain ⟨q, k, r, w, hq, hr, -, rfl⟩ := Pool.next_cases hn
    rw [hq] at hcall
    cases hcall
    obtain ⟨rfl, rfl⟩ := Prod.mk.inj (Option.some.inj hr)
    exact ⟨t, SerialWorld.behind_collides hbehind⟩

/-! ## Two workers -/

/-- Two workers with one insert each, on empty tables with new sequences. -/
def twoSerialWorkers : SerialPool (Fin 2) :=
  serialWorkers (fun _ => [[.urls]]) (fun _ => []) fun _ => ⟨1, false⟩

/-- The steps of worker `i`, each of which succeeds. -/
def serialTurns (n : Nat) (i : Fin 2) : List (Fin 2 × SerialChoice) :=
  List.replicate n (i, ⟨true, true, false⟩)

/-- The second worker synchronises after the first one has committed its insert. -/
theorem serial_ids_fresh_sample : ∃ p : SerialPool (Fin 2),
    p.world.stored .urls = [1] ∧ (p.procs 1).next? = some (.insert .urls) ∧
      ¬ p.world.InUse .urls (p.world.sequence .urls).next := by
  obtain ⟨p, hrun, hstored, hinsert⟩ : ∃ p : SerialPool (Fin 2),
      twoSerialWorkers.runIf (serialServer (Fin 2)) SetsAhead
        (serialTurns 10 0 ++ serialTurns 8 1) = some p ∧
        p.world.stored .urls = [1] ∧ (p.procs 1).next? = some (.insert .urls) :=
    ⟨_, rfl, rfl, rfl⟩
  exact ⟨p, hstored, hinsert, (serial_ids_fresh _ _ _).1 p (.of_runIf hrun) 1 .urls hinsert⟩

/-- The second worker synchronises while the first one holds id 1, and is handed id 1 again. -/
theorem serial_id_twice : ∃ p : SerialPool (Fin 2),
    Pool.Steps (serialServer (Fin 2)) (fun _ _ _ => True) twoSerialWorkers p ∧
      (p.procs 1).next? = some (.insert .urls) ∧ (p.world.sequence .urls).next = 1 ∧
      (SerialTable.urls, 1) ∈ p.world.pending 0 := by
  obtain ⟨p, hrun, hinsert, hnext, hpending⟩ : ∃ p : SerialPool (Fin 2),
      twoSerialWorkers.runIf (serialServer (Fin 2)) (fun _ _ _ => True)
        (serialTurns 9 0 ++ serialTurns 8 1) = some p ∧
        (p.procs 1).next? = some (.insert .urls) ∧ (p.world.sequence .urls).next = 1 ∧
        p.world.pending 0 = [(SerialTable.urls, 1)] :=
    ⟨_, rfl, rfl, rfl, rfl⟩
  exact ⟨p, .of_runIf hrun, hinsert, hnext, by simp [hpending]⟩

end PeHackathon.UrlShortener
