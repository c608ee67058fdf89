import PeHackathon.Dashboard.TableBuckets
import PeHackathon.Dashboard.Statistics

/-!
# Reading what was ingested

`ingest_logs` of `main.py`, from the JSON body on, and the two reads of the cache that bucket by
minute. An `add` that raises ends its request, and its entry stays in the ring for the reads to
meet. A read converts each status code again, and what it does not catch is of another kind than
what `add` met: an entry with a time that no clock shows is added without any complaint.
-/

namespace PeHackathon.Dashboard

open Lib

/-! ## The endpoint -/

inductive IngestAnswer
  | ingested (n : Nat)
  | badRequest (detail : String)
  | serverError (e : PyError)

/-- The entries of a body. -/
def bodyEntries : Json → Except String (List Json)
  | .arr entries => .ok entries
  | .obj fields =>
    match JsonObject.get? fields "entries" with
    | none => .ok [.obj fields]
    | some (.arr entries) => .ok entries
    | some _ => .error "entries must be a list"
  | _ => .error "Expected JSON object or array"

namespace StatsCache

/-- The loop over the entries, where `n` are ingested: what is no `dict` is passed over. -/
def addEntries (now : Int) : List Json → Nat → StatsCache → StatsCache × IngestAnswer
  | [], n, cache => (cache, .ingested n)
  | .obj fields :: rest, n, cache =>
    match cache.add now (.obj fields) with
    | (cache, none) => addEntries now rest (n + 1) cache
    | (cache, some e) => (cache, .serverError e)
  | _ :: rest, n, cache => addEntries now rest n cache

def ingestLogs (now : Int) (body : Json) (cache : StatsCache) : StatsCache × IngestAnswer :=
  match bodyEntries body with
  | .error detail => (cache, .badRequest detail)
  | .ok entries => cache.addEntries now entries 0

/-- One request after the other, each at its time. -/
def ingestAll (requests : List (Int × Json)) (cache : StatsCache) : StatsCache :=
  requests.foldl (fun cache request => (cache.ingestLogs request.1 request.2).1) cache

/-- The `dict`s of a list. -/
def objects (l : List Json) : List JsonObject :=
  l.filterMap fun
    | .obj fields => some fields
    | _ => none

/-- The entries of the two lists, numbered. -/
def toLog (cache : StatsCache) : LogCache :=
  { LogCache.empty cache.maxEntries with
    logs := (objects cache.logs).mapIdx fun ref fields => { ref, fields }
    totalIngested := cache.totalIngested
    pendingFlush := (objects cache.pendingFlush).mapIdx fun ref fields => { ref, fields } }

end StatsCache

/-! ## What stays in the ring -/

instance (fields : JsonObject) : Decidable (Readable fields) :=
  match h : reading fields with
  | .ok r => .isTrue ⟨r, h⟩
  | .error _ => .isFalse fun ⟨_, hr⟩ => nomatch h.symm.trans hr

/-- The entries of a body that reach the ring: the `dict`s up to the first that cannot be read, and
that one too. -/
def acceptedEntries : List Json → List JsonObject
  | [] => []
  | .obj fields :: rest => fields :: if Readable fields then acceptedEntries rest else []
  | _ :: rest => acceptedEntries rest

/-- Those of one request after the other. -/
def ingestedEntries (requests : List (Int × Json)) : List JsonObject :=
  requests.flatMap fun request => acceptedEntries ((bodyEntries request.2).toOption.getD [])

/-- The last `n` of a list. -/
def lastEntries {α : Type} (n : Nat) (l : List α) : List α := l.drop (l.length - n)

theorem dequeAppend_last {α : Type} (n : Nat) (l : List α) (a : α) :
    dequeAppend n (lastEntries n l) a = lastEntries n (l ++ [a]) := by
  have hsplit : lastEntries n l ++ [a] = (l ++ [a]).drop (l.length - n) :=
    (List.drop_append_of_le_length (Nat.sub_le l.length n)).symm
  unfold dequeAppend
  rw [hsplit, List.drop_drop]
  simp only [lastEntries, List.length_drop, List.length_append, List.length_singleton]
  congr 1
  omega

namespace StatsCache

variable {cache : StatsCache} {l : List JsonObject}

/-- The ring holds the last of the entries `l`. -/
def Rings (cache : StatsCache) (n : Nat) (l : List JsonObject) : Prop :=
  cache.maxEntries = n ∧ cache.logs = (lastEntries n l).map .obj

theorem Rings.add {n : Nat} (h : cache.Rings n l) (now : Int) (fields : JsonObject) :
    (cache.add now (.obj fields)).1.Rings n (l ++ [fields]) := by
  obtain ⟨rfl, hlogs⟩ := h
  refine ⟨rfl, ?_⟩
  rw [add_obj, ← dequeAppend_last]
  simp [ingest, hlogs, dequeAppend, List.map_drop]

theorem Rings.addEntries {n : Nat} (h : cache.Rings n l) (now : Int) (entries : List Json)
    (k : Nat) :
    (cache.addEntries now entries k).1.Rings n (l ++ acceptedEntries entries) := by
  induction entries generalizing cache l k with
  | nil => simpa [StatsCache.addEntries, acceptedEntries] using h
  | cons entry rest ih =>
    cases entry with
    | obj fields =>
      have hadd := h.add now fields
      unfold acceptedEntries StatsCache.addEntries
      by_cases hread : Readable fields
      · rw [if_pos hread]
        obtain ⟨r, hr⟩ := hread
        rw [add_of_reading hr] at hadd ⊢
        have hrest := ih hadd (k + 1)
        rwa [List.append_assoc] at hrest
      · rw [if_neg hread]
        cases hraised : cache.add now (.obj fields) with
        | mk after raised =>
          rw [hraised] at hadd
          cases raised with
          | none => exact absurd (add_returns.1 (congrArg Prod.snd hraised)) hread
          | some e => exact hadd
    | _ => exact ih h k

theorem Rings.ingestAll {n : Nat} (h : cache.Rings n l) (requests : List (Int × Json)) :
    (cache.ingestAll requests).Rings n (l ++ ingestedEntries requests) := by
  induction requests generalizing cache l with
  | nil => simpa [ingestedEntries, StatsCache.ingestAll] using h
  | cons request requests ih =>
    have hfirst : (cache.ingestLogs request.1 request.2).1.Rings n
        (l ++ acceptedEntries ((bodyEntries request.2).toOption.getD [])) := by
      unfold ingestLogs
      cases hbody : bodyEntries request.2 with
      | error detail => simpa [Except.toOption, acceptedEntries] using h
      | ok entries => exact h.addEntries request.1 entries 0
    have hrest := ih hfirst
    rwa [List.append_assoc] at hrest

/-- **The ring after a run** holds the last of the entries that reached it. -/
theorem ingestAll_ring (maxEntries : Nat) (requests : List (Int × Json)) :
    ((new maxEntries).ingestAll requests).toLog.logs.map (·.fields) =
      lastEntries maxEntries (ingestedEntries requests) := by
  have hring : (new maxEntries).Rings maxEntries [] := ⟨rfl, by simp [new, lastEntries]⟩
  have hlogs := (hring.ingestAll requests).2
  have hobjects : objects ((new maxEntries).ingestAll requests).logs =
      lastEntries maxEntries (ingestedEntries requests) := by
    rw [hlogs, List.nil_append, objects, List.filterMap_map]
    exact List.filterMap_some
  unfold toLog
  rw [hobjects]
  apply List.ext_getElem <;> simp

end StatsCache

/-! ## When the filter returns -/

section Filter

variable {py : PyCase} {f : LogFilters} {fields : JsonObject}

/-- The status code is an infinite number. -/
def InfiniteStatus (fields : JsonObject) : Prop :=
  ∃ x, fields.getNone "status_code" = .float x ∧ pyIntOfFloat x = .error .overflowError

/-- What `int` raises is caught by `_status_int`, unless the number is infinite. -/
theorem statusInt_returns : (∃ c, statusInt fields = .ok c) ↔ ¬ InfiniteStatus fields := by
  unfold statusInt InfiniteStatus
  cases hstatus : fields.getNone "status_code" with
  | null => simp
  | bool b => simp [pyInt]
  | int i => simp [pyInt]
  | arr l => simp [pyInt]
  | obj fields => simp [pyInt]
  | str s =>
    have hstr : pyIntOfStr s = .error .valueError ∨ ∃ i, pyIntOfStr s = .ok i := by
      unfold pyIntOfStr
      dsimp only
      split
      · exact .inl rfl
      · split
        · exact .inl rfl
        · exact .inr ⟨_, rfl⟩
    rcases hstr with h | ⟨i, h⟩ <;> simp [pyInt, h]
  | float x =>
    have hfloat : pyIntOfFloat x = .error .valueError ∨ pyIntOfFloat x = .error .overflowError ∨
        ∃ i, pyIntOfFloat x = .ok i := by
      unfold pyIntOfFloat
      dsimp only
      split
      · split
        · exact .inr (.inl rfl)
        · exact .inl rfl
      · exact .inr (.inr ⟨_, rfl⟩)
    rcases hfloat with h | h | ⟨i, h⟩ <;> simp [pyInt, h]

/-- The filter reads an entry: if the status filter is reached, its text is read, and then the
status code is not infinite. -/
def FilterReads (py : PyCase) (f : LogFilters) (fields : JsonObject) : Prop :=
  levelMatches py fields f = true → instanceMatches fields f = true →
    searchMatches py fields f = true →
    ∃ test, parseStatus f.statusCode = .ok test ∧ (test.isSome → ¬ InfiniteStatus fields)

theorem entryMatchesFilters_returns :
    (∃ b, entryMatchesFilters py fields f = .ok b) ↔ FilterReads py f fields := by
  unfold entryMatchesFilters FilterReads
  cases levelMatches py fields f with
  | false => simp
  | true =>
    cases instanceMatches fields f with
    | false => simp
    | true =>
      cases searchMatches py fields f with
      | false => simp
      | true =>
        simp only [Bool.not_true, Bool.false_eq_true, if_false, forall_const, statusPredicate]
        cases parseStatus f.statusCode with
        | error e => exact ⟨fun ⟨_, h⟩ => (nomatch h), fun ⟨_, h, _⟩ => (nomatch h)⟩
        | ok test =>
          simp only [Except.ok.injEq, exists_eq_left', ← statusInt_returns]
          cases test with
          | none => exact ⟨fun _ h => (nomatch h), fun _ => ⟨true, rfl⟩⟩
          | some test =>
            constructor
            · rintro ⟨b, h⟩ -
              obtain ⟨pred, hpred, h⟩ := bind_ok.1 h
              cases hpred
              obtain ⟨c, hc, -⟩ := bind_ok.1 h
              exact ⟨c, hc⟩
            · intro h
              obtain ⟨c, hc⟩ := h rfl
              exact ⟨c.any test.holds, bind_ok.2 ⟨_, rfl, bind_ok.2 ⟨c, hc, rfl⟩⟩⟩

end Filter

/-! ## When the reads return -/

section Reads

variable (fromIso : String → Option Int) (now : Int) (windowMinutes : Nat)

/-- A read counts an entry: one that is not older than the window has a time that a clock shows, and
if that is a label of the window, a status code that is a number. -/
def CountReads (fields : JsonObject) : Prop :=
  ∀ ts, requestTime fromIso fields = some ts → now - windowMinutes * minuteUs ≤ ts →
    InYears ts ∧ ((∃ m, minuteOf (now - windowMinutes * minuteUs) ≤ m ∧ m ≤ minuteOf now ∧
      clockOf (minuteOf ts) = clockOf m) → ∃ code, pyInt (fields.getNone "status_code") = .ok code)

variable {fromIso now windowMinutes} {py : PyCase} {f : LogFilters} {cache : LogCache}
  {logLimit : Nat}

theorem getErrorBuckets_returns :
    (∃ r, cache.getErrorBuckets fromIso now windowMinutes logLimit = .ok r) ↔
      (minTime ≤ now - windowMinutes * minuteUs ∧ now < maxTime) ∧
        ∀ fields ∈ cache.logs.map (·.fields), CountReads fromIso now windowMinutes fields := by
  refine Iff.trans ?_ countLogs_returns
  constructor
  · rintro ⟨r, h⟩
    obtain ⟨state, hstate, -⟩ := bind_ok.1 h
    exact ⟨state, hstate⟩
  · rintro ⟨state, hstate⟩
    exact ⟨_, bind_ok.2 ⟨state, hstate, rfl⟩⟩

theorem getLogInsights_returns
    (hcount : ∀ fields ∈ cache.logs.map (·.fields), CountReads fromIso now windowMinutes fields) :
    (∃ r, cache.getLogInsights fromIso py now windowMinutes logLimit f = .ok r) ↔
      (minTime ≤ now - windowMinutes * minuteUs ∧ now < maxTime) ∧
        ∀ fields ∈ cache.logs.map (·.fields), FilterReads py f fields := by
  constructor
  · rintro ⟨r, h⟩
    obtain ⟨kept, hkept, h⟩ := bind_ok.1 h
    obtain ⟨state, hstate, -⟩ := bind_ok.1 h
    refine ⟨(countLogs_returns.1 ⟨state, hstate⟩).1, List.forall_mem_map.2 fun e he => ?_⟩
    exact entryMatchesFilters_returns.1 (selectLogs_returns hkept e he)
  · rintro ⟨hyears, hfilter⟩
    have hselect : selectLogs py f cache.logs = .ok _ := selectLogs_ok fun e he =>
      entryMatchesFilters_returns.2 (hfilter e.fields (List.mem_map_of_mem he))
    have hkept : ∀ fields ∈ (cache.logs.filter (inMemory py f)).map (·.fields),
        CountReads fromIso now windowMinutes fields := by
      intro fields hfields
      obtain ⟨e, he, rfl⟩ := List.mem_map.1 hfields
      exact hcount e.fields (List.mem_map_of_mem (List.mem_of_mem_filter he))
    obtain ⟨state, hstate⟩ := countLogs_returns.2 ⟨hyears, hkept⟩
    exact ⟨_, bind_ok.2 ⟨_, hselect, bind_ok.2 ⟨state, hstate, rfl⟩⟩⟩

/-- **Reading the cache returns** after a run of requests exactly if the window lies in the years 1
to 9999 and both reads can read each of the entries that stay in the ring. -/
theorem reads_return (fromIso : String → Option Int) (py : PyCase) (maxEntries : Nat)
    (requests : List (Int × Json)) (now : Int) (windowMinutes logLimit : Nat) (f : LogFilters) :
    ((∃ r, ((StatsCache.new maxEntries).ingestAll requests).toLog.getErrorBuckets fromIso now
        windowMinutes logLimit = .ok r) ∧
      ∃ r, ((StatsCache.new maxEntries).ingestAll requests).toLog.getLogInsights fromIso py now
        windowMinutes logLimit f = .ok r) ↔
    (minTime ≤ now - windowMinutes * minuteUs ∧ now < maxTime) ∧
      ∀ fields ∈ lastEntries maxEntries (ingestedEntries requests),
        CountReads fromIso now windowMinutes fields ∧ FilterReads py f fields := by
  rw [getErrorBuckets_returns, ← StatsCache.ingestAll_ring]
  constructor
  · rintro ⟨⟨hyears, hcount⟩, hinsights⟩
    have hfilter := (getLogInsights_returns hcount).1 hinsights
    exact ⟨hyears, fun fields hfields => ⟨hcount fields hfields, hfilter.2 fields hfields⟩⟩
  · rintro ⟨hyears, hentries⟩
    have hcount := fun fields hfields => (hentries fields hfields).1
    refine ⟨⟨hyears, hcount⟩, (getLogInsights_returns hcount).2 ⟨hyears, ?_⟩⟩
    exact fun fields hfields => (hentries fields hfields).2

end Reads

/-- A request whose status code is no number: `add` raises, the request ends in an error, and its
entry stays for the reads. -/
def poison : Int × Json :=
  (0, .obj [("timestamp", .str "1970-01-01T00:00:45+00:00"), ("status_code", .str "abc")])

theorem reads_raise :
    (∀ r, ((StatsCache.new 1000).ingestAll [poison]).toLog.getErrorBuckets sampleIso
      60000000 1 200 ≠ .ok r) ∧
      ∀ r, ((StatsCache.new 1000).ingestAll [poison]).toLog.getLogInsights sampleIso samplePyCase
        60000000 1 200 .off ≠ .ok r :=
  ⟨fun _ h => (nomatch h), fun _ h => (nomatch h)⟩

end PeHackathon.Dashboard
