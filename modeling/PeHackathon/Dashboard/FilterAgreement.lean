import PeHackathon.Dashboard.LogFilters
import PeHackathon.Lib.Except

/-!
# The filter in memory and the filter in SQL

`filters_agree_iff`: on an entry and the row `flush_logs` builds for it, `entry_matches_filters` and
the `WHERE` clause answer the same, and neither raises, exactly under `FiltersAgree`: the two sides
agree on each parameter (`ParamAgrees`), or another parameter refuses the entry where this one
accepts it. `PlainFilters.filtersAgree` says on which texts they do. `filters_differ`: an underscore
in the search text.
-/

namespace PeHackathon.Dashboard

open Lib

/-! ## The texts of an entry and of its row -/

section Row

variable {pg : Postgres} {now : Int} {entry : JsonObject} {row : KafkaLog}

/-- The columns of a row that a filter reads. -/
theorem rowOf_columns (h : rowOf pg now entry = some row) :
    varcharColumn pg 16 (entry.getNone "level") = some row.level ∧
      varcharColumn pg 128 (entry.getNone "logger") = some row.logger ∧
      textValueColumn pg (entry.getNone "message") = some row.message ∧
      varcharColumn pg 512 (entry.getNone "path") = some row.path := by
  unfold rowOf at h
  obtain ⟨timestamp, -, h⟩ := Option.bind_eq_some_iff.1 h
  obtain ⟨level, hlevel, h⟩ := Option.bind_eq_some_iff.1 h
  obtain ⟨logger, hlogger, h⟩ := Option.bind_eq_some_iff.1 h
  obtain ⟨message, hmessage, h⟩ := Option.bind_eq_some_iff.1 h
  obtain ⟨instanceId, -, h⟩ := Option.bind_eq_some_iff.1 h
  obtain ⟨requestId, -, h⟩ := Option.bind_eq_some_iff.1 h
  obtain ⟨traceId, -, h⟩ := Option.bind_eq_some_iff.1 h
  obtain ⟨method, -, h⟩ := Option.bind_eq_some_iff.1 h
  obtain ⟨path, hpath, h⟩ := Option.bind_eq_some_iff.1 h
  obtain ⟨statusCode, -, h⟩ := Option.bind_eq_some_iff.1 h
  obtain ⟨durationMs, -, h⟩ := Option.bind_eq_some_iff.1 h
  obtain ⟨rawJson, -, h⟩ := Option.bind_eq_some_iff.1 h
  cases h
  exact ⟨hlevel, hlogger, hmessage, hpath⟩

/-- A column is `NULL` for a key that is missing or null. -/
theorem varcharColumn_null {n : Nat} {col : Option String}
    (h : varcharColumn pg n .null = some col) : col = none := by
  cases h
  rfl

theorem textValueColumn_null {col : Option String} (h : textValueColumn pg .null = some col) :
    col = none := by
  cases h
  rfl

end Row

/-! ## The condition -/

/-- The digits that the status filter asks for. -/
def statusTexts (raw : Option String) : List String :=
  match statusText raw with
  | none => []
  | some s => if ',' ∈ s.toList then statusParts s else [s].filter pyIsDigit

/-- The query parameters. -/
inductive LogParam
  | level
  | instanceId
  | search
  | status
  deriving DecidableEq

/-- A key that is searched, and the column its value is stored in. -/
def searchColumns (row : KafkaLog) : List (String × Option String) :=
  [("message", row.message), ("logger", row.logger), ("path", some (row.path.getD ""))]

section Condition

variable (py : PyCase) (pg : PgCase) (f : LogFilters) (entry : JsonObject) (row : KafkaLog)

/-- In memory the entry passes a parameter, if it is given. -/
def EntryAccepted : LogParam → Prop
  | .level => ∀ level, given f.level = some level →
      py.upper (entryText entry "level") = pyStrip (py.upper level)
  | .instanceId => ∀ instanceId, given f.instanceId = some instanceId →
      entryText entry "instance_id" = instanceId
  | .search => ∀ q, f.query = some q → ∃ x ∈ searchColumns row,
      pyInText (py.casefold (entryText entry x.1)) (py.casefold q)
  | .status => ∀ test, parseStatus f.statusCode = .ok (some test) →
      ∃ c, statusInt entry = .ok (some c) ∧ test.holds c

/-- In SQL its row passes it. -/
def RowAccepted : LogParam → Prop
  | .level => ∀ level, given f.level = some level → levelCondition pg level row = some true
  | .instanceId => ∀ instanceId, given f.instanceId = some instanceId →
      row.instanceId = some instanceId
  | .search => ∀ q, f.query = some q → ∃ x ∈ searchColumns row,
      ilike pg x.2 ("%" ++ q ++ "%") = some true
  | .status => ∀ test, parseStatus f.statusCode = .ok (some test) →
      ∃ c, row.statusCode = some c ∧ test.holds c

/-- The text searched for is found under a key: not in an entry without it, and in the text `None`
of one that is null. -/
def FoundInEntry (q key : String) : Prop :=
  match entry.get? key with
  | none => False
  | some .null => pyInText (py.casefold "None") (py.casefold q)
  | some v => pyInText (py.casefold v.pyStr) (py.casefold q)

/-- When the two sides agree on a parameter that is given.

* The level: one that is missing or null is stored as `NULL`, which no level matches, so the one
  asked for is not blank, or not `None`; another is matched on both sides or on neither.
* The instance: the column holds the text of the entry, or neither is the one asked for.
* The search: it finds something on both sides or on neither.
* The status: the number `int` reads and the one that is stored both pass, or neither does. -/
def ParamAgrees : LogParam → Prop
  | .level => ∀ level, given f.level = some level →
      match entry.get? "level" with
      | none => pyStrip (py.upper level) ≠ ""
      | some .null => pyStrip (py.upper level) ≠ py.upper "None"
      | some v => py.upper v.pyStr = pyStrip (py.upper level) ↔ ∃ s, row.level = some s ∧
          pg.upperText (pgTrim s) = pg.upperText (pgTrim level)
  | .instanceId => ∀ instanceId, given f.instanceId = some instanceId →
      row.instanceId = some (entryText entry "instance_id") ∨
        entryText entry "instance_id" ≠ instanceId ∧ row.instanceId ≠ some instanceId
  | .search => ∀ q, f.query = some q →
      ((∃ x ∈ searchColumns row, FoundInEntry py entry q x.1) ↔
        ∃ x ∈ searchColumns row, ilike pg x.2 ("%" ++ q ++ "%") = some true)
  | .status => ∀ test, parseStatus f.statusCode = .ok (some test) →
      ((∃ c, statusInt entry = .ok (some c) ∧ test.holds c) ↔
        ∃ c, row.statusCode = some c ∧ test.holds c)

/-- The side that accepts the parameter refuses another. -/
def Outweighed (p : LogParam) : Prop :=
  EntryAccepted py f entry row p ∧ (∃ p', ¬ EntryAccepted py f entry row p') ∨
    RowAccepted pg f row p ∧ ∃ p', ¬ RowAccepted pg f row p'

/-- When the two filters agree, and neither raises. -/
structure FiltersAgree : Prop where
  /-- No text parameter has a NUL character. -/
  sendable : ∀ s, given f.level = some s ∨ given f.instanceId = some s ∨ f.query = some s →
    sendable s
  /-- `int` reads the digits that the status filter asks for. -/
  digits : ∀ s ∈ statusTexts f.statusCode, ∃ i, pyIntOfStr s = .ok i
  /-- `int` does not raise on the status of an entry that the other parameters accept. -/
  status : ∀ test, parseStatus f.statusCode = .ok (some test) → (∃ c, statusInt entry = .ok c) ∨
    ∃ p, p ≠ .status ∧ ¬ EntryAccepted py f entry row p
  params : ∀ p, ParamAgrees py pg f entry row p ∨ Outweighed py pg f entry row p

end Condition

/-! ## One parameter at a time -/

section Params

variable {py : PyCase} {pg : PgCase} {db : Postgres} {now : Int} {f : LogFilters}
  {entry : JsonObject} {row : KafkaLog}

/-- The value under a key, and the column it was stored in. -/
theorem getNone_cases (entry : JsonObject) (key : String) :
    entry.get? key = none ∧ entry.getNone key = .null ∧ entryText entry key = "" ∨
      entry.get? key = some .null ∧ entry.getNone key = .null ∧ entryText entry key = "None" ∨
      ∃ v, v ≠ .null ∧ entry.get? key = some v ∧ entryText entry key = v.pyStr := by
  unfold JsonObject.getNone entryText
  cases hget : entry.get? key with
  | none => exact .inl ⟨rfl, rfl, rfl⟩
  | some v =>
    have hv : v = .null ∨ v ≠ .null := by cases v <;> simp
    obtain rfl | hv := hv
    · exact .inr (.inl ⟨rfl, rfl, rfl⟩)
    · exact .inr (.inr ⟨v, hv, rfl, rfl⟩)

theorem levelCondition_iff {level : String} : levelCondition pg level row = some true ↔
    ∃ s, row.level = some s ∧ pg.upperText (pgTrim s) = pg.upperText (pgTrim level) := by
  rw [levelCondition, Option.map_eq_some_iff]
  simp only [beq_iff_eq]

theorem query_ne_empty {q : String} (h : f.query = some q) : q ≠ "" := by
  have hq := (Option.filter_eq_some_iff.1 h).2
  simpa using hq

/-- No text is found in an empty one. -/
theorem pyInText_empty {q : String} (hq : q ≠ "") :
    pyInText (py.casefold "") (py.casefold q) = false := by
  rw [(py.casefold_empty "").2 rfl, pyInText, decide_eq_false_iff_not]
  intro h
  have hnil : (py.casefold q).toList = [] := List.eq_nil_of_infix_nil h
  exact hq ((py.casefold_empty q).1 (by simpa using hnil))

theorem foundInEntry_iff {q key : String} (hq : q ≠ "") : FoundInEntry py entry q key ↔
    pyInText (py.casefold (entryText entry key)) (py.casefold q) = true := by
  unfold FoundInEntry
  obtain ⟨hget, -, htext⟩ | ⟨hget, -, htext⟩ | ⟨v, hv, hget, htext⟩ := getNone_cases entry key
  · rw [hget, htext, pyInText_empty hq]
    simp
  · rw [hget, htext]
  · rw [hget, htext]
    cases v with
    | null => exact absurd rfl hv
    | _ => exact Iff.rfl

/-- **The two sides agree on a parameter** exactly under its condition. -/
theorem paramAgrees_iff (hrow : rowOf db now entry = some row) (p : LogParam) :
    ParamAgrees py pg f entry row p ↔
      (EntryAccepted py f entry row p ↔ RowAccepted pg f row p) := by
  cases p with
  | level =>
    simp only [ParamAgrees, EntryAccepted, RowAccepted, levelCondition_iff]
    cases hlevel : given f.level with
    | none => simp
    | some level =>
      simp only [Option.some.injEq, forall_eq']
      have hnull : entry.getNone "level" = .null → ¬ ∃ s, row.level = some s ∧
          pg.upperText (pgTrim s) = pg.upperText (pgTrim level) := by
        rintro hnone ⟨s, hs, -⟩
        have hcol : row.level = none := varcharColumn_null (hnone ▸ (rowOf_columns hrow).1)
        rw [hcol] at hs
        cases hs
      obtain ⟨hget, hnone, htext⟩ | ⟨hget, hnone, htext⟩ | ⟨v, hv, hget, htext⟩ :=
        getNone_cases entry "level"
      · rw [hget, htext, (py.upper_empty "").2 rfl]
        exact ⟨fun hne => iff_of_false hne.symm (hnull hnone), fun h heq =>
          hnull hnone (h.1 heq.symm)⟩
      · rw [hget, htext]
        exact ⟨fun hne => iff_of_false hne.symm (hnull hnone), fun h heq =>
          hnull hnone (h.1 heq.symm)⟩
      · rw [hget, htext]
        cases v with
        | null => exact absurd rfl hv
        | _ => exact Iff.rfl
  | instanceId =>
    simp only [ParamAgrees, EntryAccepted, RowAccepted]
    cases hid : given f.instanceId with
    | none => simp
    | some instanceId =>
      simp only [Option.some.injEq, forall_eq']
      constructor
      · rintro (hsame | ⟨hentry, hcol⟩)
        · rw [hsame, Option.some.injEq]
        · exact iff_of_false hentry hcol
      · intro h
        by_cases hentry : entryText entry "instance_id" = instanceId
        · exact .inl (by rw [h.1 hentry, hentry])
        · exact .inr ⟨hentry, mt h.2 hentry⟩
  | search =>
    simp only [ParamAgrees, EntryAccepted, RowAccepted]
    cases hquery : f.query with
    | none => simp
    | some q =>
      simp only [Option.some.injEq, forall_eq', foundInEntry_iff (query_ne_empty hquery)]
  | status =>
    simp only [ParamAgrees, EntryAccepted, RowAccepted]
    cases parseStatus f.statusCode with
    | error err => simp
    | ok test =>
      cases test with
      | none => simp
      | some test => simp only [Except.ok.injEq, Option.some.injEq, forall_eq']

end Params

/-! ## The status filter -/

section Status

variable {raw : Option String}

/-- What names a range is no list and no number. -/
theorem statusRange?_plain {s : String} (h : (statusRange? s).isSome) :
    ',' ∉ s.toList ∧ pyIsDigit s = false := by
  unfold statusRange? at h
  split at h
  · subst s; decide
  · split at h
    · subst s; decide
    · split at h
      · subst s; decide
      · split at h
        · subst s; decide
        · cases h

/-- The status filter is read exactly if `int` reads its digits. -/
theorem parseStatus_returns : (∃ test, parseStatus raw = .ok test) ↔
    ∀ s ∈ statusTexts raw, ∃ i, pyIntOfStr s = .ok i := by
  unfold parseStatus statusTexts
  cases statusText raw with
  | none => exact iff_of_true ⟨none, rfl⟩ fun _ hs => absurd hs List.not_mem_nil
  | some s =>
    dsimp only
    cases hrange : statusRange? s with
    | some test =>
      obtain ⟨hcomma, hdigit⟩ := statusRange?_plain (by rw [hrange]; rfl)
      simp only [if_neg hcomma, List.filter_singleton, hdigit]
      exact iff_of_true ⟨some test, rfl⟩ fun _ hs => absurd hs List.not_mem_nil
    | none =>
      by_cases hcomma : ',' ∈ s.toList
      · simp only [if_pos hcomma]
        rw [← mapM_returns]
        constructor
        · rintro ⟨test, h⟩
          obtain ⟨codes, hcodes, -⟩ := bind_ok.1 h
          exact ⟨codes, hcodes⟩
        · rintro ⟨codes, hcodes⟩
          exact ⟨_, bind_ok.2 ⟨codes, hcodes, rfl⟩⟩
      · simp only [if_neg hcomma, List.filter_singleton]
        cases pyIsDigit s with
        | false => exact iff_of_true ⟨none, rfl⟩ fun _ hs => absurd hs List.not_mem_nil
        | true =>
          simp only [if_true, cond_true, List.mem_singleton, forall_eq]
          constructor
          · rintro ⟨test, h⟩
            obtain ⟨want, hwant, -⟩ := bind_ok.1 h
            exact ⟨want, hwant⟩
          · rintro ⟨want, hwant⟩
            exact ⟨_, bind_ok.2 ⟨want, hwant, rfl⟩⟩

end Status

/-! ## All parameters -/

section Agree

variable {py : PyCase} {pg : PgCase} {db : Postgres} {now : Int} {f : LogFilters}
  {entry : JsonObject} {row : KafkaLog} {test : Option StatusTest}

theorem LogParam.forall {P : LogParam → Prop} :
    (∀ p, P p) ↔ P .level ∧ P .instanceId ∧ P .search ∧ P .status := by
  constructor
  · exact fun h => ⟨h _, h _, h _, h _⟩
  · rintro ⟨hlevel, hinstance, hsearch, hstatus⟩ p
    cases p with
    | level => exact hlevel
    | instanceId => exact hinstance
    | search => exact hsearch
    | status => exact hstatus

theorem levelMatches_iff :
    levelMatches py entry f = true ↔ EntryAccepted py f entry row .level := by
  unfold levelMatches EntryAccepted
  cases given f.level <;> simp

theorem instanceMatches_iff :
    instanceMatches entry f = true ↔ EntryAccepted py f entry row .instanceId := by
  unfold instanceMatches EntryAccepted
  cases given f.instanceId <;> simp

theorem searchMatches_iff :
    searchMatches py entry f = true ↔ EntryAccepted py f entry row .search := by
  unfold searchMatches EntryAccepted
  cases f.query <;> simp [searchColumns, or_assoc]

/-- An entry that a parameter before the status refuses is refused. -/
theorem entryMatches_refused (h : ∃ p, p ≠ .status ∧ ¬ EntryAccepted py f entry row p) :
    entryMatchesFilters py entry f = .ok false := by
  obtain ⟨p, hp, hnot⟩ := h
  unfold entryMatchesFilters
  cases p with
  | level =>
    rw [← levelMatches_iff, Bool.not_eq_true] at hnot
    rw [hnot]
    rfl
  | instanceId =>
    rw [← instanceMatches_iff, Bool.not_eq_true] at hnot
    rw [hnot]
    cases levelMatches py entry f <;> rfl
  | search =>
    rw [← searchMatches_iff, Bool.not_eq_true] at hnot
    rw [hnot]
    cases levelMatches py entry f <;> cases instanceMatches entry f <;> rfl
  | status => exact absurd rfl hp

/-- Of one that they accept the status decides. -/
theorem entryMatches_status (htest : parseStatus f.statusCode = .ok test)
    (h : ∀ p, p ≠ .status → EntryAccepted py f entry row p) :
    entryMatchesFilters py entry f = match test with
      | none => .ok true
      | some test => do
        let c ← statusInt entry
        return c.any test.holds := by
  unfold entryMatchesFilters
  rw [levelMatches_iff.2 (h .level (by decide)), instanceMatches_iff.2 (h .instanceId (by decide)),
    searchMatches_iff.2 (h .search (by decide))]
  simp only [statusPredicate, htest]
  cases test <;> rfl

/-- **In memory the entry is accepted** exactly if every parameter accepts it. -/
theorem entryMatches_iff (htest : parseStatus f.statusCode = .ok test) {b : Bool}
    (h : entryMatchesFilters py entry f = .ok b) :
    b = true ↔ ∀ p, EntryAccepted py f entry row p := by
  by_cases hall : ∀ p, p ≠ .status → EntryAccepted py f entry row p
  · rw [entryMatches_status htest hall] at h
    have hstatus : (∀ p, EntryAccepted py f entry row p) ↔ EntryAccepted py f entry row .status :=
      ⟨fun h => h .status, fun h p => by
        by_cases hp : p = .status
        · exact hp ▸ h
        · exact hall p hp⟩
    rw [hstatus]
    simp only [EntryAccepted, htest]
    cases test with
    | none =>
      cases h
      simp
    | some test =>
      obtain ⟨c, hc, h⟩ := bind_ok.1 h
      cases h
      rw [hc]
      cases c <;> simp
  · push Not at hall
    rw [entryMatches_refused hall] at h
    cases h
    obtain ⟨p, -, hp⟩ := hall
    exact iff_of_false nofun fun hall => hp (hall p)

/-- The filter in memory answers exactly if it does not read a status on which `int` raises. -/
theorem entryMatches_returns (htest : parseStatus f.statusCode = .ok test) :
    (∃ b, entryMatchesFilters py entry f = .ok b) ↔
      ∀ test, parseStatus f.statusCode = .ok (some test) → (∃ c, statusInt entry = .ok c) ∨
        ∃ p, p ≠ .status ∧ ¬ EntryAccepted py f entry row p := by
  by_cases hall : ∀ p, p ≠ .status → EntryAccepted py f entry row p
  · have hnone : ¬ ∃ p, p ≠ .status ∧ ¬ EntryAccepted py f entry row p := fun ⟨p, hp, hnot⟩ =>
      hnot (hall p hp)
    rw [entryMatches_status htest hall, htest]
    simp only [hnone, or_false, Except.ok.injEq]
    cases test with
    | none => exact iff_of_true ⟨true, rfl⟩ nofun
    | some test =>
      simp only [Option.some.injEq, forall_eq']
      constructor
      · rintro ⟨b, h⟩
        obtain ⟨c, hc, -⟩ := bind_ok.1 h
        exact ⟨c, hc⟩
      · rintro ⟨c, hc⟩
        exact ⟨_, bind_ok.2 ⟨c, hc, rfl⟩⟩
  · push Not at hall
    exact iff_of_true ⟨false, entryMatches_refused hall⟩ fun _ _ => .inr hall

theorem mapM_textParam {param : Option String} {text : Option String}
    (h : param.mapM textParam = .ok text) : text = param ∧ ∀ s, param = some s → sendable s := by
  cases param with
  | none =>
    cases h
    exact ⟨rfl, nofun⟩
  | some s =>
    rw [Option.mapM_some] at h
    unfold textParam at h
    split at h
    · cases h
      exact ⟨rfl, fun _ hs => Option.some.inj hs ▸ ‹_›⟩
    · cases h

theorem mapM_textParam_ok {param : Option String} (h : ∀ s, param = some s → sendable s) :
    param.mapM textParam = .ok param := by
  cases param with
  | none => rfl
  | some s =>
    have hs : textParam s = .ok s := if_pos (h s rfl)
    rw [Option.mapM_some, hs]
    rfl

theorem sendable_pattern {q : String} : sendable ("%" ++ q ++ "%") ↔ sendable q := by
  simp [sendable]

/-- The `WHERE` clause can be built exactly if the status filter is read and the texts can be
sent. -/
theorem sqlConditions_ok {conditions : List SqlCondition}
    (h : sqlConditions pg f = .ok conditions) :
    (∃ test, parseStatus f.statusCode = .ok test) ∧
      ∀ s, given f.level = some s ∨ given f.instanceId = some s ∨ f.query = some s →
        sendable s := by
  obtain ⟨status, hstatus, h⟩ := bind_ok.1 h
  obtain ⟨test, htest, -⟩ := bind_ok.1 hstatus
  obtain ⟨level, hlevel, h⟩ := bind_ok.1 h
  obtain ⟨instanceId, hinstance, h⟩ := bind_ok.1 h
  obtain ⟨search, hsearch, -⟩ := bind_ok.1 h
  refine ⟨⟨test, htest⟩, fun s hs => ?_⟩
  rcases hs with hs | hs | hs
  · exact (mapM_textParam hlevel).2 s hs
  · exact (mapM_textParam hinstance).2 s hs
  · exact sendable_pattern.1 ((mapM_textParam hsearch).2 _ (by rw [hs]; rfl))

theorem sqlOr_eq_true {a b : Option Bool} :
    sqlOr a b = some true ↔ a = some true ∨ b = some true := by
  rcases a with _ | _ | _ <;> rcases b with _ | _ | _ <;> simp [sqlOr]

variable (pg row) in
/-- **In SQL the row is selected** exactly if every parameter accepts it. -/
theorem whereSelects_ok (htest : parseStatus f.statusCode = .ok test)
    (hsend : ∀ s, given f.level = some s ∨ given f.instanceId = some s ∨ f.query = some s →
      sendable s) :
    ∃ b, whereSelects pg f row = .ok b ∧ (b = true ↔ ∀ p, RowAccepted pg f row p) := by
  have hpattern : ∀ s, (f.query.map fun q => "%" ++ q ++ "%") = some s → sendable s := by
    intro s hs
    obtain ⟨q, hq, rfl⟩ := Option.map_eq_some_iff.1 hs
    exact sendable_pattern.2 (hsend q (.inr (.inr hq)))
  unfold whereSelects sqlConditions sqlStatusCondition
  rw [htest, mapM_textParam_ok fun s hs => hsend s (.inl hs),
    mapM_textParam_ok fun s hs => hsend s (.inr (.inl hs)), mapM_textParam_ok hpattern]
  refine ⟨_, rfl, ?_⟩
  simp only [List.all_append, Bool.and_eq_true, and_assoc, LogParam.forall, RowAccepted, htest]
  refine and_congr ?_ (and_congr ?_ (and_congr ?_ ?_))
  · cases given f.level <;> simp
  · cases given f.instanceId <;> simp [instanceCondition]
  · cases f.query <;> simp [searchColumns, searchCondition, sqlOr_eq_true, or_assoc]
  · cases test <;> simp

/-- All are accepted on both sides or on neither exactly if whatever differs is outweighed. -/
theorem forall_iff_forall {ι : Type} {P Q : ι → Prop} : ((∀ i, P i) ↔ ∀ i, Q i) ↔
    ∀ i, (P i ↔ Q i) ∨ P i ∧ (∃ j, ¬ P j) ∨ Q i ∧ ∃ j, ¬ Q j := by
  constructor
  · intro h i
    by_cases hall : ∀ i, P i
    · exact .inl (iff_of_true (hall i) (h.1 hall i))
    · have hp := not_forall.1 hall
      have hq := not_forall.1 (mt h.2 hall)
      by_cases hpi : P i
      · exact .inr (.inl ⟨hpi, hp⟩)
      · by_cases hqi : Q i
        · exact .inr (.inr ⟨hqi, hq⟩)
        · exact .inl (iff_of_false hpi hqi)
  · intro h
    constructor
    · intro hp i
      rcases h i with hiff | ⟨-, j, hj⟩ | ⟨hqi, -⟩
      · exact hiff.1 (hp i)
      · exact absurd (hp j) hj
      · exact hqi
    · intro hq i
      rcases h i with hiff | ⟨hpi, -⟩ | ⟨-, j, hj⟩
      · exact hiff.2 (hq i)
      · exact hpi
      · exact absurd (hq j) hj

/-- **The two filters answer the same, and neither raises**, exactly under the condition. -/
theorem filters_agree_iff (hrow : rowOf db now entry = some row) :
    (∃ b, entryMatchesFilters py entry f = .ok b ∧ whereSelects pg f row = .ok b) ↔
      FiltersAgree py pg f entry row := by
  have hparams : (∀ p, ParamAgrees py pg f entry row p ∨ Outweighed py pg f entry row p) ↔
      ((∀ p, EntryAccepted py f entry row p) ↔ ∀ p, RowAccepted pg f row p) := by
    rw [forall_iff_forall]
    exact forall_congr' fun p => or_congr_left (paramAgrees_iff hrow p)
  constructor
  · rintro ⟨b, hmem, hsql⟩
    obtain ⟨conditions, hconditions, -⟩ := bind_ok.1 hsql
    obtain ⟨⟨test, htest⟩, hsend⟩ := sqlConditions_ok hconditions
    refine ⟨hsend, parseStatus_returns.1 ⟨test, htest⟩,
      (entryMatches_returns htest).1 ⟨b, hmem⟩, hparams.2 ?_⟩
    obtain ⟨b', hsql', hselected⟩ := whereSelects_ok pg row htest hsend
    cases hsql.symm.trans hsql'
    exact (entryMatches_iff htest hmem).symm.trans hselected
  · intro h
    obtain ⟨test, htest⟩ := parseStatus_returns.2 h.digits
    obtain ⟨b, hmem⟩ := (entryMatches_returns htest).2 h.status
    obtain ⟨b', hsql, hselected⟩ := whereSelects_ok pg row htest h.sendable
    have hsame : b = true ↔ b' = true :=
      (entryMatches_iff htest hmem).trans ((hparams.1 h.params).trans hselected.symm)
    exact ⟨b, hmem, by rw [hsql, Bool.eq_iff_iff.2 hsame]⟩

end Agree

/-! ## Plain texts -/

section Plain

variable {py : PyCase} {pg : PgCase} {db : Postgres} {now : Int} {f : LogFilters}
  {entry : JsonObject} {row : KafkaLog}

/-- The text is made upper case alike by Python and PostgreSQL. -/
def UpperAlike (py : PyCase) (pg : PgCase) (s : String) : Prop :=
  (py.upper s).toList = pg.upperText s

/-- What `casefold` makes of it is its lower case. -/
def FoldAlike (py : PyCase) (pg : PgCase) (s : String) : Prop :=
  (py.casefold s).toList = pg.lowerText s

/-- Parameters, an entry and its row that leave nothing to differ. -/
structure PlainFilters (py : PyCase) (pg : PgCase) (f : LogFilters) (entry : JsonObject)
    (row : KafkaLog) : Prop where
  /-- The level is stored as it is, without spaces around it, and the one asked for has no other
  white space around it. Case makes no difference. An entry whose level is missing or null is not
  asked for. -/
  level : ∀ level, given f.level = some level →
    pyStrip (py.upper level) = py.upper (pgTrim level) ∧ UpperAlike py pg (pgTrim level) ∧
      match entry.get? "level" with
      | none => pgTrim level ≠ ""
      | some .null => py.upper (pgTrim level) ≠ py.upper "None"
      | some v => row.level = some v.pyStr ∧ pgTrim v.pyStr = v.pyStr ∧ UpperAlike py pg v.pyStr
  /-- The instance is stored as it is. -/
  instanceId : row.instanceId = some (entryText entry "instance_id")
  /-- The text searched for has no character with a meaning in a pattern, and is not found in the
  `None` of a key that is null. What is searched is stored as it is. Case makes no difference. -/
  search : ∀ q, f.query = some q → (∀ c ∈ q.toList, ¬ IsWild c) ∧ FoldAlike py pg q ∧
    ∀ x ∈ searchColumns row,
      match entry.get? x.1 with
      | none => True
      | some .null => pyInText (py.casefold "None") (py.casefold q) = false
      | some v => x.2 = some v.pyStr ∧ FoldAlike py pg v.pyStr
  /-- Every digit asked for is a decimal one, and the status is stored as the number `int` reads. -/
  digits : ∀ s ∈ statusTexts f.statusCode, DecimalText s
  status : statusInt entry = .ok row.statusCode

/-- Of a plain text, `ILIKE` finds what the folded texts contain. -/
theorem ilike_agrees {q s : String} (hq : ∀ c ∈ q.toList, ¬ IsWild c) (hfold : FoldAlike py pg q)
    (hs : FoldAlike py pg s) :
    ilike pg (some s) ("%" ++ q ++ "%") = some (pyInText (py.casefold s) (py.casefold q)) := by
  have hpattern : pg.lowerText ("%" ++ q ++ "%") = '%' :: pg.lowerText q ++ ['%'] := by
    simp [PgCase.lowerText, pg.lower_wild '%' (.inl rfl)]
  have hplain : ∀ c ∈ pg.lowerText q, ¬ IsWild c := by
    intro c hc
    obtain ⟨c', hc', rfl⟩ := List.mem_map.1 hc
    exact fun hwild => hq c' hc' (pg.wild_of_lower c' hwild)
  rw [ilike, Option.map_some, Option.some.injEq, hpattern, Bool.eq_iff_iff, likeMatch_infix hplain,
    pyInText, decide_eq_true_iff, hfold, hs]

/-- `ILIKE` finds nothing in a column without a text. -/
theorem ilike_none {q : String} {col : Option String} (hne : q ≠ "")
    (hq : ∀ c ∈ q.toList, ¬ IsWild c) (hfold : FoldAlike py pg q)
    (hcol : col = none ∨ col = some "") :
    ilike pg col ("%" ++ q ++ "%") ≠ some true := by
  obtain rfl | rfl := hcol
  · nofun
  · have hempty : FoldAlike py pg "" := by
      rw [FoldAlike, (py.casefold_empty "").2 rfl]
      rfl
    rw [ilike_agrees hq hfold hempty, pyInText_empty hne]
    nofun

/-- What is stored for a key that is missing or null. -/
theorem searchColumns_null (hrow : rowOf db now entry = some row) {x : String × Option String}
    (hx : x ∈ searchColumns row) (hnull : entry.getNone x.1 = .null) :
    x.2 = none ∨ x.2 = some "" := by
  obtain ⟨-, hlogger, hmessage, hpath⟩ := rowOf_columns hrow
  simp only [searchColumns, List.mem_cons, List.not_mem_nil, or_false] at hx
  obtain rfl | rfl | rfl := hx
  · exact .inl (textValueColumn_null (hnull ▸ hmessage))
  · exact .inl (varcharColumn_null (hnull ▸ hlogger))
  · right
    have hcol : row.path = none := varcharColumn_null (hnull ▸ hpath)
    exact congrArg (fun path : Option String => some (path.getD "")) hcol

/-- A column is found exactly when the text of its key is. -/
theorem column_agrees (hrow : rowOf db now entry = some row) {q : String} (hne : q ≠ "")
    (hq : ∀ c ∈ q.toList, ¬ IsWild c) (hfold : FoldAlike py pg q) {x : String × Option String}
    (hx : x ∈ searchColumns row)
    (h : match entry.get? x.1 with
      | none => True
      | some .null => pyInText (py.casefold "None") (py.casefold q) = false
      | some v => x.2 = some v.pyStr ∧ FoldAlike py pg v.pyStr) :
    FoundInEntry py entry q x.1 ↔ ilike pg x.2 ("%" ++ q ++ "%") = some true := by
  rw [foundInEntry_iff hne]
  obtain ⟨hget, hnone, htext⟩ | ⟨hget, hnone, htext⟩ | ⟨v, hv, hget, htext⟩ :=
    getNone_cases entry x.1
  · rw [htext, pyInText_empty hne]
    exact iff_of_false nofun (ilike_none hne hq hfold (searchColumns_null hrow hx hnone))
  · rw [hget] at h
    rw [htext, h]
    exact iff_of_false nofun (ilike_none hne hq hfold (searchColumns_null hrow hx hnone))
  · rw [hget] at h
    obtain ⟨hcol, halike⟩ : x.2 = some v.pyStr ∧ FoldAlike py pg v.pyStr := by
      cases v with
      | null => exact absurd rfl hv
      | _ => exact h
    rw [hcol, htext, ilike_agrees hq hfold halike, Option.some.injEq]

/-- **On plain texts the two sides agree on every parameter.** -/
theorem PlainFilters.agrees (h : PlainFilters py pg f entry row)
    (hrow : rowOf db now entry = some row) (p : LogParam) : ParamAgrees py pg f entry row p := by
  cases p with
  | level =>
    intro level hlevel
    obtain ⟨hstrip, hupper, hentry⟩ := h.level level hlevel
    rw [hstrip]
    obtain ⟨hget, -, -⟩ | ⟨hget, -, -⟩ | ⟨v, hv, hget, -⟩ := getNone_cases entry "level"
    · rw [hget] at hentry ⊢
      exact mt (py.upper_empty _).1 hentry
    · rw [hget] at hentry ⊢
      exact hentry
    · rw [hget] at hentry ⊢
      obtain ⟨hcol, htrim, halike⟩ : row.level = some v.pyStr ∧ pgTrim v.pyStr = v.pyStr ∧
          UpperAlike py pg v.pyStr := by
        cases v with
        | null => exact absurd rfl hv
        | _ => exact hentry
      have hsame : py.upper v.pyStr = py.upper (pgTrim level) ↔ ∃ s, row.level = some s ∧
          pg.upperText (pgTrim s) = pg.upperText (pgTrim level) := by
        rw [hcol, ← hupper, ← String.toList_inj, halike]
        simp [htrim]
      cases v with
      | null => exact absurd rfl hv
      | _ => exact hsame
  | instanceId => exact fun _ _ => .inl h.instanceId
  | search =>
    intro q hquery
    obtain ⟨hq, hfold, hcolumns⟩ := h.search q hquery
    refine exists_congr fun x => and_congr_right fun hx => ?_
    exact column_agrees hrow (query_ne_empty hquery) hq hfold hx (hcolumns x hx)
  | status =>
    intro test htest
    rw [h.status]
    simp

/-- The digits asked for are not empty. -/
theorem statusTexts_ne_empty {raw : Option String} {s : String} (hs : s ∈ statusTexts raw) :
    s ≠ "" := by
  have hdigit : pyIsDigit s = true := by
    unfold statusTexts at hs
    split at hs
    · exact absurd hs List.not_mem_nil
    · split at hs
      · exact (List.mem_filter.1 hs).2
      · exact (List.mem_filter.1 hs).2
  rintro rfl
  cases hdigit

/-- **The two filters agree on plain texts** that can be sent. -/
theorem PlainFilters.filtersAgree (h : PlainFilters py pg f entry row)
    (hrow : rowOf db now entry = some row)
    (hsend : ∀ s, given f.level = some s ∨ given f.instanceId = some s ∨ f.query = some s →
      sendable s) : FiltersAgree py pg f entry row where
  sendable := hsend
  digits s hs := pyIntOfStr_decimal (statusTexts_ne_empty hs) (h.digits s hs)
  status _ _ := .inl ⟨_, h.status⟩
  params p := .inl (h.agrees hrow p)

end Plain

/-! ## Samples -/

/-- The search finds the message on both sides, and in memory the `None` of the logger as well. -/
def sampleNone : JsonObject :=
  [("level", .str "INFO"), ("message", .str "none found"), ("logger", .null)]

def noneFilters : LogFilters := ⟨some "info ", none, some "none", none⟩

theorem filters_agree_sample : ∃ row, rowOf samplePostgres 0 sampleNone = some row ∧
    ∃ b, entryMatchesFilters samplePyCase sampleNone noneFilters = .ok b ∧
      whereSelects samplePgCase noneFilters row = .ok b := by
  obtain ⟨row, hrow, hlevel, hmessage⟩ : ∃ row, rowOf samplePostgres 0 sampleNone = some row ∧
      row.level = some "INFO" ∧ row.message = some "none found" :=
    ⟨_, rfl, rfl, rfl⟩
  refine ⟨row, hrow, (filters_agree_iff hrow).2 ⟨?_, ?_, nofun, fun p => .inl ?_⟩⟩
  · rintro s (h | h | h) <;> cases h <;> rfl
  · exact fun _ hs => absurd hs List.not_mem_nil
  · cases p with
    | level =>
      intro level h
      cases h
      have hupper : samplePgCase.upperText (pgTrim "INFO") =
          samplePgCase.upperText (pgTrim "info ") := by decide +kernel
      exact iff_of_true rfl ⟨_, hlevel, hupper⟩
    | instanceId => exact nofun
    | search =>
      intro q h
      have hquery : noneFilters.query = some "none" := by decide +kernel
      obtain rfl : "none" = q := Option.some.inj (hquery.symm.trans h)
      refine iff_of_true ⟨("message", row.message), List.mem_cons_self, ?_⟩
        ⟨("message", row.message), List.mem_cons_self, ?_⟩
      · change pyInText _ _ = true
        decide +kernel
      · rw [hmessage]
        decide +kernel
    | status => exact nofun

/-- An underscore is searched for as it is in memory, and stands for any character in SQL. -/
theorem filters_differ : ∃ row,
    rowOf samplePostgres 0 (sampleLog "axb") = some row ∧
      entryMatchesFilters samplePyCase (sampleLog "axb") ⟨none, none, some "a_b", none⟩ =
        .ok false ∧
      whereSelects samplePgCase ⟨none, none, some "a_b", none⟩ row = .ok true := by
  refine ⟨_, rfl, ?_, ?_⟩
  · decide +kernel
  · decide +kernel

end PeHackathon.Dashboard
