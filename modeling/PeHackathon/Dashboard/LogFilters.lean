import PeHackathon.Dashboard.Database
import PeHackathon.Postgres.Like
import PeHackathon.Python.Number

/-!
# The filters of the logs

`log_filters.py`, and the `WHERE` clause that `fetch_logs_from_db` and `query_log_insights` build.
The same four query parameters are applied to an entry in memory and to a row of `kafka_logs`.
-/

namespace PeHackathon.Dashboard

/-! ## Text -/

/-- `s.upper()` and `s.casefold()`. Only the empty text becomes empty. -/
structure PyCase where
  upper : String → String
  casefold : String → String
  upper_empty : ∀ s, upper s = "" ↔ s = ""
  casefold_empty : ∀ s, casefold s = "" ↔ s = ""

/-- What `UPPER` and `LOWER` make of a character in the locale of the database. `ILIKE` compares in
lower case. The characters that mean something in a pattern are no letters. -/
structure PgCase where
  upper : Char → Char
  lower : Char → Char
  lower_wild : ∀ c, IsWild c → lower c = c
  wild_of_lower : ∀ c, IsWild (lower c) → IsWild c

def PgCase.upperText (pg : PgCase) (s : String) : List Char := s.toList.map pg.upper

def PgCase.lowerText (pg : PgCase) (s : String) : List Char := s.toList.map pg.lower

/-- `TRIM(s)`. -/
def pgTrim (s : String) : String :=
  String.ofList ((s.toList.dropWhile (· == ' ')).reverse.dropWhile (· == ' ')).reverse

/-- `q in s`. -/
def pyInText (s q : String) : Bool := decide (q.toList <:+: s.toList)

/-- `str(entry.get(key, ""))`. -/
def entryText (entry : JsonObject) (key : String) : String :=
  ((entry.get? key).getD (.str "")).pyStr

/-- The four query parameters, where `none` is one that is not given. -/
structure LogFilters where
  level : Option String
  instanceId : Option String
  search : Option String
  statusCode : Option String
  deriving DecidableEq, Repr

/-- No parameter is given. -/
def LogFilters.off : LogFilters := ⟨none, none, none, none⟩

/-- A parameter that is given and not empty. -/
def given (param : Option String) : Option String := param.filter (· ≠ "")

/-- `search.strip()`, unless that is empty. -/
def LogFilters.query (f : LogFilters) : Option String := given ((given f.search).map pyStrip)

/-! ## The status filter -/

/-- The three shapes of the status filter. -/
inductive StatusTest
  | range (lo hi : Int)
  | codes (l : List Int)
  | code (want : Int)
  deriving DecidableEq, Repr

def StatusTest.holds : StatusTest → Int → Bool
  | .range lo hi, c => lo ≤ c && c < hi
  | .codes l, c => l.contains c
  | .code want, c => c == want

/-- The parts of a comma list that are digits. -/
def statusParts (s : String) : List String :=
  (((s.toList.splitOn ',').map fun part => pyStrip (String.ofList part))).filter pyIsDigit

/-- `str(raw).strip().lower()`, unless the parameter is empty. -/
def statusText (raw : Option String) : Option String :=
  (given ((given raw).map pyStrip)).map pyLower

/-- The dictionary `ranges`. -/
def statusRange? (s : String) : Option StatusTest :=
  if s = "2xx" then some (.range 200 300)
  else if s = "3xx" then some (.range 300 400)
  else if s = "4xx" then some (.range 400 500)
  else if s = "5xx" then some (.range 500 600)
  else none

/-- How `status_predicate` and `sql_status_condition` both read the parameter. -/
def parseStatus (raw : Option String) : Except PyError (Option StatusTest) :=
  match statusText raw with
  | none => .ok none
  | some s =>
    match statusRange? s with
    | some test => .ok (some test)
    | none =>
      if ',' ∈ s.toList then do
        let codes ← (statusParts s).mapM pyIntOfStr
        return if codes.isEmpty then none else some (.codes codes)
      else if pyIsDigit s then do
        let want ← pyIntOfStr s
        return some (.code want)
      else .ok none

/-! ## In memory -/

/-- `_status_int`. It catches a `TypeError` and a `ValueError`. -/
def statusInt (entry : JsonObject) : Except PyError (Option Int) :=
  match entry.getNone "status_code" with
  | .null => .ok none
  | v =>
    match pyInt v with
    | .ok i => .ok (some i)
    | .error .typeError | .error .valueError => .ok none
    | .error err => .error err

/-- `status_predicate`. -/
def statusPredicate (raw : Option String) :
    Except PyError (Option (JsonObject → Except PyError Bool)) := do
  let test ← parseStatus raw
  return test.map fun test entry => do
    let c ← statusInt entry
    return c.any test.holds

section Memory

variable (py : PyCase) (entry : JsonObject) (f : LogFilters)

def levelMatches : Bool :=
  match given f.level with
  | none => true
  | some level => py.upper (entryText entry "level") == pyStrip (py.upper level)

def instanceMatches : Bool :=
  match given f.instanceId with
  | none => true
  | some instanceId => entryText entry "instance_id" == instanceId

def searchMatches : Bool :=
  match f.query with
  | none => true
  | some q =>
    pyInText (py.casefold (entryText entry "message")) (py.casefold q) ||
      pyInText (py.casefold (entryText entry "logger")) (py.casefold q) ||
        pyInText (py.casefold (entryText entry "path")) (py.casefold q)

/-- `entry_matches_filters`. -/
def entryMatchesFilters : Except PyError Bool :=
  if !levelMatches py entry f then .ok false
  else if !instanceMatches entry f then .ok false
  else if !searchMatches py entry f then .ok false
  else do
    match ← statusPredicate f.statusCode with
    | none => return true
    | some pred => pred entry

end Memory

/-! ## In SQL -/

/-- A condition on a row, `none` where it is `NULL`. -/
abbrev SqlCondition := KafkaLog → Option Bool

/-- `a OR b`. -/
def sqlOr : Option Bool → Option Bool → Option Bool
  | some true, _ | _, some true => some true
  | some false, some false => some false
  | _, _ => none

section Sql

variable (pg : PgCase)

/-- `s ILIKE p`. -/
def ilike (s : Option String) (p : String) : Option Bool :=
  s.map fun s => likeMatch (pg.lowerText p) (pg.lowerText s)

/-- `UPPER(TRIM(level)) = UPPER(TRIM(%s))`. -/
def levelCondition (level : String) : SqlCondition := fun row =>
  row.level.map fun s => pg.upperText (pgTrim s) == pg.upperText (pgTrim level)

/-- `instance_id = %s`. -/
def instanceCondition (instanceId : String) : SqlCondition := fun row =>
  row.instanceId.map fun s => s == instanceId

/-- `(message ILIKE %s OR logger ILIKE %s OR COALESCE(path, '') ILIKE %s)`. -/
def searchCondition (p : String) : SqlCondition := fun row =>
  sqlOr (sqlOr (ilike pg row.message p) (ilike pg row.logger p))
    (ilike pg (some (row.path.getD "")) p)

/-- `sql_status_condition`. -/
def sqlStatusCondition (raw : Option String) : Except PyError (Option SqlCondition) := do
  let test ← parseStatus raw
  return test.map fun test row => row.statusCode.map test.holds

/-- A text parameter, which the adapter refuses if it has a NUL character. -/
def textParam (s : String) : Except PyError String :=
  if sendable s then .ok s else .error .valueError

/-- The conditions of the `WHERE` clause. -/
def sqlConditions (f : LogFilters) : Except PyError (List SqlCondition) := do
  let status ← sqlStatusCondition f.statusCode
  let level ← (given f.level).mapM textParam
  let instanceId ← (given f.instanceId).mapM textParam
  let search ← (f.query.map fun q => "%" ++ q ++ "%").mapM textParam
  return (level.map (levelCondition pg)).toList ++ (instanceId.map instanceCondition).toList ++
    (search.map (searchCondition pg)).toList ++ status.toList

/-- Whether the `WHERE` clause selects a row: every condition is true of it. -/
def whereSelects (f : LogFilters) (row : KafkaLog) : Except PyError Bool := do
  let conditions ← sqlConditions pg f
  return conditions.all fun condition => condition row == some true

end Sql

/-! ## Sample data -/

/-- The case of ASCII letters. -/
def samplePyCase : PyCase where
  upper s := String.ofList (s.toList.map Char.toUpper)
  casefold s := String.ofList (s.toList.map Char.toLower)
  upper_empty s := by simp
  casefold_empty s := by simp

theorem toLower_wild (c : Char) (h : IsWild c.toLower) : IsWild c := by
  by_cases hupper : c.val ≥ 'A'.val ∧ c.val ≤ 'Z'.val
  · exfalso
    have hlo : 65 ≤ c.val.toNat := UInt32.le_iff_toNat_le.1 hupper.1
    have hhi : c.val.toNat ≤ 90 := UInt32.le_iff_toNat_le.1 hupper.2
    have hval : c.toLower.toNat = (c.val.toNat + 32) % 2 ^ 32 := by
      unfold Char.toLower
      rw [dif_pos hupper]
      rfl
    have hwild : c.toLower.toNat = 37 ∨ c.toLower.toNat = 95 ∨ c.toLower.toNat = 92 := by
      rcases h with h | h | h <;> rw [h] <;> decide
    omega
  · have hkeep : c.toLower = c := by
      unfold Char.toLower
      rw [dif_neg hupper]
    rwa [hkeep] at h

/-- The same for the database. -/
def samplePgCase : PgCase where
  upper := Char.toUpper
  lower := Char.toLower
  lower_wild c h := by
    rcases h with rfl | rfl | rfl <;> rfl
  wild_of_lower := toLower_wild

end PeHackathon.Dashboard
