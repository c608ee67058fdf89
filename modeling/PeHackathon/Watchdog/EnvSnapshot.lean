import Mathlib.Data.List.Lex
import Mathlib.Data.List.Sort
import PeHackathon.Watchdog.EnvironFile

/-!
# The diagnostics of the environment

`getRailwayEnvDebugSnapshot` (`server-runtime-env.ts`) reports of each token whether there is one
and how long it is. It looks at one entry of each name, where `runtimeEnv` goes on to the next one
as long as the value is blank: the report tells what the resolver does exactly if the first entry
decides (`snapshot_tells_iff`). What `hasRailwayGraphqlCredential` logs in debug mode is left out.
-/

namespace PeHackathon.Watchdog

open Js

/-! ## Tokens -/

/-- `PROJECT_ACCESS_TOKEN_KEYS`. -/
def projectAccessTokenKeys : List String :=
  ["RAILWAY_PROJECT_TOKEN", "DASHBOARD_RAILWAY_PROJECT_TOKEN"]

/-- `ACCOUNT_BEARER_TOKEN_KEYS`. -/
def accountBearerTokenKeys : List String :=
  ["RAILWAY_API_TOKEN", "RAILWAY_TOKEN", "DASHBOARD_RAILWAY_API_TOKEN"]

/-- `ALL_TOKEN_KEYS`. -/
def allTokenKeys : List String := projectAccessTokenKeys ++ accountBearerTokenKeys

/-- `Boolean(value)`. -/
def truthy (value : Option String) : Bool :=
  match value with
  | some v => v != ""
  | none => false

def hasRailwayGraphqlCredential (env : Environment) : Bool :=
  projectAccessTokenKeys.any (fun k => truthy (runtimeEnv env k)) ||
    accountBearerTokenKeys.any fun k => truthy (runtimeEnv env k)

/-! ## The snapshot -/

/-- What the snapshot says of a token. -/
structure TokenReport where
  present : Bool
  valueLength : Nat
  rawKeyMatched : Option String
  deriving DecidableEq, Repr

/-- The one entry of a map that is looked at for a name. -/
def snapshotEntry (entries : JsRecord) (name : String) : Option (String × String) :=
  match entries.lookup name with
  | some value => some (name, value)
  | none => entries.find? fun entry => trim entry.1 = name

def tokenReport (env : Environment) (name : String) : TokenReport :=
  let found := (env.proc.bind (snapshotEntry · name)).or (snapshotEntry env.process name)
  let value := found.map Prod.snd
  let normalized := if truthy value then normalizeEnvValue (value.getD "") else ""
  { present := normalized != ""
    valueLength := utf16Length normalized
    rawKeyMatched := (found.map Prod.fst).filter fun raw => raw != "" && raw != name }

/-- One key of `collectKeys`: what was seen, and the keys so far. -/
def collectKey (keys : List String × List String) (k : String) : List String × List String :=
  let t := trim k
  if (includes t "RAILWAY" || includes t "DASHBOARD" || includes t "VISIBILITY") &&
      !keys.1.contains t then
    (keys.1 ++ [t], keys.2 ++ [if k != t then t ++ " (variable name had leading/trailing spaces)"
      else t])
  else keys

structure EnvDebugSnapshot where
  platform : String
  linuxProcParsed : Bool
  rawProcKeyCount : Nat
  relevantKeys : List String
  tokens : List (String × TokenReport)
  hasCredential : Bool
  /-- `dashboardBackendUrl.configured`. -/
  backendUrlConfigured : Bool
  /-- `dashboardBackendUrl.valueLength`. -/
  backendUrlLength : Nat

def getRailwayEnvDebugSnapshot (platform : String) (env : Environment) : EnvDebugSnapshot :=
  let fromProc := env.proc.getD []
  let keys := (fromProc ++ env.process).foldl (fun keys entry => collectKey keys entry.1) ([], [])
  let tokens := allTokenKeys.map fun name => (name, tokenReport env name)
  let dashBack := runtimeEnv env "DASHBOARD_BACKEND_URL"
  let dashBackNorm := if truthy dashBack then normalizeEnvValue (dashBack.getD "") else ""
  { platform := platform
    linuxProcParsed := env.proc.isSome
    rawProcKeyCount := fromProc.length
    relevantKeys := keys.2.insertionSort fun a b => utf16 a ≤ utf16 b
    tokens := tokens
    hasCredential := tokens.any fun token => token.2.present
    backendUrlConfigured := dashBackNorm != ""
    backendUrlLength := utf16Length dashBackNorm }

/-! ## What it tells -/

/-- The values of the entries under a name, in the order in which `runtimeEnv` tries them. -/
def namedValues (entries : JsRecord) (name : String) : List String :=
  (entries.lookup name).toList ++
    (entries.filter fun entry => trim entry.1 = trim name).map Prod.snd

def candidates (env : Environment) (name : String) : List String :=
  (env.proc.elim [] fun entries => namedValues entries name) ++ namedValues env.process name

/-- Nothing is left of the value without spaces and quotes. -/
def Blank (value : String) : Prop := normalizeEnvValue value = ""

instance (value : String) : Decidable (Blank value) := inferInstanceAs (Decidable (_ = _))

/-- The first entry under the name is not blank, or every one is. -/
def FirstDecides (env : Environment) (name : String) : Prop :=
  ∀ value ∈ (candidates env name).head?, Blank value → ∀ other ∈ candidates env name, Blank other

/-- The report of a token tells what the resolver finds. -/
def TokenReport.Tells (report : TokenReport) (found : Option String) : Prop :=
  (report.present = true ↔ found.isSome = true) ∧ report.valueLength = found.elim 0 utf16Length

/-- The snapshot tells what the resolver does. -/
def EnvDebugSnapshot.Tells (snapshot : EnvDebugSnapshot) (env : Environment) : Prop :=
  (∀ name ∈ allTokenKeys, ∃ report, snapshot.tokens.lookup name = some report ∧
    report.Tells (runtimeEnv env name)) ∧
  snapshot.hasCredential = hasRailwayGraphqlCredential env

/-! ## The values that are tried -/

section Values

variable {entries : JsRecord} {env : Environment} {name : String}

theorem usableValue_eq_none_iff {value : String} : usableValue value = none ↔ Blank value := by
  have hempty : normalizeEnvValue "" = "" := by decide
  unfold usableValue Blank
  by_cases hvalue : value = ""
  · rw [if_pos (.inl hvalue), hvalue, hempty]
    exact iff_of_true rfl rfl
  · by_cases hblank : normalizeEnvValue value = ""
    · rw [if_pos (.inr hblank)]
      exact iff_of_true rfl hblank
    · rw [if_neg (not_or.2 ⟨hvalue, hblank⟩)]
      exact iff_of_false (Option.some_ne_none _) hblank

theorem findSome?_padded :
    ((entries.filter fun entry => trim entry.1 = trim name).map Prod.snd).findSome? usableValue =
    entries.findSome? fun entry => if trim entry.1 = trim name then usableValue entry.2
      else none := by
  induction entries with
  | nil => rfl
  | cons entry entries ih =>
    rw [List.filter_cons, List.findSome?_cons]
    by_cases hname : trim entry.1 = trim name
    · rw [if_pos (decide_eq_true hname), if_pos hname, List.map_cons, List.findSome?_cons, ih]
    · rw [if_neg (mt of_decide_eq_true hname), if_neg hname, ih]

theorem lookupEntry_eq :
    lookupEntry entries name = (namedValues entries name).findSome? usableValue := by
  have hexact : (entries.lookup name).toList.findSome? usableValue =
      (entries.lookup name).bind usableValue := by
    cases entries.lookup name with
    | none => rfl
    | some value =>
      rw [Option.toList_some, List.findSome?_singleton]
      rfl
  rw [lookupEntry, namedValues, List.findSome?_append, hexact, findSome?_padded]

/-- **The resolver** answers the first value that is not blank. -/
theorem runtimeEnv_eq : runtimeEnv env name = (candidates env name).findSome? usableValue := by
  rw [runtimeEnv, candidates, List.findSome?_append, lookupEntry_eq]
  cases env.proc with
  | none => rfl
  | some entries => 
    rw [Option.bind_some, lookupEntry_eq]
    rfl

theorem snapshotEntry_value (htrim : trim name = name) :
    (snapshotEntry entries name).map Prod.snd = (namedValues entries name).head? := by
  unfold snapshotEntry namedValues
  rw [htrim]
  cases entries.lookup name with
  | some value => rfl
  | none =>
    dsimp only
    rw [Option.toList_none, List.nil_append, List.head?_map, List.head?_filter]

/-- **The report** is about the first value. -/
theorem tokenReport_value (htrim : trim name = name) :
    ((env.proc.bind (snapshotEntry · name)).or (snapshotEntry env.process name)).map Prod.snd =
      (candidates env name).head? := by
  rw [candidates, List.head?_append, Option.map_or, snapshotEntry_value htrim]
  cases env.proc with
  | none => rfl
  | some entries =>
    rw [Option.bind_some, snapshotEntry_value htrim]
    rfl

theorem findSome?_of_head {values : List String} {n : String}
    (h : values.head?.bind usableValue = some n) :
    values.findSome? usableValue = some n := by
  cases values with
  | nil => cases h
  | cons value values =>
    rw [List.head?_cons, Option.bind_some] at h
    rw [List.findSome?_cons, h]

theorem firstDecides_iff :
    (candidates env name).head?.bind usableValue = (candidates env name).findSome? usableValue ↔
      FirstDecides env name := by
  unfold FirstDecides
  cases candidates env name with
  | nil => exact iff_of_true rfl fun value hvalue => nomatch hvalue
  | cons value values =>
    rw [List.head?_cons, Option.bind_some, List.findSome?_cons]
    cases husable : usableValue value with
    | some n =>
      have hkept : ¬ Blank value := fun hblank => by
        rw [usableValue_eq_none_iff.2 hblank] at husable
        cases husable
      refine iff_of_true rfl fun value' hvalue' hblank => ?_
      cases hvalue'
      exact absurd hblank hkept
    | none =>
      have hblank : Blank value := usableValue_eq_none_iff.1 husable
      constructor
      · intro hnone value' hvalue' _ other hother
        rcases List.mem_cons.1 hother with rfl | hother
        · exact hblank
        · exact usableValue_eq_none_iff.1 (List.findSome?_eq_none_iff.1 hnone.symm other hother)
      · intro hall
        refine (List.findSome?_eq_none_iff.2 fun other hother => ?_).symm
        exact usableValue_eq_none_iff.2
          (hall value rfl hblank other (List.mem_cons_of_mem _ hother))

/-- The report in terms of the first value. -/
theorem tokenReport_eq (htrim : trim name = name) :
    (tokenReport env name).present = ((candidates env name).head?.bind usableValue).isSome ∧
      (tokenReport env name).valueLength = ((candidates env name).head?.bind usableValue).elim 0
        utf16Length := by
  unfold tokenReport
  dsimp only
  rw [tokenReport_value htrim]
  cases (candidates env name).head? with
  | none => exact ⟨by decide, by decide⟩
  | some value =>
    rw [Option.bind_some]
    have hnormalized :
        (if truthy (some value) then normalizeEnvValue ((some value).getD "") else "") =
        (usableValue value).getD "" := by
      unfold truthy usableValue
      by_cases hvalue : value = ""
      · simp [hvalue]
      · by_cases hblank : normalizeEnvValue value = ""
        · simp [hvalue, hblank]
        · simp [hvalue, hblank]
    rw [hnormalized]
    cases husable : usableValue value with
    | none => exact ⟨by decide, by decide⟩
    | some n =>
      rw [Option.getD_some]
      exact ⟨bne_iff_ne.2 (usableValue_ne_empty husable), rfl⟩

/-- **The report of a token** tells what the resolver finds exactly if the first entry decides. -/
theorem tokenReport_tells_iff (htrim : trim name = name) :
    (tokenReport env name).Tells (runtimeEnv env name) ↔ FirstDecides env name := by
  obtain ⟨hpresent, hlength⟩ := @tokenReport_eq env name htrim
  rw [TokenReport.Tells, hpresent, hlength, runtimeEnv_eq, ← firstDecides_iff]
  constructor
  · rintro ⟨hsome, -⟩
    cases hfirst : (candidates env name).head?.bind usableValue with
    | some n => exact (findSome?_of_head hfirst).symm
    | none =>
      rw [hfirst] at hsome
      cases hfound : (candidates env name).findSome? usableValue with
      | none => rfl
      | some n =>
        rw [hfound] at hsome
        exact absurd (hsome.2 rfl) Bool.false_ne_true
  · intro heq
    rw [heq]
    exact ⟨Iff.rfl, rfl⟩

/-- Of the values `runtimeEnv` answers, none is empty. -/
theorem truthy_runtimeEnv : truthy (runtimeEnv env name) = (runtimeEnv env name).isSome := by
  cases hfound : runtimeEnv env name with
  | none => rfl
  | some n => exact bne_iff_ne.2 (runtimeEnv_ne_empty hfound)

theorem hasRailwayGraphqlCredential_eq :
    hasRailwayGraphqlCredential env = allTokenKeys.any fun name =>
      (runtimeEnv env name).isSome := by
  simp only [hasRailwayGraphqlCredential, allTokenKeys, List.any_append, truthy_runtimeEnv]

theorem lookup_map_name {β : Type} {names : List String} {f : String → β} (h : name ∈ names) :
    (names.map fun name => (name, f name)).lookup name = some (f name) := by
  induction names with
  | nil => cases h
  | cons a names ih =>
    rw [List.map_cons, List.lookup_cons]
    by_cases ha : name = a
    · subst ha
      rw [beq_self_eq_true]
    · rw [beq_eq_false_iff_ne.2 ha]
      exact ih ((List.mem_cons.1 h).resolve_left ha)

end Values

/-- **The diagnostics** tell what the resolver does exactly if for every token the first entry under
its name is not blank, or every one is. -/
theorem snapshot_tells_iff (platform : String) (env : Environment) :
    (getRailwayEnvDebugSnapshot platform env).Tells env ↔
      ∀ name ∈ allTokenKeys, FirstDecides env name := by
  have htrim : ∀ name ∈ allTokenKeys, trim name = name := by decide
  have hlookup : ∀ name ∈ allTokenKeys,
      (getRailwayEnvDebugSnapshot platform env).tokens.lookup name = some (tokenReport env name) :=
    fun name hname => lookup_map_name hname
  constructor
  · rintro ⟨htokens, -⟩ name hname
    obtain ⟨report, hreport, htells⟩ := htokens name hname
    cases (hlookup name hname).symm.trans hreport
    exact (tokenReport_tells_iff (htrim name hname)).1 htells
  · intro hdecides
    have htells : ∀ name ∈ allTokenKeys, (tokenReport env name).Tells (runtimeEnv env name) :=
      fun name hname => (tokenReport_tells_iff (htrim name hname)).2 (hdecides name hname)
    refine ⟨fun name hname => ⟨_, hlookup name hname, htells name hname⟩, ?_⟩
    rw [hasRailwayGraphqlCredential_eq, getRailwayEnvDebugSnapshot]
    dsimp only
    rw [List.any_map, Bool.eq_iff_iff, List.any_eq_true, List.any_eq_true]
    exact exists_congr fun name => and_congr_right fun hname => (htells name hname).1

/-- A token that is set and blank in `/proc/self/environ`, and set in `process.env`. -/
def blankThenSet : Environment := ⟨some [("RAILWAY_TOKEN", "")], [("RAILWAY_TOKEN", "secret")]⟩

/-- **The diagnostics do not always tell**: the resolver finds the token that they report as
missing. -/
theorem snapshot_misses_token :
    ¬ ∀ platform env, (getRailwayEnvDebugSnapshot platform env).Tells env := by
  intro h
  have htells := (h "linux" blankThenSet).2
  have hsnapshot : (getRailwayEnvDebugSnapshot "linux" blankThenSet).hasCredential = false := by
    decide +kernel
  have hresolver : hasRailwayGraphqlCredential blankThenSet = true := by decide +kernel
  rw [hsnapshot, hresolver] at htells
  cases htells

end PeHackathon.Watchdog
