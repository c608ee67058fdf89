import PeHackathon.Js.Text

/-!
# The environment of the watchdog

`runtimeEnv` (`server-runtime-env.ts`) and the settings the tick reads through it. A setting is read
anew at every use; one tick runs in one `Environment`.
-/

namespace PeHackathon.Watchdog

open Js

/-- What the process sees: the entries of `/proc/self/environ` (`none` where there is no such file)
and of `process.env`. -/
structure Environment where
  proc : Option (List (String × String))
  process : List (String × String)
  deriving DecidableEq

/-- A double or a single quote. -/
def isQuote (c : Char) : Bool := c.toNat = 34 || c.toNat = 39

/-- `s.slice(1, -1)` when `s` is inside two equal quotes. -/
def stripQuotes (s : List Char) : List Char :=
  match s.head?, s.getLast? with
  | some q, some q' => if 2 ≤ s.length ∧ isQuote q ∧ q' = q then s.tail.dropLast else s
  | _, _ => s

def normalizeEnvValue (v : String) : String :=
  String.ofList (trimChars (stripQuotes (trimChars v.toList)))

/-- The value of an entry, when something is left of it. -/
def usableValue (v : String) : Option String :=
  if v = "" ∨ normalizeEnvValue v = "" then none else some (normalizeEnvValue v)

/-- The entry under exactly this key, else the first one under this key with spaces around it. -/
def lookupEntry (entries : List (String × String)) (preferredKey : String) : Option String :=
  ((entries.lookup preferredKey).bind usableValue).or
    (entries.findSome? fun entry =>
      if trim entry.1 = trim preferredKey then usableValue entry.2 else none)

def runtimeEnv (env : Environment) (preferredKey : String) : Option String :=
  (env.proc.bind (lookupEntry · preferredKey)).or (lookupEntry env.process preferredKey)

theorem usableValue_ne_empty {v n : String} (h : usableValue v = some n) : n ≠ "" := by
  unfold usableValue at h
  split at h
  · exact absurd h (Option.some_ne_none n).symm
  · rename_i hv
    rw [← Option.some.inj h]
    exact fun hn => hv (.inr hn)

theorem lookupEntry_ne_empty {entries : List (String × String)} {key n : String}
    (h : lookupEntry entries key = some n) : n ≠ "" := by
  rcases Option.or_eq_some_iff.1 h with h | ⟨-, h⟩
  · obtain ⟨v, -, hv⟩ := Option.bind_eq_some_iff.1 h
    exact usableValue_ne_empty hv
  · obtain ⟨_, entry, _, -, hv, -⟩ := List.findSome?_eq_some_iff.1 h
    split at hv
    · exact usableValue_ne_empty hv
    · exact absurd hv (Option.some_ne_none n).symm

/-- A variable that is found is not empty. -/
theorem runtimeEnv_ne_empty {env : Environment} {key n : String}
    (h : runtimeEnv env key = some n) : n ≠ "" := by
  rcases Option.or_eq_some_iff.1 h with h | ⟨-, h⟩
  · obtain ⟨_, -, hv⟩ := Option.bind_eq_some_iff.1 h
    exact lookupEntry_ne_empty hv
  · exact lookupEntry_ne_empty h

/-! ## Settings -/

/-- `parseInt(runtimeEnv(key) ?? fallback, 10)`, or `otherwise` when that is not at least
`least`. -/
def envNumber (env : Environment) (key fallback : String) (least otherwise : Nat) : Nat :=
  (parseInt ((runtimeEnv env key).getD fallback)).atLeast least otherwise

def heartbeatMissThreshold (env : Environment) : Nat :=
  envNumber env "RAILWAY_HEARTBEAT_MISS_THRESHOLD" "2" 1 2

def heartbeatMaxRecoverPerEpoch (env : Environment) : Nat :=
  envNumber env "RAILWAY_HEARTBEAT_MAX_RECOVER" "1" 0 1

def heartbeatRecoverCooldownMs (env : Environment) : Nat :=
  envNumber env "RAILWAY_HEARTBEAT_RECOVER_COOLDOWN_MS" "3600000" 0 3600000

/-- Failures before lifecycle flips from online to exited. -/
def heartbeatExitFailureThreshold (env : Environment) : Nat :=
  envNumber env "RAILWAY_HEARTBEAT_EXIT_THRESHOLD" "2" 1 2

theorem heartbeatExitFailureThreshold_pos (env : Environment) :
    0 < heartbeatExitFailureThreshold env :=
  ParsedInt.least_le_atLeast (by decide)

def offWords : List String := ["0", "false", "no", "off"]

def onWords : List String := ["1", "true", "yes", "on"]

def envWord (env : Environment) (key fallback : String) : String :=
  toLowerCase (trim ((runtimeEnv env key).getD fallback))

def railwayWatchdogAutoRecoverEnabled (env : Environment) : Bool :=
  envWord env "RAILWAY_WATCHDOG_AUTO_RECOVER" "" ∉ offWords

def railwayHeartbeatEnabled (env : Environment) : Bool :=
  envWord env "RAILWAY_HEARTBEAT_ENABLED" "" ∉ offWords

def railwayHeartbeatRecoverEnabled (env : Environment) : Bool :=
  envWord env "RAILWAY_HEARTBEAT_RECOVER" "" ∈ onWords

def railwayHeartbeatExitRedeployEnabled (env : Environment) : Bool :=
  envWord env "RAILWAY_HEARTBEAT_EXIT_REDEPLOY" "1" ∉ offWords

/-- `Math.max(5, parseInt(.., 10) || 15)`: NaN and zero are falsy. -/
def railwayWatchdogIntervalSec (env : Environment) : ParsedInt :=
  match parseInt ((runtimeEnv env "RAILWAY_WATCHDOG_POLL_SEC").getD "15") with
  | .nan | .int 0 => .int 15
  | .infinite negative => if negative then .int 5 else .infinite false
  | .int n => .int (max 5 n)

def heartbeatInternalPort (env : Environment) : Nat :=
  match parseInt ((runtimeEnv env "RAILWAY_HEARTBEAT_INTERNAL_PORT").getD "8080") with
  | .int n => if 0 < n ∧ n < 65536 then n.toNat else 8080
  | _ => 8080

def shouldUsePrivateRailwayHeartbeat (env : Environment) : Bool :=
  let explicit := envWord env "RAILWAY_HEARTBEAT_USE_PRIVATE_URL" ""
  if explicit ∈ offWords then false
  else if explicit ∈ onWords then true
  else match runtimeEnv env "RAILWAY_PRIVATE_DOMAIN" with
    | some domain => trim domain ≠ ""
    | none => false

def railwayEnvironmentId (env : Environment) : String :=
  (runtimeEnv env "RAILWAY_ENVIRONMENT_ID").getD ""

/-- `railwayWatchdogAutoRecoverEnabled() && Boolean(environmentId)`. -/
def autoRecoverOn (env : Environment) : Bool :=
  railwayWatchdogAutoRecoverEnabled env && railwayEnvironmentId env != ""

end PeHackathon.Watchdog
