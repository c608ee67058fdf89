import PeHackathon.Lib.Expiry
import PeHackathon.Lib.Pool

/-!
# Bans of an IP

`app/ip_ban.py`: the records of an IP in Redis (its strikes, a timed ban, a permanent ban), the
functions that read and change them, and what each Redis command does. Redis counts milliseconds,
and answers `TTL` in seconds, rounded: in the last half second of a ban the answer is 0. A command
may raise, before Redis has executed it or after, and the function then ends in its `except` branch.

Every text under the keys for strikes and permanent bans is `json.dumps` of the dictionary `info`;
it is kept as that dictionary, with `none` for a key that is missing.
-/

namespace PeHackathon.UrlShortener

open Lib

/-! ## Records -/

def hourBanDuration : Nat := 3600

def maxHourBans : Nat := 3

/-- The dictionary `info`. -/
structure StrikeInfo where
  strikes : Option Nat
  hourBans : Option Nat
  warned : Option Bool
  deriving DecidableEq, Repr

/-- `{}`. -/
def StrikeInfo.empty : StrikeInfo := ⟨none, none, none⟩

/-- `{"strikes": 0, "hour_bans": 0, "warned": False}`. -/
def StrikeInfo.fresh : StrikeInfo := ⟨some 0, some 0, some false⟩

/-- The keys of an IP. -/
inductive IpBanKey
  | strikes (ip : String)
  | banned (ip : String)
  | permanent (ip : String)
  deriving DecidableEq, Repr

namespace IpBanKey

/-- The key as the code writes it. -/
def render : IpBanKey → String
  | .strikes ip => "ip_ban:strikes:" ++ ip
  | .banned ip => "ip_ban:banned:" ++ ip
  | .permanent ip => "ip_ban:permanent:" ++ ip

/-- What a key holds; the text of a timed ban is `"1"`. -/
abbrev Value : IpBanKey → Type
  | .strikes _ => StrikeInfo
  | .banned _ => Unit
  | .permanent _ => StrikeInfo

end IpBanKey

/-- Redis, and its clock, in milliseconds. -/
structure BanWorld where
  now : Nat
  store : Expiring IpBanKey IpBanKey.Value

namespace BanWorld

/-- An empty Redis. -/
def start (now : Nat) : BanWorld := ⟨now, .empty⟩

/-- What is under a key now. -/
def get (w : BanWorld) (k : IpBanKey) : Option k.Value := w.store.get w.now k

def ttl (w : BanWorld) (k : IpBanKey) : Int := w.store.ttl w.now k

def set (w : BanWorld) (k : IpBanKey) (v : k.Value) : BanWorld :=
  { w with store := w.store.put k v none }

def setex (w : BanWorld) (k : IpBanKey) (seconds : Nat) (v : k.Value) : BanWorld :=
  { w with store := w.store.put k v (some (w.now + 1000 * seconds)) }

def delete (w : BanWorld) (k : IpBanKey) : BanWorld := { w with store := w.store.delete k }

/-- Of two writes of one key the second counts. -/
theorem setex_setex (w : BanWorld) (k : IpBanKey) (m n : Nat) (v v' : k.Value) :
    (w.setex k m v).setex k n v' = w.setex k n v' := by
  simp only [setex, Expiring.put_put]

/-- Time passes. -/
def elapse (w : BanWorld) (millis : Nat) : BanWorld := { w with now := w.now + millis }

end BanWorld

/-! ## Commands -/

/-- `time` is `time.time()`, which is no command; it answers in milliseconds. -/
inductive BanCall
  | exists (k : IpBanKey)
  | ttl (k : IpBanKey)
  | get (k : IpBanKey)
  | set (k : IpBanKey) (v : k.Value)
  | setex (k : IpBanKey) (seconds : Nat) (v : k.Value)
  | delete (k : IpBanKey)
  | time

abbrev BanReply : BanCall → Type
  | .exists _ => Bool
  | .ttl _ => Int
  | .get k => Option k.Value
  | .time => Nat
  | _ => Unit

/-- A command raised. -/
inductive BanError
  | raised

abbrev BanAnswer (q : BanCall) : Type := Except BanError (BanReply q)

abbrev BanProg := Prog BanAnswer

/-- What a command answers, and does. -/
def banServe (w : BanWorld) : (q : BanCall) → BanReply q × BanWorld
  | .exists k => ((w.get k).isSome, w)
  | .ttl k => (w.ttl k, w)
  | .get k => (w.get k, w)
  | .set k v => ((), w.set k v)
  | .setex k seconds v => ((), w.setex k seconds v)
  | .delete k => ((), w.delete k)
  | .time => (w.now, w)

def BanCall.isCommand : BanCall → Bool
  | .time => false
  | _ => true

/-- How a command ends. It may raise though Redis has executed it, when the answer does not arrive
within the `socket_timeout` of the client. -/
inductive Fate
  | answers
  | raises (executed : Bool)
  deriving DecidableEq

/-- Whether Redis executes the command. -/
def Fate.executes : Fate → Bool
  | .answers => true
  | .raises executed => executed

/-- What a command that ends so answers, and does. -/
def banRespond (fate : Fate) (w : BanWorld) (q : BanCall) : BanAnswer q × BanWorld :=
  match fate with
  | .answers => (.ok (banServe w q).1, (banServe w q).2)
  | .raises executed =>
    if !q.isCommand then (.ok (banServe w q).1, (banServe w q).2)
    else (.error .raised, if executed then (banServe w q).2 else w)

/-- A command does what it does if it is executed, and otherwise nothing. -/
theorem banRespond_world (fate : Fate) (w : BanWorld) (q : BanCall) :
    (banRespond fate w q).2 = if fate.executes then (banServe w q).2 else w := by
  cases fate with
  | answers => rfl
  | raises executed =>
    cases q with
    | time => exact (ite_self _).symm
    | _ => rfl

/-- Redis as its clients see it. The choice of a step is how the command ends. -/
def banServer (ι : Type) : Server BanAnswer ι Fate BanWorld where
  respond _ fate w q := some (banRespond fate w q)
  yields _ := true

/-- A command in a `try` block: if it raises, the function answers `failed`. -/
def attempt {α : Type} (failed : α) (q : BanCall) (k : BanReply q → BanProg α) : BanProg α :=
  .call q fun
    | .error _ => .ret failed
    | .ok r => k r

/-! ## The functions of the module -/

/-- Whether bans are enabled, and whether there is a Redis client. -/
structure IpBan where
  enabled : Bool
  redis : Bool

inductive BanAction
  | warning
  | hourBan
  | permanentBan
  | alreadyBanned
  | none
  deriving DecidableEq, Repr

structure ViolationResult where
  action : BanAction
  strikes : Nat
  hourBans : Nat
  banRemaining : Option Int
  deriving DecidableEq, Repr

/-- The answer when nothing is recorded. -/
def ViolationResult.none : ViolationResult := ⟨.none, 0, 0, Option.none⟩

/-- The answer to an IP that is banned. -/
def ViolationResult.alreadyBanned (banRemaining : Option Int) : ViolationResult :=
  ⟨.alreadyBanned, 0, 0, banRemaining⟩

/-- The part of `record_violation` after the strike data is loaded. Strikes are never negative, so
the `elif` of a strike that is not the first is an `else`. -/
def recordStrike (ip : String) (info : StrikeInfo) : BanProg ViolationResult :=
  let strikes := info.strikes.getD 0 + 1
  let info := { info with strikes := some strikes }
  let hourBans := info.hourBans.getD 0
  if strikes = 1 then
    -- First violation: warning only
    let info := { info with warned := some true }
    attempt .none (.setex (.strikes ip) 86400 info) fun _ =>
      .ret ⟨.warning, strikes, hourBans, none⟩
  else
    -- Second+ violation: ban
    let hourBans := hourBans + 1
    let info := { info with hourBans := some hourBans }
    if hourBans > maxHourBans then
      attempt .none (.set (.permanent ip) info) fun _ =>
      attempt .none (.delete (.banned ip)) fun _ =>
      attempt .none (.setex (.strikes ip) (86400 * 30) info) fun _ =>
        .ret ⟨.permanentBan, strikes, hourBans, none⟩
    else
      attempt .none (.setex (.banned ip) hourBanDuration ()) fun _ =>
      attempt .none (.setex (.strikes ip) 86400 info) fun _ =>
      -- Reset strikes after ban so next violation post-ban is strike 1 again (warning)
      attempt .none (.setex (.strikes ip) 86400 ⟨some 0, some hourBans, some false⟩) fun _ =>
        .ret ⟨.hourBan, strikes, hourBans, some hourBanDuration⟩

/-- Load current strike data. -/
def loadStrikes (ip : String) : BanProg ViolationResult :=
  attempt .none (.get (.strikes ip)) fun data => recordStrike ip (data.getD .fresh)

/-- Already temp-banned? -/
def checkTimedBan (ip : String) : BanProg ViolationResult :=
  attempt .none (.ttl (.banned ip)) fun (banTtl : Int) =>
    if banTtl > 0 then .ret (.alreadyBanned (some banTtl)) else loadStrikes ip

/-- Already permanently banned? -/
def checkPermanentBan (ip : String) : BanProg ViolationResult :=
  attempt .none (.exists (.permanent ip)) fun (found : Bool) =>
    if found then .ret (.alreadyBanned none) else checkTimedBan ip

/-- `record_violation`. -/
def recordViolation (app : IpBan) (ip : String) : BanProg ViolationResult :=
  if !app.enabled then .ret .none
  else if !app.redis then .ret .none
  else checkPermanentBan ip

/-- The dictionary of `get_ip_status`; `ban_expires_at` in milliseconds. -/
structure IpStatus where
  banned : Bool
  permanent : Bool
  strikes : Nat
  hourBans : Nat
  banExpiresAt : Option Int
  banRemaining : Option Int
  warned : Bool
  deriving DecidableEq, Repr

/-- The status without Redis, and when a command raises. -/
def IpStatus.unknown : IpStatus := ⟨false, false, 0, 0, none, none, false⟩

/-- The status of an IP that is permanently banned. -/
def permanentStatus (ip : String) : BanProg IpStatus :=
  attempt .unknown (.get (.permanent ip)) fun data =>
    let info := data.getD .empty
    .ret ⟨true, true, info.strikes.getD 5, info.hourBans.getD maxHourBans, none, none, true⟩

/-- The status of one whose timed ban has `banTtl` seconds left. -/
def timedStatus (ip : String) (banTtl : Int) : BanProg IpStatus :=
  attempt .unknown (.get (.strikes ip)) fun data =>
    let info := data.getD .empty
    attempt .unknown .time fun (now : Nat) =>
      .ret ⟨true, false, info.strikes.getD 0, info.hourBans.getD 0, some (now + 1000 * banTtl),
        some banTtl, true⟩

/-- Not banned: the strike info. -/
def strikeStatus (ip : String) : BanProg IpStatus :=
  attempt .unknown (.get (.strikes ip)) fun data =>
    let info := data.getD .fresh
    .ret ⟨false, false, info.strikes.getD 0, info.hourBans.getD 0, none, none,
      info.warned.getD false⟩

/-- `get_ip_status`. -/
def getIpStatus (app : IpBan) (ip : String) : BanProg IpStatus :=
  if !app.redis then .ret .unknown
  else
    attempt .unknown (.exists (.permanent ip)) fun (found : Bool) =>
    if found then permanentStatus ip
    else
      attempt .unknown (.ttl (.banned ip)) fun (banTtl : Int) =>
      if banTtl > 0 then timedStatus ip banTtl else strikeStatus ip

/-- `is_banned`, of which the first component. -/
def isBanned (app : IpBan) (ip : String) : BanProg Bool :=
  if !app.enabled then .ret false
  else do
    let status ← getIpStatus app ip
    return status.banned

/-- `unban_ip`. -/
def unbanIp (app : IpBan) (ip : String) : BanProg Bool :=
  if !app.redis then .ret false
  else
    attempt false (.delete (.permanent ip)) fun _ =>
    attempt false (.delete (.banned ip)) fun _ =>
    attempt false (.delete (.strikes ip)) fun _ =>
      .ret true

/-- Bans are enabled, and there is a Redis client. -/
def IpBan.on : IpBan := ⟨true, true⟩

/-! ## Strikes -/

/-- What `record_violation` writes for a strike, in order. -/
def strikeWrites (ip : String) (info : StrikeInfo) : List BanCall :=
  let strikes := info.strikes.getD 0 + 1
  let hourBans := info.hourBans.getD 0 + 1
  if strikes = 1 then
    [.setex (.strikes ip) 86400 { info with strikes := some strikes, warned := some true }]
  else if hourBans > maxHourBans then
    [.set (.permanent ip) { info with strikes := some strikes, hourBans := some hourBans },
      .delete (.banned ip),
      .setex (.strikes ip) (86400 * 30)
        { info with strikes := some strikes, hourBans := some hourBans }]
  else
    [.setex (.banned ip) hourBanDuration (),
      .setex (.strikes ip) 86400 { info with strikes := some strikes, hourBans := some hourBans },
      .setex (.strikes ip) 86400 ⟨some 0, some hourBans, some false⟩]

/-- What it answers. -/
def strikeResult (info : StrikeInfo) : ViolationResult :=
  let strikes := info.strikes.getD 0 + 1
  let hourBans := info.hourBans.getD 0
  if strikes = 1 then ⟨.warning, strikes, hourBans, none⟩
  else if hourBans + 1 > maxHourBans then ⟨.permanentBan, strikes, hourBans + 1, none⟩
  else ⟨.hourBan, strikes, hourBans + 1, some hourBanDuration⟩

/-- Commands one after the other, the first that raises ending the call. -/
def writeAll (result : ViolationResult) : List BanCall → BanProg ViolationResult
  | [] => .ret result
  | q :: rest => attempt .none q fun _ => writeAll result rest

theorem recordStrike_eq (ip : String) (info : StrikeInfo) :
    recordStrike ip info = writeAll (strikeResult info) (strikeWrites ip info) := by
  unfold recordStrike strikeWrites strikeResult
  dsimp only
  split
  · rfl
  · split <;> rfl

/-! ## Without failures -/

namespace BanWorld

/-- Commands, each with what it does. -/
def apply (w : BanWorld) (writes : List BanCall) : BanWorld :=
  writes.foldl (fun w q => (banServe w q).2) w

/-- What `record_violation` answers and does. -/
def violate (w : BanWorld) (ip : String) : ViolationResult × BanWorld :=
  if (w.get (.permanent ip)).isSome then (.alreadyBanned none, w)
  else if 0 < w.ttl (.banned ip) then (.alreadyBanned (some (w.ttl (.banned ip))), w)
  else
    let info := (w.get (.strikes ip)).getD .fresh
    (strikeResult info, w.apply (strikeWrites ip info))

/-- The IP is banned, as `EXISTS` and `TTL` tell it. -/
def Banned (w : BanWorld) (ip : String) : Prop :=
  (w.get (.permanent ip)).isSome ∨ 0 < w.ttl (.banned ip)

instance (w : BanWorld) (ip : String) : Decidable (w.Banned ip) :=
  inferInstanceAs (Decidable (_ ∨ _))

/-- A timed ban that is not over has less than half a second left, so that `TTL` answers 0. -/
def Closing (w : BanWorld) (ip : String) : Prop :=
  ∃ t, w.store (.banned ip) = some ⟨(), some t⟩ ∧ w.now ≤ t ∧ t < w.now + 500

/-- What `unban_ip` does. -/
def unban (w : BanWorld) (ip : String) : BanWorld :=
  ((w.delete (.permanent ip)).delete (.banned ip)).delete (.strikes ip)

end BanWorld

/-- Where there are several writes, the first bans the IP, and those after it do not lift the
ban. -/
theorem banned_apply_take (ip : String) (info : StrikeInfo) (w : BanWorld)
    (h : 2 ≤ (strikeWrites ip info).length) (n : Nat) :
    (w.apply ((strikeWrites ip info).take (n + 1))).Banned ip := by
  unfold strikeWrites at h ⊢
  dsimp only at h ⊢
  split at h
  · simp at h
  · rename_i hstrikes
    rw [if_neg hstrikes]
    split
    · left
      match n with
      | 0 | 1 | n + 2 =>
        simp [BanWorld.apply, banServe, BanWorld.set, BanWorld.setex, BanWorld.delete, BanWorld.get,
          Expiring.get, Expiring.entry, Expiring.put_ne, Expiring.delete_ne, Timed.live]
    · refine .inr (Expiring.ttl_pos.2 ⟨(), w.now + 1000 * hourBanDuration, ?_⟩)
      match n with
      | 0 | 1 | n + 2 =>
        simp [BanWorld.apply, banServe, BanWorld.setex, Expiring.entry, Expiring.put_ne, Timed.live,
          hourBanDuration]

/-- In the last half second of a ban `TTL` does not tell of it. -/
theorem BanWorld.Closing.ttl {w : BanWorld} {ip : String} (h : w.Closing ip) :
    ¬ 0 < w.ttl (.banned ip) := by
  obtain ⟨t, hstored, -, hlt⟩ := h
  rw [BanWorld.ttl, Expiring.ttl_pos]
  rintro ⟨v, t', he, hle⟩
  rw [Expiring.entry, hstored] at he
  cases (Option.filter_eq_some_iff.1 he).1
  omega

/-- Strike data is no ban. -/
theorem banned_setex_strikes {ip : String} {w : BanWorld} {seconds : Nat} {v : StrikeInfo} :
    (w.setex (.strikes ip) seconds v).Banned ip ↔ w.Banned ip := by
  simp [BanWorld.Banned, BanWorld.get, BanWorld.ttl, BanWorld.setex, Expiring.get, Expiring.ttl,
    Expiring.entry_put_ne]

/-- Strike data that is stored is there. -/
theorem get_setex_strikes {ip : String} {w : BanWorld} {seconds : Nat} {v : StrikeInfo} :
    (w.setex (.strikes ip) seconds v).get (.strikes ip) = some v := by
  simp [BanWorld.get, BanWorld.setex, Expiring.get, Expiring.entry_put_self, Timed.live]

section Eval

variable {ι : Type} {i : ι} {α : Type} (w : BanWorld) (ip : String)

@[simp] theorem eval_attempt (failed : α) (q : BanCall) (k : BanReply q → BanProg α) :
    (banServer ι).eval i .answers (attempt failed q k) w =
      (banServer ι).eval i .answers (k (banServe w q).1) (banServe w q).2 := rfl

theorem eval_writeAll (result : ViolationResult) (writes : List BanCall) :
    (banServer ι).eval i .answers (writeAll result writes) w = some (result, w.apply writes) := by
  induction writes generalizing w with
  | nil => rfl
  | cons q rest ih => exact ih (banServe w q).2

theorem eval_recordViolation :
    (banServer ι).eval i .answers (recordViolation .on ip) w = some (w.violate ip) := by
  change (banServer ι).eval i .answers
    (if (w.get (.permanent ip)).isSome then .ret (.alreadyBanned none) else checkTimedBan ip) w = _
  unfold BanWorld.violate
  split
  · rfl
  · change (banServer ι).eval i .answers
      (if w.ttl (.banned ip) > 0 then .ret (.alreadyBanned (some (w.ttl (.banned ip))))
        else loadStrikes ip) w = _
    split
    · rfl
    · change (banServer ι).eval i .answers
        (recordStrike ip ((w.get (.strikes ip)).getD .fresh)) w = _
      rw [recordStrike_eq, eval_writeAll]

theorem eval_unbanIp :
    (banServer ι).eval i .answers (unbanIp .on ip) w = some (true, w.unban ip) := rfl

/-- The status of an IP. -/
theorem eval_getIpStatus :
    ((banServer ι).eval i .answers (getIpStatus .on ip) w).map (·.1) = some
      (if (w.get (.permanent ip)).isSome then
        let info := (w.get (.permanent ip)).getD .empty
        ⟨true, true, info.strikes.getD 5, info.hourBans.getD maxHourBans, none, none, true⟩
      else if 0 < w.ttl (.banned ip) then
        let info := (w.get (.strikes ip)).getD .empty
        ⟨true, false, info.strikes.getD 0, info.hourBans.getD 0,
          some (w.now + 1000 * w.ttl (.banned ip)), some (w.ttl (.banned ip)), true⟩
      else
        let info := (w.get (.strikes ip)).getD .fresh
        ⟨false, false, info.strikes.getD 0, info.hourBans.getD 0, none, none,
          info.warned.getD false⟩) := by
  change ((banServer ι).eval i .answers
    (if (w.get (.permanent ip)).isSome then permanentStatus ip
      else attempt .unknown (.ttl (.banned ip)) fun (banTtl : Int) =>
        if banTtl > 0 then timedStatus ip banTtl else strikeStatus ip) w).map (·.1) = _
  split
  · rfl
  · change ((banServer ι).eval i .answers
      (if w.ttl (.banned ip) > 0 then timedStatus ip (w.ttl (.banned ip)) else strikeStatus ip)
        w).map (·.1) = _
    split <;> rfl

/-- The status of an IP says whether it is banned. -/
theorem eval_getIpStatus_banned :
    ((banServer ι).eval i .answers (getIpStatus .on ip) w).map (fun r => r.1.banned) =
      some (decide (w.Banned ip)) := by
  rw [show (fun r : IpStatus × BanWorld => r.1.banned) = IpStatus.banned ∘ Prod.fst from rfl,
    ← Option.map_map, eval_getIpStatus]
  by_cases hperm : (w.get (.permanent ip)).isSome
  · simp [BanWorld.Banned, hperm]
  · by_cases hban : 0 < w.ttl (.banned ip)
    · simp [BanWorld.Banned, hperm, hban]
    · simp [BanWorld.Banned, hperm, hban]

/-- The strikes in the status of an IP that is not banned. -/
theorem eval_getIpStatus_strikes (h : ¬ w.Banned ip) :
    ((banServer ι).eval i .answers (getIpStatus .on ip) w).map (fun r => r.1.strikes) =
      some (((w.get (.strikes ip)).getD .fresh).strikes.getD 0) := by
  obtain ⟨hperm, hban⟩ := not_or.1 h
  rw [show (fun r : IpStatus × BanWorld => r.1.strikes) = IpStatus.strikes ∘ Prod.fst from rfl,
    ← Option.map_map, eval_getIpStatus, if_neg hperm, if_neg hban]
  rfl

theorem eval_isBanned :
    ((banServer ι).eval i .answers (isBanned .on ip) w).map (·.1) =
      some ((w.get (.permanent ip)).isSome || decide (0 < w.ttl (.banned ip))) := by
  have hbanned : (banServer ι).eval i .answers (isBanned .on ip) w =
      ((banServer ι).eval i .answers (getIpStatus .on ip) w).map fun r => (r.1.banned, r.2) := by
    change (banServer ι).eval i .answers (getIpStatus .on ip >>= fun status => .ret status.banned)
      w = _
    rw [Server.eval_bind, Option.map_eq_bind]
    rfl
  rw [hbanned, Option.map_map]
  refine (eval_getIpStatus_banned (i := i) w ip).trans ?_
  cases hperm : (w.get (.permanent ip)).isSome <;> simp [BanWorld.Banned, hperm]

end Eval

end PeHackathon.UrlShortener
