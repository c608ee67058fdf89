import Mathlib.Data.List.Nodup
import Mathlib.Logic.Relation
import PeHackathon.Python.Replace
import PeHackathon.UrlShortener.IpBan

/-!
# The list of bans

`get_all_banned_ips` of `app/ip_ban.py`, which goes through the keys of the bans with `SCAN`, next
to `get_ip_status`. `ban_list_iff`: in every state that violations, unbans and time lead to, an IP
is in the list once, with what its status says, if it is banned, and not otherwise, just when no key
of a permanent ban is returned twice and no timed ban is in its last half second, when its key is
there and `TTL` answers 0.
-/

namespace PeHackathon.UrlShortener

open Lib

/-! ## The function -/

def permanentPrefix : String := "ip_ban:permanent:"

def banPrefix : String := "ip_ban:banned:"

/-- What the calls of `SCAN` answer, one after the other, until the cursor is 0: keys of a kind,
each by its IP. Every key that is there is returned, once or more. -/
structure KeyScan (w : BanWorld) (key : String → IpBanKey) where
  pages : List (List String)
  exact : ∀ ip, ip ∈ pages.flatten ↔ (w.get (key ip)).isSome

/-- An entry of the list. -/
structure BannedIp where
  ip : String
  permanent : Bool
  hourBans : Nat
  strikes : Nat
  banRemaining : Option Int
  deriving DecidableEq, Repr

namespace BanWorld

variable (w : BanWorld)

/-- The entry for the key of a permanent ban. -/
def permanentEntry (ip : String) : BannedIp :=
  let key := IpBanKey.permanent ip
  let info := (w.get (.permanent ip)).getD .empty
  ⟨pyReplace key.render permanentPrefix "", true, info.hourBans.getD 0, info.strikes.getD 0, none⟩

/-- The IP in the key of a timed ban. -/
def timedIp (ip : String) : String := pyReplace (IpBanKey.banned ip).render banPrefix ""

/-- The entry for the key of a timed ban. -/
def timedEntry (ip : String) : BannedIp :=
  let ttl := w.ttl (.banned ip)
  let info := (w.get (.strikes (timedIp ip))).getD .empty
  ⟨timedIp ip, false, info.hourBans.getD 0, info.strikes.getD 0, some (if ttl > 0 then ttl else 0)⟩

/-- Scan for permanent bans. -/
def scanPermanent : List (List String) → List BannedIp → List BannedIp
  | [], banned => banned
  | keys :: pages, banned =>
    scanPermanent pages (keys.foldl (fun banned ip => banned ++ [w.permanentEntry ip]) banned)

/-- One key of a timed ban. -/
def addTimed (banned : List BannedIp) (ip : String) : List BannedIp :=
  -- Skip if already in permanent list
  if banned.any (fun b => b.ip == timedIp ip) then banned else banned ++ [w.timedEntry ip]

/-- Scan for timed bans. -/
def scanTimed : List (List String) → List BannedIp → List BannedIp
  | [], banned => banned
  | keys :: pages, banned => scanTimed pages (keys.foldl w.addTimed banned)

end BanWorld

/-- `get_all_banned_ips`, when no command raises. -/
def getAllBannedIps (app : IpBan) (w : BanWorld) (permanent : KeyScan w .permanent)
    (timed : KeyScan w .banned) :
    List BannedIp :=
  if !app.redis then [] else w.scanTimed timed.pages (w.scanPermanent permanent.pages [])

/-! ## States -/

/-- The text of an address: neither name of a kind of ban occurs in it. -/
def PlainIp (ip : String) : Prop :=
  ¬ permanentPrefix.toList <:+: ip.toList ∧ ¬ banPrefix.toList <:+: ip.toList

/-- A violation, an unban, or a while in which nothing happens. The commands of the calls may
raise. -/
inductive BanStep (w : BanWorld) : BanWorld → Prop
  | violation {app : IpBan} {ip : String} {result : ViolationResult} {w' : BanWorld}
      (hip : PlainIp ip)
      (h : (banServer Unit).Runs () (recordViolation app ip) w result w') : BanStep w w'
  | unban {app : IpBan} {ip : String} {done : Bool} {w' : BanWorld}
      (h : (banServer Unit).Runs () (unbanIp app ip) w done w') : BanStep w w'
  | elapse (millis : Nat) : BanStep w (w.elapse millis)

/-- A state that is reached from an empty Redis. -/
def BanReached (w : BanWorld) : Prop := ∃ now, Relation.ReflTransGen BanStep (.start now) w

/-- A write that stores a permanent ban with its counts, or a timed ban with its end. -/
def BanCall.Whole : BanCall → Prop
  | .set (.permanent ip) info => PlainIp ip ∧ info.strikes.isSome ∧ info.hourBans.isSome
  | .set _ _ => False
  | .setex (.permanent _) _ _ => False
  | .setex (.banned ip) _ _ => PlainIp ip
  | _ => True

/-- The bans that are stored have their counts and their ends. -/
structure WholeBans (w : BanWorld) : Prop where
  permanent : ∀ ip e, w.store (.permanent ip) = some e →
    PlainIp ip ∧ e.value.strikes.isSome ∧ e.value.hourBans.isSome
  banned : ∀ ip e, w.store (.banned ip) = some e → PlainIp ip ∧ e.expires.isSome

section States

variable {w w' : BanWorld} {ip : String}

theorem all_attempt {α : Type} {φ : BanCall → Prop} {failed : α} {q : BanCall}
    {k : BanReply q → BanProg α} (hq : φ q) (hk : ∀ r, (k r).All φ) :
    (attempt failed q k).All φ := by
  refine ⟨hq, fun r => ?_⟩
  cases r with
  | error => trivial
  | ok r => exact hk r

theorem recordStrike_whole (hip : PlainIp ip) (info : StrikeInfo) :
    (recordStrike ip info).All BanCall.Whole := by
  unfold recordStrike
  dsimp only
  split
  · exact all_attempt trivial fun _ => trivial
  · split
    · exact all_attempt ⟨hip, rfl, rfl⟩ fun _ => all_attempt trivial fun _ =>
        all_attempt trivial fun _ => trivial
    · exact all_attempt hip fun _ => all_attempt trivial fun _ => all_attempt trivial fun _ =>
        trivial

theorem recordViolation_whole (app : IpBan) (hip : PlainIp ip) :
    (recordViolation app ip).All BanCall.Whole := by
  unfold recordViolation
  split
  · trivial
  · split
    · trivial
    · refine all_attempt trivial fun found => ?_
      split
      · trivial
      · refine all_attempt trivial fun ttl => ?_
        split
        · trivial
        · exact all_attempt trivial fun data => recordStrike_whole hip _

theorem unbanIp_whole (app : IpBan) (ip : String) : (unbanIp app ip).All BanCall.Whole := by
  unfold unbanIp
  split
  · trivial
  · exact all_attempt trivial fun _ => all_attempt trivial fun _ => all_attempt trivial fun _ =>
      trivial

theorem WholeBans.put {k : IpBanKey} {v : k.Value} {expires : Option Nat} (h : WholeBans w)
    (hp : ∀ ip e, k = .permanent ip → w.store.put k v expires (.permanent ip) = some e →
      PlainIp ip ∧ e.value.strikes.isSome ∧ e.value.hourBans.isSome)
    (hb : ∀ ip e, k = .banned ip → w.store.put k v expires (.banned ip) = some e → PlainIp ip ∧
      e.expires.isSome) :
    WholeBans { w with store := w.store.put k v expires } := by
  constructor
  · intro ip e he
    by_cases hk : k = .permanent ip
    · exact hp ip e hk he
    · exact h.permanent ip e ((Expiring.put_ne _ _ _ (Ne.symm hk)).symm.trans he)
  · intro ip e he
    by_cases hk : k = .banned ip
    · exact hb ip e hk he
    · exact h.banned ip e ((Expiring.put_ne _ _ _ (Ne.symm hk)).symm.trans he)

theorem WholeBans.serve (h : WholeBans w) {q : BanCall} (hq : q.Whole) :
    WholeBans (banServe w q).2 := by
  cases q with
  | set k v =>
    cases k with
    | permanent ip =>
      refine h.put (fun ip' e hk he => ?_) nofun
      cases hk
      rw [Expiring.put_self] at he
      cases he
      exact hq
    | strikes ip => exact hq.elim
    | banned ip => exact hq.elim
  | setex k seconds v =>
    cases k with
    | permanent ip => exact hq.elim
    | strikes ip => exact h.put nofun nofun
    | banned ip =>
      refine h.put nofun fun ip' e hk he => ?_
      cases hk
      rw [Expiring.put_self] at he
      cases he
      exact ⟨hq, rfl⟩
  | delete k =>
    constructor
    · intro ip e he
      by_cases hk : k = .permanent ip
      · subst hk
        cases (Expiring.delete_self w.store (k := .permanent ip)).symm.trans he
      · exact h.permanent ip e ((Expiring.delete_ne _ (Ne.symm hk)).symm.trans he)
    · intro ip e he
      by_cases hk : k = .banned ip
      · subst hk
        cases (Expiring.delete_self w.store (k := .banned ip)).symm.trans he
      · exact h.banned ip e ((Expiring.delete_ne _ (Ne.symm hk)).symm.trans he)
  | «exists» k => exact h
  | ttl k => exact h
  | get k => exact h
  | time => exact h

theorem WholeBans.respond {q : BanCall} {fate : Fate} {r : BanAnswer q} (h : WholeBans w)
    (hq : q.Whole) (hr : (banServer Unit).respond () fate w q = some (r, w')) : WholeBans w' := by
  have hw : w' = (banRespond fate w q).2 := congrArg Prod.snd (Option.some.inj hr).symm
  rw [hw, banRespond_world]
  split
  · exact h.serve hq
  · exact h

theorem WholeBans.step (h : WholeBans w) (hs : BanStep w w') : WholeBans w' := by
  cases hs with
  | violation hip hrun =>
    exact hrun.inv (fun _ _ _ _ _ hq hw hr => WholeBans.respond hw hq hr)
      (recordViolation_whole _ hip) h
  | unban hrun =>
    exact hrun.inv (fun _ _ _ _ _ hq hw hr => WholeBans.respond hw hq hr) (unbanIp_whole _ _) h
  | elapse millis => exact ⟨h.permanent, h.banned⟩

/-- **Every ban that is ever stored** has its counts, or its end. -/
theorem BanReached.whole (h : BanReached w) : WholeBans w := by
  obtain ⟨now, hrun⟩ := h
  induction hrun with
  | refl => exact ⟨nofun, nofun⟩
  | tail _ hs ih => exact ih.step hs

end States

/-! ## The list -/

section List

variable {w : BanWorld} {ip : String}

theorem permanentEntry_ip (h : PlainIp ip) : (w.permanentEntry ip).ip = ip :=
  (pyReplace_append (by decide) h.1).trans String.empty_append

theorem timedIp_eq (h : PlainIp ip) : BanWorld.timedIp ip = ip :=
  (pyReplace_append (by decide) h.2).trans String.empty_append

theorem scanPermanent_eq (pages : List (List String)) (banned : List BannedIp) :
    w.scanPermanent pages banned = banned ++ pages.flatten.map w.permanentEntry := by
  induction pages generalizing banned with
  | nil => exact (List.append_nil banned).symm
  | cons keys pages ih =>
    have hkeys : ∀ (keys : List String) (banned : List BannedIp),
        keys.foldl (fun banned ip => banned ++ [w.permanentEntry ip]) banned = banned ++
          keys.map w.permanentEntry := by
      intro keys
      induction keys with
      | nil => exact fun banned => (List.append_nil banned).symm
      | cons key keys ih => exact fun banned => (ih _).trans (List.append_cons banned _ _).symm
    rw [BanWorld.scanPermanent, hkeys, ih, List.flatten_cons, List.map_append, List.append_assoc]

theorem scanTimed_eq (pages : List (List String)) (banned : List BannedIp) :
    w.scanTimed pages banned = pages.flatten.foldl w.addTimed banned := by
  induction pages generalizing banned with
  | nil => rfl
  | cons keys pages ih => rw [BanWorld.scanTimed, ih, List.flatten_cons, List.foldl_append]

/-- The entries of an IP. -/
def entriesOf (ip : String) (banned : List BannedIp) : List BannedIp :=
  banned.filter fun b => b.ip == ip

theorem any_ip_iff {banned : List BannedIp} :
    banned.any (fun b => b.ip == ip) = true ↔ entriesOf ip banned ≠ [] := by
  unfold entriesOf
  rw [List.any_eq_true, Ne, List.filter_eq_nil_iff]
  push Not
  rfl

/-- The permanent bans of an IP are as many as the times its key is returned. -/
theorem entriesOf_permanent (keys : List String) (h : ∀ key ∈ keys, PlainIp key) :
    entriesOf ip (keys.map w.permanentEntry) = List.replicate (keys.count ip)
      (w.permanentEntry ip) := by
  induction keys with
  | nil => rfl
  | cons key keys ih =>
    obtain ⟨hkey, hkeys⟩ := List.forall_mem_cons.1 h
    have hrest := ih hkeys
    unfold entriesOf at hrest ⊢
    rw [List.map_cons, List.filter_cons, permanentEntry_ip hkey, List.count_cons, hrest]
    by_cases heq : key = ip
    · rw [if_pos (beq_iff_eq.2 heq), if_pos (beq_iff_eq.2 heq), heq, List.replicate_succ]
    · rw [if_neg (by simpa using heq), if_neg (by simpa using heq), Nat.add_zero]

theorem entriesOf_append_timed {key : String} (hkey : PlainIp key) (banned : List BannedIp) :
    entriesOf ip (banned ++ [w.timedEntry key]) =
      entriesOf ip banned ++ if key = ip then [w.timedEntry ip] else [] := by
  have hentry : (w.timedEntry key).ip = key := timedIp_eq hkey
  unfold entriesOf
  rw [List.filter_append]
  by_cases heq : key = ip
  · rw [if_pos heq, List.filter_cons_of_pos (by simpa [hentry] using heq), heq]
    rfl
  · rw [if_neg heq, List.filter_cons_of_neg (by simpa [hentry] using heq)]
    rfl

theorem entriesOf_addTimed {key : String} (hkey : PlainIp key) (banned : List BannedIp) :
    entriesOf ip (w.addTimed banned key) =
      if key = ip ∧ entriesOf ip banned = [] then [w.timedEntry ip] else entriesOf ip banned := by
  unfold BanWorld.addTimed
  rw [timedIp_eq hkey]
  by_cases hnew : key = ip ∧ entriesOf ip banned = []
  · rw [if_pos hnew]
    obtain ⟨rfl, hnone⟩ := hnew
    rw [if_neg fun hany => any_ip_iff.1 hany hnone, entriesOf_append_timed hkey, hnone, if_pos rfl]
    rfl
  · rw [if_neg hnew]
    split
    · rfl
    · rename_i hany
      have heq : key ≠ ip :=
        fun heq => hnew ⟨heq, by_contra fun hnone => hany (any_ip_iff.2 (heq ▸ hnone))⟩
      rw [entriesOf_append_timed hkey, if_neg heq, List.append_nil]

/-- A timed ban is added once, unless the IP is there. -/
theorem entriesOf_timed (keys : List String) (h : ∀ key ∈ keys, PlainIp key)
    (banned : List BannedIp) :
    entriesOf ip (keys.foldl w.addTimed banned) =
      if ip ∈ keys ∧ entriesOf ip banned = [] then [w.timedEntry ip] else entriesOf ip banned := by
  induction keys generalizing banned with
  | nil => exact (if_neg fun hin => List.not_mem_nil hin.1).symm
  | cons key keys ih =>
    obtain ⟨hkey, hkeys⟩ := List.forall_mem_cons.1 h
    rw [List.foldl_cons, ih hkeys, entriesOf_addTimed hkey]
    by_cases hnew : key = ip ∧ entriesOf ip banned = []
    · have hin : ip ∈ key :: keys ∧ entriesOf ip banned = [] :=
        ⟨List.mem_cons.2 (.inl hnew.1.symm), hnew.2⟩
      rw [if_pos hnew, if_pos hin]
      exact if_neg fun hcons => List.cons_ne_nil _ _ hcons.2
    · rw [if_neg hnew]
      by_cases hnone : entriesOf ip banned = []
      · have heq : ¬ ip = key := fun heq => hnew ⟨heq.symm, hnone⟩
        simp only [List.mem_cons, heq, false_or]
      · have hnot : ∀ keys : List String, ¬ (ip ∈ keys ∧ entriesOf ip banned = []) :=
          fun _ hin => hnone hin.2
        rw [if_neg (hnot keys), if_neg (hnot (key :: keys))]

end List

/-! ## Agreement -/

/-- What the list says about every IP is what its status says: one entry where it is banned, and
none otherwise. -/
def ListsAsStatus (w : BanWorld) (banned : List BannedIp) : Prop :=
  ∀ ip status, ((banServer Unit).eval () .answers (getIpStatus .on ip) w).map (·.1) = some status →
    if status.banned then
      ∃ b, entriesOf ip banned = [b] ∧ b.permanent = status.permanent ∧
        b.hourBans = status.hourBans ∧
        b.strikes = status.strikes
    else entriesOf ip banned = []

section Agreement

variable {w : BanWorld} {ip : String} {permanent : KeyScan w .permanent} {timed : KeyScan w .banned}

theorem WholeBans.get_permanent (h : WholeBans w) {info : StrikeInfo}
    (hget : w.get (.permanent ip) = some info) :
    PlainIp ip ∧ info.strikes.isSome ∧ info.hourBans.isSome := by
  obtain ⟨e, he, rfl⟩ := Option.map_eq_some_iff.1 hget
  exact h.permanent ip e (Option.filter_eq_some_iff.1 he).1

/-- The key of a timed ban is there while `TTL` tells of the ban, and in its last half second. -/
theorem WholeBans.get_banned (h : WholeBans w) :
    (w.get (.banned ip)).isSome ↔ 0 < w.ttl (.banned ip) ∨ w.Closing ip := by
  rw [BanWorld.get, Expiring.get, Option.isSome_map, BanWorld.ttl, Expiring.ttl_pos]
  constructor
  · intro hsome
    obtain ⟨⟨⟨⟩, expires⟩, he⟩ := Option.isSome_iff_exists.1 hsome
    obtain ⟨hstore, hlive⟩ := Option.filter_eq_some_iff.1 he
    obtain ⟨t, rfl⟩ := Option.isSome_iff_exists.1 (h.banned ip _ hstore).2
    by_cases hleft : w.now + 500 ≤ t
    · exact .inl ⟨(), t, he, hleft⟩
    · exact .inr ⟨t, hstore, of_decide_eq_true hlive, Nat.lt_of_not_le hleft⟩
  · rintro (⟨v, t, he, -⟩ | ⟨t, hstore, hle, -⟩)
    · rw [he]
      rfl
    · have he : w.store.entry w.now (.banned ip) = some ⟨(), some t⟩ :=
        Option.filter_eq_some_iff.2 ⟨hstore, decide_eq_true hle⟩
      rw [he]
      rfl

theorem WholeBans.plain_permanent (h : WholeBans w) :
    ∀ key ∈ permanent.pages.flatten, PlainIp key := by
  intro key hkey
  obtain ⟨info, hinfo⟩ := Option.isSome_iff_exists.1 ((permanent.exact key).1 hkey)
  exact (h.get_permanent hinfo).1

theorem WholeBans.plain_timed (h : WholeBans w) : ∀ key ∈ timed.pages.flatten, PlainIp key := by
  intro key hkey
  obtain ⟨v, hv⟩ := Option.isSome_iff_exists.1 ((timed.exact key).1 hkey)
  obtain ⟨e, he, -⟩ := Option.map_eq_some_iff.1 hv
  exact (h.banned key e (Option.filter_eq_some_iff.1 he).1).1

/-- **The entries of an IP**: one for each time the key of its permanent ban is returned, or one for
its timed ban. -/
theorem entriesOf_list (h : WholeBans w) :
    entriesOf ip (getAllBannedIps .on w permanent timed) =
      if (w.get (.permanent ip)).isSome then
        List.replicate (permanent.pages.flatten.count ip) (w.permanentEntry ip)
      else if (w.get (.banned ip)).isSome then [w.timedEntry ip] else [] := by
  change entriesOf ip (w.scanTimed timed.pages (w.scanPermanent permanent.pages [])) = _
  rw [scanTimed_eq, scanPermanent_eq, List.nil_append, entriesOf_timed _ h.plain_timed,
    entriesOf_permanent _ h.plain_permanent]
  by_cases hperm : (w.get (.permanent ip)).isSome
  · have hcount : permanent.pages.flatten.count ip ≠ 0 := fun hzero =>
      List.count_eq_zero.1 hzero ((permanent.exact ip).2 hperm)
    rw [if_pos hperm, if_neg fun hin => hcount ((List.replicate_eq_nil_iff _).1 hin.2)]
  · have hcount : permanent.pages.flatten.count ip = 0 := List.count_eq_zero.2 fun hin =>
      hperm ((permanent.exact ip).1 hin)
    rw [if_neg hperm, hcount, List.replicate_zero]
    by_cases hban : (w.get (.banned ip)).isSome
    · rw [if_pos ⟨(timed.exact ip).2 hban, rfl⟩, if_pos hban]
    · rw [if_neg fun h => hban ((timed.exact ip).1 h.1), if_neg hban]

/-- The entry of an IP that is banned for good says what its status says. -/
theorem permanentEntry_agrees (h : WholeBans w) {info : StrikeInfo}
    (hinfo : w.get (.permanent ip) = some info) :
    (w.permanentEntry ip).hourBans = info.hourBans.getD maxHourBans ∧
      (w.permanentEntry ip).strikes = info.strikes.getD 5 := by
  obtain ⟨-, hstrikes, hbans⟩ := h.get_permanent hinfo
  obtain ⟨strikes, hstrikes⟩ := Option.isSome_iff_exists.1 hstrikes
  obtain ⟨bans, hbans⟩ := Option.isSome_iff_exists.1 hbans
  simp [BanWorld.permanentEntry, hinfo, hstrikes, hbans]

/-- **The list agrees with the status of every IP** if and only if `SCAN` returns no key of a
permanent ban twice, and no timed ban is in its last half second but that of an IP that is banned
for good. -/
theorem ban_list_iff (h : BanReached w) (permanent : KeyScan w .permanent)
    (timed : KeyScan w .banned) :
    ListsAsStatus w (getAllBannedIps .on w permanent timed) ↔
      permanent.pages.flatten.Nodup ∧ ∀ ip, w.Closing ip → (w.get (.permanent ip)).isSome := by
  have hwhole := h.whole
  constructor
  · intro hlist
    refine ⟨List.nodup_iff_count_le_one.2 fun ip => ?_, fun ip hclosing => ?_⟩
    · by_contra hcount
      have hin : ip ∈ permanent.pages.flatten := List.count_pos_iff.1 (by omega)
      have hperm := (permanent.exact ip).1 hin
      have hentries := hlist ip _ (eval_getIpStatus w ip)
      rw [if_pos hperm, entriesOf_list hwhole, if_pos hperm] at hentries
      obtain ⟨b, hb, -⟩ := hentries
      have hlen := congrArg List.length hb
      rw [List.length_replicate, List.length_singleton] at hlen
      omega
    · by_contra hperm
      have hentries := hlist ip _ (eval_getIpStatus w ip)
      rw [if_neg hperm, if_neg hclosing.ttl, entriesOf_list hwhole, if_neg hperm,
        if_pos (hwhole.get_banned.2 (.inr hclosing))] at hentries
      cases hentries
  · rintro ⟨hnodup, hclosing⟩ ip status hstatus
    rw [eval_getIpStatus, Option.some.injEq] at hstatus
    subst hstatus
    rw [entriesOf_list hwhole]
    by_cases hperm : (w.get (.permanent ip)).isSome
    · obtain ⟨info, hinfo⟩ := Option.isSome_iff_exists.1 hperm
      have hcount : permanent.pages.flatten.count ip = 1 :=
        List.count_eq_one_of_mem hnodup ((permanent.exact ip).2 hperm)
      obtain ⟨hbans, hstrikes⟩ := permanentEntry_agrees hwhole hinfo
      rw [if_pos hperm, if_pos hperm, hcount, hinfo]
      exact ⟨_, rfl, rfl, hbans, hstrikes⟩
    · rw [if_neg hperm, if_neg hperm]
      by_cases hban : 0 < w.ttl (.banned ip)
      · have hsome := hwhole.get_banned.2 (.inl hban)
        obtain ⟨v, hv⟩ := Option.isSome_iff_exists.1 hsome
        obtain ⟨e, he, -⟩ := Option.map_eq_some_iff.1 hv
        have hip := (hwhole.banned ip e (Option.filter_eq_some_iff.1 he).1).1
        rw [if_pos hban, if_pos hsome]
        exact ⟨_, rfl, rfl, by rw [BanWorld.timedEntry, timedIp_eq hip],
          by rw [BanWorld.timedEntry, timedIp_eq hip]⟩
      · have hnone : ¬ (w.get (.banned ip)).isSome := fun hsome =>
          hperm (hclosing ip ((hwhole.get_banned.1 hsome).resolve_left hban))
        rw [if_neg hban, if_neg hnone]
        rfl

end Agreement

/-! ## A permanent ban -/

/-- Violations of an IP, each so many milliseconds after the one before. -/
def offend (ip : String) (w : BanWorld) (pauses : List Nat) : BanWorld :=
  pauses.foldl (fun w millis => ((w.elapse millis).violate ip).2) w

theorem offend_reached {ip : String} (hip : PlainIp ip) {w : BanWorld} (h : BanReached w)
    (pauses : List Nat) :
    BanReached (offend ip w pauses) := by
  induction pauses generalizing w with
  | nil => exact h
  | cons millis pauses ih =>
    obtain ⟨now, hrun⟩ := h
    have hviolation := Server.runs_of_eval _ _ (eval_recordViolation (i := ()) (w.elapse millis) ip)
    exact ih ⟨now, (hrun.tail (.elapse millis)).tail (.violation hip hviolation)⟩

/-- The bans of the other IPs are not touched. -/
theorem violate_other {ip ip' : String} (h : ip' ≠ ip) (w : BanWorld) :
    (w.violate ip).2.store (.permanent ip') = w.store (.permanent ip') ∧
      (w.violate ip).2.store (.banned ip') = w.store (.banned ip') := by
  unfold BanWorld.violate
  split
  · exact ⟨rfl, rfl⟩
  · split
    · exact ⟨rfl, rfl⟩
    · dsimp only
      unfold strikeWrites
      dsimp only
      split
      · simp [BanWorld.apply, banServe, BanWorld.setex, Expiring.put_ne]
      · split
        · simp [BanWorld.apply, banServe, BanWorld.set, BanWorld.setex, BanWorld.delete,
            Expiring.put_ne, Expiring.delete_ne, h]
        · simp [BanWorld.apply, banServe, BanWorld.setex, Expiring.put_ne, h]

theorem offend_store {ip ip' : String} (h : ip' ≠ ip) (now : Nat) (pauses : List Nat) :
    (offend ip (.start now) pauses).store (.permanent ip') = none ∧
      (offend ip (.start now) pauses).store (.banned ip') = none := by
  have hstore : ∀ w : BanWorld, w.store (.permanent ip') = none ∧ w.store (.banned ip') = none →
      (offend ip w pauses).store (.permanent ip') = none ∧
        (offend ip w pauses).store (.banned ip') = none := by
    induction pauses with
    | nil => exact fun w hw => hw
    | cons millis pauses ih =>
      intro w hw
      obtain ⟨hp, hb⟩ := violate_other h (w.elapse millis)
      exact ih _ ⟨hp.trans hw.1, hb.trans hw.2⟩
  exact hstore (.start now) ⟨rfl, rfl⟩

theorem offend_other {ip ip' : String} (h : ip' ≠ ip) (now : Nat) (pauses : List Nat) :
    (offend ip (.start now) pauses).get (.permanent ip') = none ∧
      (offend ip (.start now) pauses).get (.banned ip') = none := by
  obtain ⟨hp, hb⟩ := offend_store h now pauses
  constructor
  · rw [BanWorld.get, Expiring.get, Expiring.entry, hp]
    rfl
  · rw [BanWorld.get, Expiring.get, Expiring.entry, hb]
    rfl

/-- Eight violations, two for each ban. -/
def expelled : BanWorld := offend "1.2.3.4" (.start 0) [0, 0, 3600001, 0, 3600001, 0, 3600001, 0]

theorem expelled_reached : BanReached expelled :=
  offend_reached (by unfold PlainIp; decide) ⟨0, .refl⟩ _

theorem expelled_permanent (ip : String) :
    ip = "1.2.3.4" ↔ (expelled.get (.permanent ip)).isSome := by
  constructor
  · rintro rfl
    decide +kernel
  · intro h
    by_contra hne
    unfold expelled at h
    rw [(offend_other hne 0 _).1] at h
    cases h

/-- Its key, returned `n + 1` times. -/
def expelledScan (n : Nat) : KeyScan expelled .permanent where
  pages := List.replicate (n + 1) ["1.2.3.4"]
  exact ip := by
    rw [← expelled_permanent, List.mem_flatten]
    constructor
    · rintro ⟨page, hpage, hip⟩
      rw [List.eq_of_mem_replicate hpage] at hip
      exact List.mem_singleton.1 hip
    · rintro rfl
      exact ⟨_, List.mem_replicate.2 ⟨Nat.succ_ne_zero n, rfl⟩, List.mem_singleton.2 rfl⟩

/-- No key of a timed ban. -/
def noTimedScan : KeyScan expelled .banned where
  pages := [[]]
  exact ip := by
    constructor
    · intro h
      cases h
    · intro h
      by_cases hip : ip = "1.2.3.4"
      · subst hip
        exact absurd h (by decide +kernel)
      · unfold expelled at h
        rw [(offend_other hip 0 _).2] at h
        cases h

theorem expelled_closing (ip : String) : ¬ expelled.Closing ip := by
  have hnone : expelled.store (.banned ip) = none := by
    by_cases hip : ip = "1.2.3.4"
    · subst hip
      exact Option.isNone_iff_eq_none.1 (by decide +kernel)
    · exact (offend_store hip 0 _).2
  rintro ⟨t, hstored, -⟩
  rw [hnone] at hstored
  cases hstored

theorem ban_list_sample :
    ListsAsStatus expelled (getAllBannedIps .on expelled (expelledScan 0) noTimedScan) ∧
    (expelledScan 0).pages.flatten = ["1.2.3.4"] :=
  ⟨(ban_list_iff expelled_reached (expelledScan 0) noTimedScan).2
    ⟨List.nodup_singleton _, fun ip hclosing => absurd hclosing (expelled_closing ip)⟩, rfl⟩

/-- Where the key of a permanent ban is returned twice, the IP is in the list twice. -/
theorem banned_ip_listed_twice : BanReached expelled ∧
    ((banServer Unit).eval () .answers (getIpStatus .on "1.2.3.4") expelled).map (·.1.banned) =
      some true ∧
    (getAllBannedIps .on expelled (expelledScan 1) noTimedScan).map (·.ip) =
      ["1.2.3.4", "1.2.3.4"] ∧
    ¬ ListsAsStatus expelled (getAllBannedIps .on expelled (expelledScan 1) noTimedScan) := by
  refine ⟨expelled_reached, by decide +kernel, by decide +kernel, fun h => ?_⟩
  have hentries := h "1.2.3.4" _ (eval_getIpStatus expelled "1.2.3.4")
  rw [if_pos ((expelled_permanent "1.2.3.4").1 rfl)] at hentries
  obtain ⟨b, hb, -⟩ := hentries
  have hlen :
      (entriesOf "1.2.3.4"
        (getAllBannedIps .on expelled (expelledScan 1) noTimedScan)).length = 2 := by
    decide +kernel
  rw [hb] at hlen
  cases hlen

end PeHackathon.UrlShortener
