import Mathlib.Data.List.Chain
import Mathlib.Data.List.Sublists
import PeHackathon.UrlShortener.BanFault

/-!
# The strikes of an IP over time

Runs of `record_violation` and `unban_ip` for one IP, one after the other, while time passes. What
is stored in Redis keeps to `BanLaw`, save in the last half second of a timed ban, where `TTL`
answers 0 and a strike is recorded though the ban is live (`ban_law`). While the violations come
within a day of each other, those recorded are answered as the list `progression` says
(`progression_followed`): a warning before each of the three hour bans, and one more before the
permanent ban. `documented_iff`: when these answers are those that the module documents.
-/

namespace PeHackathon.UrlShortener

open Lib

/-! ## Runs -/

/-- A violation: when it came, whether a ban was live, whether `EXISTS` or `TTL` told of it, and its
answer. -/
structure Violation where
  time : Nat
  live : Bool
  told : Bool
  result : ViolationResult

/-- A ban of the IP is stored and not over. -/
def BanWorld.Live (w : BanWorld) (ip : String) : Prop :=
  (w.get (.permanent ip)).isSome ∨ (w.get (.banned ip)).isSome

instance (w : BanWorld) (ip : String) : Decidable (w.Live ip) := inferInstanceAs (Decidable (_ ∨ _))

/-- A violation that finds Redis so. -/
def BanWorld.violation (w : BanWorld) (ip : String) (result : ViolationResult) : Violation :=
  ⟨w.now, w.Live ip, w.Banned ip, result⟩

inductive BanEvent
  | violation (v : Violation)
  | unban

/-- A run for one IP from an empty Redis, with what happened, the newest first. -/
inductive BanRun (ip : String) : List BanEvent → BanWorld → Prop
  | start (now : Nat) : BanRun ip [] (.start now)
  | violation {l : List BanEvent} {w w' : BanWorld} {result : ViolationResult} (h : BanRun ip l w)
      (hv : (banServer Unit).eval () .answers (recordViolation .on ip) w = some (result, w')) :
      BanRun ip (.violation (w.violation ip result) :: l) w'
  | unban {l : List BanEvent} {w w' : BanWorld} {b : Bool} (h : BanRun ip l w)
      (hu : (banServer Unit).eval () .answers (unbanIp .on ip) w = some (b, w')) :
      BanRun ip (.unban :: l) w'
  | elapse {l : List BanEvent} {w : BanWorld} (h : BanRun ip l w) (millis : Nat) :
      BanRun ip l (w.elapse millis)

/-- The violations since the last unban, the newest first. -/
def sinceUnban : List BanEvent → List Violation
  | [] => []
  | .unban :: _ => []
  | .violation v :: l => v :: sinceUnban l

/-- Those that were recorded: Redis told of no ban. -/
def struck (l : List BanEvent) : List Violation := (sinceUnban l).filter fun v => !v.told

/-- Those that came while no ban was live. -/
def effective (l : List BanEvent) : List Violation := (sinceUnban l).filter fun v => !v.live

/-- A day, in milliseconds. -/
def day : Nat := 86400 * 1000

/-- Each comes less than a day after the one before it. -/
def WithinADay (l : List Violation) : Prop := l.IsChain fun v v' => v.time < v'.time + day

instance (l : List Violation) : Decidable (WithinADay l) :=
  inferInstanceAs (Decidable (List.IsChain _ l))

/-- The number of hour bans. -/
def hourBanCount (l : List Violation) : Nat := l.countP fun v => v.result.action == .hourBan

section Filters

variable {v : Violation} {l : List BanEvent}

theorem recorded_told (h : v.told = true) : struck (.violation v :: l) = struck l :=
  List.filter_cons_of_neg (by simp [h])

theorem recorded_cons (h : v.told = false) : struck (.violation v :: l) = v :: struck l :=
  List.filter_cons_of_pos (by simp [h])

theorem effective_live (h : v.live = true) : effective (.violation v :: l) = effective l :=
  List.filter_cons_of_neg (by simp [h])

theorem effective_cons (h : v.live = false) : effective (.violation v :: l) = v :: effective l :=
  List.filter_cons_of_pos (by simp [h])

end Filters

/-! ## What is stored -/

section Stored

variable {ip : String} {w : BanWorld}

/-- The records of an IP that is not permanently banned. -/
structure Standing (ip : String) (w : BanWorld) : Prop where
  permanent : w.store (.permanent ip) = none
  record : ∀ e, w.store (.strikes ip) = some e →
    (e.value.strikes = some 0 ∨ e.value.strikes = some 1) ∧
      ∃ n ≤ maxHourBans, e.value.hourBans = some n
  ban : ∀ e, w.store (.banned ip) = some e → ∃ t, e.expires = some t ∧
    (w.now + 500 ≤ t → ∃ info t', w.store (.strikes ip) = some ⟨info, some t'⟩ ∧ t < t' ∧
      info.strikes = some 0)

/-- The records of one that is. -/
structure Expelled (ip : String) (w : BanWorld) : Prop where
  permanent : ∃ info, w.store (.permanent ip) = some ⟨info, none⟩
  ban : w.store (.banned ip) = none

theorem Expelled.get (h : Expelled ip w) :
    (w.get (.permanent ip)).isSome ∧ w.get (.banned ip) = none := by
  obtain ⟨info, hinfo⟩ := h.permanent
  constructor
  · simp [BanWorld.get, Expiring.get, Expiring.entry, hinfo, Timed.live]
  · simp [BanWorld.get, Expiring.get, Expiring.entry, h.ban]

theorem Standing.get (h : Standing ip w) : w.get (.permanent ip) = none := by
  simp [BanWorld.get, Expiring.get, Expiring.entry, h.permanent]

/-- `TTL` tells of a ban that is stored, until its last half second. -/
theorem banTtl_pos : 0 < w.ttl (.banned ip) ↔
    ∃ t, w.store (.banned ip) = some ⟨(), some t⟩ ∧ w.now + 500 ≤ t := by
  rw [BanWorld.ttl, Expiring.ttl_pos]
  simp only [Expiring.entry, Option.filter_eq_some_iff, Timed.live, decide_eq_true_eq]
  constructor
  · rintro ⟨⟨⟩, t, ⟨hstored, -⟩, hleft⟩
    exact ⟨t, hstored, hleft⟩
  · rintro ⟨t, hstored, hleft⟩
    exact ⟨(), t, ⟨hstored, (Nat.le_add_right _ _).trans hleft⟩, hleft⟩

/-- What Redis tells of is live. -/
theorem BanWorld.Banned.live (h : w.Banned ip) : w.Live ip := by
  refine h.imp_right fun hban => ?_
  obtain ⟨v, t, he, -⟩ := Expiring.ttl_pos.1 hban
  rw [BanWorld.get, Expiring.get, he]
  rfl

/-- What a violation that counts does to an IP with `s` strikes and `n` hour bans. -/
inductive StrikeOutcome (ip : String) (w : BanWorld) : Nat → Nat → ViolationResult → BanWorld → Prop
  | warning (n : Nat) (info : StrikeInfo) (hs : info.strikes = some 1)
      (hn : info.hourBans = some n) :
      StrikeOutcome ip w 0 n ⟨.warning, 1, n, none⟩ (w.setex (.strikes ip) 86400 info)
  | hourBan (n : Nat) (info : StrikeInfo) (hn : n < maxHourBans) (hs : info.strikes = some 0)
      (hh : info.hourBans = some (n + 1)) :
      StrikeOutcome ip w 1 n ⟨.hourBan, 2, n + 1, some hourBanDuration⟩
        ((w.setex (.banned ip) hourBanDuration ()).setex (.strikes ip) 86400 info)
  | permanentBan (info : StrikeInfo) :
      StrikeOutcome ip w 1 maxHourBans ⟨.permanentBan, 2, maxHourBans + 1, none⟩
        (((w.set (.permanent ip) info).delete (.banned ip)).setex (.strikes ip) (86400 * 30) info)

/-- Everything a strike can do. -/
theorem strike_cases (ip : String) (w : BanWorld) {info : StrikeInfo} {s n : Nat}
    (hs : info.strikes = some s) (hn : info.hourBans = some n) (hle : s ≤ 1)
    (hmax : n ≤ maxHourBans) :
    StrikeOutcome ip w s n (strikeResult info) (w.apply (strikeWrites ip info)) := by
  obtain ⟨strikes, hourBans, warned⟩ := info
  cases hs
  cases hn
  unfold maxHourBans at hmax
  obtain rfl | rfl : s = 0 ∨ s = 1 := by omega
  · exact .warning n _ rfl rfl
  · obtain hlt | rfl : n < 3 ∨ n = 3 := by omega
    · have hnot : ¬ n + 1 > maxHourBans := by
        unfold maxHourBans
        omega
      have hout : StrikeOutcome ip w 1 n _ _ :=
        .hourBan n ⟨some 0, some (n + 1), some false⟩ hlt rfl rfl
      simp only [strikeResult, strikeWrites, Option.getD_some, Nat.reduceAdd, Nat.reduceEqDiff,
        if_false, if_neg hnot]
      rw [← BanWorld.setex_setex (w.setex (.banned ip) hourBanDuration ()) (.strikes ip) 86400 86400
        ⟨some 2, some (n + 1), warned⟩] at hout
      exact hout
    · exact .permanentBan _

/-- The strike data that a violation of an IP in good standing loads. -/
theorem Standing.loaded (h : Standing ip w) : ∃ s n,
    ((w.get (.strikes ip)).getD .fresh).strikes = some s ∧
      ((w.get (.strikes ip)).getD .fresh).hourBans = some n ∧ s ≤ 1 ∧ n ≤ maxHourBans := by
  cases hget : w.get (.strikes ip) with
  | none => exact ⟨0, 0, rfl, rfl, Nat.zero_le _, Nat.zero_le _⟩
  | some info =>
    obtain ⟨e, he, rfl⟩ := Option.map_eq_some_iff.1 hget
    obtain ⟨hs, n, hn, hh⟩ := h.record e (Option.filter_eq_some_iff.1 he).1
    rcases hs with hs | hs
    · exact ⟨0, n, hs, hh, Nat.zero_le _, hn⟩
    · exact ⟨1, n, hs, hh, le_refl _, hn⟩

/-- A violation that counts leaves the IP in good standing, or bans it for good. -/
theorem StrikeOutcome.next {s n : Nat} {result : ViolationResult} {w' : BanWorld}
    (ho : StrikeOutcome ip w s n result w') (h : Standing ip w) (hn : n ≤ maxHourBans)
    (hban : ¬ 0 < w.ttl (.banned ip)) :
    result.action ≠ .permanentBan ∧ Standing ip w' ∨
      result.action = .permanentBan ∧ Expelled ip w' := by
  cases ho with
  | warning _ info hs hh =>
    refine .inl ⟨by simp, ?_, fun e he => ?_, fun e he => ?_⟩
    · simpa [BanWorld.setex, Expiring.put_ne] using h.permanent
    · simp only [BanWorld.setex, Expiring.put_self, Option.some.injEq] at he
      subst he
      exact ⟨.inr hs, n, hn, hh⟩
    · simp only [BanWorld.setex, ne_eq, reduceCtorEq, not_false_eq_true, Expiring.put_ne] at he
      obtain ⟨t, ht, -⟩ := h.ban e he
      have hstored : w.store (.banned ip) = some ⟨(), some t⟩ := by rw [he, ← ht]
      exact ⟨t, ht, fun hlt => absurd (banTtl_pos.2 ⟨t, hstored, hlt⟩) hban⟩
  | hourBan _ info hlt hs hh =>
    refine .inl ⟨by simp, ?_, fun e he => ?_, fun e he => ?_⟩
    · simpa [BanWorld.setex, Expiring.put_ne] using h.permanent
    · simp only [BanWorld.setex, Expiring.put_self, Option.some.injEq] at he
      subst he
      exact ⟨.inl hs, n + 1, hlt, hh⟩
    · simp only [BanWorld.setex, ne_eq, reduceCtorEq, not_false_eq_true, Expiring.put_ne,
        Expiring.put_self, Option.some.injEq] at he
      subst he
      refine ⟨_, rfl, fun _ => ⟨info, w.now + 1000 * 86400, Expiring.put_self .., ?_, hs⟩⟩
      unfold hourBanDuration
      omega
  | permanentBan info =>
    refine .inr ⟨rfl, ⟨info, ?_⟩, ?_⟩
    · simp [BanWorld.setex, BanWorld.delete, BanWorld.set, Expiring.put_ne, Expiring.delete_ne]
    · simp [BanWorld.setex, BanWorld.delete, BanWorld.set, Expiring.put_ne]

/-- A strike takes no time. -/
theorem StrikeOutcome.now {s n : Nat} {result : ViolationResult} {w' : BanWorld}
    (ho : StrikeOutcome ip w s n result w') : w'.now = w.now := by
  cases ho <;> rfl

/-- A timed ban that is stored after a strike was stored before, or ends an hour later. -/
theorem StrikeOutcome.ban {s n : Nat} {result : ViolationResult} {w' : BanWorld}
    (ho : StrikeOutcome ip w s n result w') {e : Timed Unit} (he : w'.store (.banned ip) = some e) :
    w.store (.banned ip) = some e ∨ e.expires = some (w.now + 1000 * hourBanDuration) := by
  cases ho with
  | warning _ info =>
    left
    simpa [BanWorld.setex, Expiring.put_ne] using he
  | hourBan _ info =>
    right
    simp only [BanWorld.setex, ne_eq, reduceCtorEq, not_false_eq_true, Expiring.put_ne,
      Expiring.put_self, Option.some.injEq] at he
    subst he
    rfl
  | permanentBan info =>
    simp [BanWorld.setex, BanWorld.delete, BanWorld.set, Expiring.put_ne] at he

theorem Standing.elapse (h : Standing ip w) (millis : Nat) : Standing ip (w.elapse millis) where
  permanent := h.permanent
  record := h.record
  ban e he := by
    obtain ⟨t, ht, hrecord⟩ := h.ban e he
    exact ⟨t, ht, fun hleft => hrecord (by simp only [BanWorld.elapse] at hleft; omega)⟩

theorem Expelled.elapse (h : Expelled ip w) (millis : Nat) : Expelled ip (w.elapse millis) :=
  ⟨h.permanent, h.ban⟩

theorem standing_unban (ip : String) (w : BanWorld) :
    Standing ip (w.unban ip) ∧ (w.unban ip).store (.strikes ip) = none ∧
      (w.unban ip).store (.banned ip) = none := by
  have hnone : (w.unban ip).store (.permanent ip) = none ∧
      (w.unban ip).store (.banned ip) = none ∧ (w.unban ip).store (.strikes ip) = none := by
    simp [BanWorld.unban, BanWorld.delete, Expiring.delete_ne]
  obtain ⟨hperm, hban, hstrikes⟩ := hnone
  refine ⟨⟨hperm, fun e he => ?_, fun e he => ?_⟩, hstrikes, hban⟩
  · rw [hstrikes] at he
    cases he
  · rw [hban] at he
    cases he

end Stored

/-! ## What is answered -/

/-- What a violation was answered: the action, and the number of hour bans. -/
def outcome (v : Violation) : BanAction × Nat := (v.result.action, v.result.hourBans)

/-- The answers in order. -/
def progression : List (BanAction × Nat) :=
  [(.warning, 0), (.hourBan, 1), (.warning, 1), (.hourBan, 2), (.warning, 2), (.hourBan, 3),
    (.warning, 3), (.permanentBan, 4)]

section Track

variable {ip : String} {w w' : BanWorld} {v : Violation} {l : List Violation}

/-- After the violations `l` that were recorded: they were answered as `progression` says, and the
strike record, which lasts a day, tells how many they were. -/
structure OnTrack (ip : String) (l : List Violation) (w : BanWorld) : Prop where
  length : l.length ≤ 8
  answers : l.reverse.map outcome = progression.take l.length
  empty : l = [] → w.store (.strikes ip) = none
  record : l.length < 8 → Standing ip w ∧ ∀ v ∈ l.head?, ∃ info,
    w.store (.strikes ip) = some ⟨info, some (v.time + day)⟩ ∧
      info.strikes = some (l.length % 2) ∧ info.hourBans = some (l.length / 2)
  finished : l.length = 8 → Expelled ip w

theorem progression_next : ∀ k < 8, progression[k]? =
    some (if k % 2 = 0 then (.warning, k / 2)
      else if k / 2 < maxHourBans then (.hourBan, k / 2 + 1) else (.permanentBan, 4)) := by
  decide

theorem OnTrack.elapse (h : OnTrack ip l w) (millis : Nat) : OnTrack ip l (w.elapse millis) where
  length := h.length
  answers := h.answers
  empty := h.empty
  record hlt := ⟨(h.record hlt).1.elapse millis, (h.record hlt).2⟩
  finished heq := (h.finished heq).elapse millis

/-- The strike data that a violation loads tells how many were recorded before it. -/
theorem OnTrack.loaded (h : OnTrack ip l w) (hlt : l.length < 8)
    (hday : ∀ v ∈ l.head?, w.now < v.time + day) :
    ((w.get (.strikes ip)).getD .fresh).strikes = some (l.length % 2) ∧
      ((w.get (.strikes ip)).getD .fresh).hourBans = some (l.length / 2) := by
  cases l with
  | nil =>
    have hget : w.get (.strikes ip) = none := by
      simp [BanWorld.get, Expiring.get, Expiring.entry, h.empty rfl]
    rw [hget]
    exact ⟨rfl, rfl⟩
  | cons v l =>
    obtain ⟨info, hstored, hs, hn⟩ := (h.record hlt).2 v rfl
    have hget : w.get (.strikes ip) = some info := by
      simp [BanWorld.get, Expiring.get, Expiring.entry, hstored, Timed.live, (hday v rfl).le]
    rw [hget]
    exact ⟨hs, hn⟩

/-- A violation that leaves a strike record, and no permanent ban. -/
theorem OnTrack.recorded {info : StrikeInfo} (hlt : l.length < 7)
    (hanswers : (v :: l).reverse.map outcome = progression.take (v :: l).length)
    (hstanding : Standing ip w)
    (hstored : w.store (.strikes ip) = some ⟨info, some (v.time + day)⟩)
    (hstrikes : info.strikes = some ((l.length + 1) % 2))
    (hbans : info.hourBans = some ((l.length + 1) / 2)) : OnTrack ip (v :: l) w where
  length := by
    rw [List.length_cons]
    omega
  answers := hanswers
  empty := nofun
  record _ := by
    refine ⟨hstanding, ?_⟩
    rintro v ⟨⟩
    exact ⟨info, hstored, hstrikes, hbans⟩
  finished heq := by
    rw [List.length_cons] at heq
    omega

/-- A strike that is answered by the next entry of `progression` keeps the IP on track. -/
theorem OnTrack.strike {s n : Nat} (h : OnTrack ip l w) (hlt : l.length < 8)
    (hban : ¬ 0 < w.ttl (.banned ip)) (hs : l.length % 2 = s) (hn : l.length / 2 = n)
    (htime : v.time = w.now) (hout : StrikeOutcome ip w s n v.result w') :
    OnTrack ip (v :: l) w' := by
  have hmax : n ≤ maxHourBans := by
    unfold maxHourBans
    omega
  have hnext := hout.next (h.record hlt).1 hmax hban
  have hanswers : ∀ x, progression[l.length]? = some x → outcome v = x →
      (v :: l).reverse.map outcome = progression.take (v :: l).length := by
    intro x hx hout
    rw [List.reverse_cons, List.map_append, h.answers, List.length_cons, List.take_add_one, hx,
      ← hout]
    rfl
  have hkth := progression_next l.length hlt
  rw [hs, hn] at hkth
  obtain ⟨time, live, told, result⟩ := v
  dsimp only at htime hout
  subst htime
  cases hout with
  | warning _ info hstrikes hbans =>
    obtain ⟨-, hstanding⟩ | ⟨hperm, -⟩ := hnext
    · refine .recorded (by omega) (hanswers _ hkth rfl) hstanding (Expiring.put_self ..) ?_ ?_
      · exact hstrikes.trans (congrArg some (by omega))
      · exact hbans.trans (congrArg some (by omega))
    · cases hperm
  | hourBan _ info hless hstrikes hbans =>
    rw [if_neg Nat.one_ne_zero, if_pos hless] at hkth
    unfold maxHourBans at hless
    obtain ⟨-, hstanding⟩ | ⟨hperm, -⟩ := hnext
    · refine .recorded (by omega) (hanswers _ hkth rfl) hstanding (Expiring.put_self ..) ?_ ?_
      · exact hstrikes.trans (congrArg some (by omega))
      · exact hbans.trans (congrArg some (by omega))
    · cases hperm
  | permanentBan info =>
    rw [if_neg Nat.one_ne_zero, if_neg (lt_irrefl _)] at hkth
    unfold maxHourBans at hn
    obtain ⟨hnot, -⟩ | ⟨-, hexpelled⟩ := hnext
    · exact absurd rfl hnot
    · refine ⟨hlt, hanswers _ hkth rfl, nofun, fun hless => ?_, fun _ => hexpelled⟩
      rw [List.length_cons] at hless
      omega

end Track

/-! ## Every run -/

section Law

variable {ip : String} {w w' : BanWorld} {l : List BanEvent}

/-- When the violations came: the last that was recorded is not before the last that came without a
ban, and a timed ban ends at most an hour after it. -/
structure Dated (ip : String) (l : List BanEvent) (w : BanWorld) : Prop where
  last : ∀ v ∈ (struck l).head?, v.time ≤ w.now ∧ ∃ v' ∈ (effective l).head?, v'.time ≤ v.time
  ban : ∀ e, w.store (.banned ip) = some e → ∀ t, e.expires = some t →
    ∃ v ∈ (struck l).head?, t ≤ v.time + 1000 * hourBanDuration
  days : WithinADay (effective l) → WithinADay (struck l)

/-- What every run keeps. -/
structure BanInv (ip : String) (l : List BanEvent) (w : BanWorld) : Prop where
  stored : Standing ip w ∨ Expelled ip w
  permanent : (∃ v ∈ struck l, v.result.action = .permanentBan) → Expelled ip w
  dated : Dated ip l w
  track : WithinADay (struck l) → OnTrack ip (struck l) w

/-- The two ways a violation goes. -/
theorem violate_cases (h : Standing ip w ∨ Expelled ip w) :
    w.Banned ip ∧ (w.violate ip).2 = w ∨
      ¬ w.Banned ip ∧ Standing ip w ∧ ¬ 0 < w.ttl (.banned ip) ∧
        w.violate ip = (strikeResult ((w.get (.strikes ip)).getD .fresh),
          w.apply (strikeWrites ip ((w.get (.strikes ip)).getD .fresh))) := by
  unfold BanWorld.violate
  rcases h with hstanding | hexpelled
  · rw [hstanding.get]
    by_cases hban : 0 < w.ttl (.banned ip)
    · exact .inl ⟨.inr hban, by rw [if_pos hban]; rfl⟩
    · refine .inr ⟨?_, hstanding, hban, by rw [if_neg hban]; rfl⟩
      rintro (hperm | hleft)
      · rw [hstanding.get] at hperm
        cases hperm
      · exact hban hleft
  · exact .inl ⟨.inl hexpelled.get.1, by rw [if_pos hexpelled.get.1]⟩

/-- A timed ban that is live ends later. -/
theorem Standing.live (h : Standing ip w) (hlive : w.Live ip) :
    ∃ t, w.store (.banned ip) = some ⟨(), some t⟩ ∧ w.now ≤ t := by
  rcases hlive with hperm | hlive
  · rw [h.get] at hperm
    cases hperm
  · obtain ⟨⟨⟩, hget⟩ := Option.isSome_iff_exists.1 hlive
    obtain ⟨e, he, -⟩ := Option.map_eq_some_iff.1 hget
    obtain ⟨hstored, hnow⟩ := Option.filter_eq_some_iff.1 he
    obtain ⟨t, ht, -⟩ := h.ban e hstored
    exact ⟨t, by rw [hstored, ← ht], by simpa [Timed.live, ht] using hnow⟩

/-- A violation that is recorded keeps the dates. -/
theorem Dated.strike {s n : Nat} {result : ViolationResult} (h : Dated ip l w) (hs : Standing ip w)
    (htold : ¬ w.Banned ip) (hout : StrikeOutcome ip w s n result w') :
    Dated ip (.violation (w.violation ip result) :: l) w' := by
  have hrecorded : struck (.violation (w.violation ip result) :: l) =
      w.violation ip result :: struck l := recorded_cons (decide_eq_false htold)
  -- the violation before it, where a ban is live
  have hbefore : w.Live ip → ∃ v ∈ (struck l).head?, w.now ≤ v.time + 1000 * hourBanDuration := by
    intro hlive
    obtain ⟨t, hstored, hle⟩ := hs.live hlive
    obtain ⟨v, hv, ht⟩ := h.ban _ hstored t rfl
    exact ⟨v, hv, hle.trans ht⟩
  have hended : ∀ e, w'.store (.banned ip) = some e → ∀ t, e.expires = some t →
      ∃ v ∈ (struck (.violation (w.violation ip result) :: l)).head?,
        t ≤ v.time + 1000 * hourBanDuration := by
    intro e he t ht
    rw [hrecorded]
    refine ⟨_, rfl, ?_⟩
    rcases hout.ban he with hstored | hnew
    · obtain ⟨v₀, hv₀, hle₀⟩ := h.ban e hstored t ht
      exact hle₀.trans (Nat.add_le_add_right (h.last v₀ hv₀).1 _)
    · rw [ht] at hnew
      cases hnew
      exact le_refl _
  by_cases hlive : w.Live ip
  · have heffective : effective (.violation (w.violation ip result) :: l) = effective l :=
      effective_live (decide_eq_true hlive)
    obtain ⟨v, hv, hle⟩ := hbefore hlive
    obtain ⟨hnow, v', hv', hle'⟩ := h.last v hv
    refine ⟨?_, hended, ?_⟩
    · rw [hrecorded, heffective]
      rintro _ ⟨⟩
      exact ⟨hout.now.ge, v', hv', hle'.trans hnow⟩
    · rw [hrecorded, heffective]
      intro hday
      refine List.isChain_cons.2 ⟨fun v₀ hv₀ => ?_, h.days hday⟩
      cases Option.some.inj (hv.symm.trans hv₀)
      refine hle.trans_lt ?_
      unfold hourBanDuration day
      omega
  · have heffective : effective (.violation (w.violation ip result) :: l) =
        w.violation ip result :: effective l := effective_cons (decide_eq_false hlive)
    refine ⟨?_, hended, ?_⟩
    · rw [hrecorded, heffective]
      rintro _ ⟨⟩
      exact ⟨hout.now.ge, _, rfl, le_refl _⟩
    · rw [hrecorded, heffective]
      intro hday
      obtain ⟨hhead, htail⟩ := List.isChain_cons.1 hday
      refine List.isChain_cons.2 ⟨fun v₀ hv₀ => ?_, h.days htail⟩
      obtain ⟨-, v', hv', hle'⟩ := h.last v₀ hv₀
      exact (hhead v' hv').trans_le (Nat.add_le_add_right hle' _)

/-- **A violation keeps the invariant.** -/
theorem BanInv.violation (h : BanInv ip l w) :
    BanInv ip (.violation (w.violation ip (w.violate ip).1) :: l) (w.violate ip).2 := by
  rcases violate_cases h.stored with ⟨htold, hv⟩ | ⟨htold, hstanding, hban, hv⟩
  · have hrecorded : struck (.violation (w.violation ip (w.violate ip).1) :: l) = struck l :=
      recorded_told (decide_eq_true htold)
    have heffective : effective (.violation (w.violation ip (w.violate ip).1) :: l) = effective l :=
      effective_live (decide_eq_true htold.live)
    rw [hv]
    refine ⟨h.stored, ?_, ?_, ?_⟩
    · rw [hrecorded]
      exact h.permanent
    · obtain ⟨hlast, hended, hdays⟩ := h.dated
      rw [← hrecorded, ← heffective] at *
      exact ⟨hlast, hended, hdays⟩
    · rw [hrecorded]
      exact h.track
  · obtain ⟨s, n, hs, hn, hle, hmax⟩ := hstanding.loaded
    have hout := strike_cases ip w hs hn hle hmax
    rw [hv]
    dsimp only
    have hnext := hout.next hstanding hmax hban
    refine ⟨hnext.imp And.right And.right, ?_, h.dated.strike hstanding htold hout, ?_⟩
    · rw [recorded_cons (decide_eq_false htold)]
      rintro ⟨v, hmem, haction⟩
      rcases List.mem_cons.1 hmem with rfl | hmem
      · rcases hnext with ⟨hnot, -⟩ | ⟨-, hexpelled⟩
        · exact absurd haction hnot
        · exact hexpelled
      · obtain ⟨info, hinfo⟩ := (h.permanent ⟨v, hmem, haction⟩).permanent
        rw [hstanding.permanent] at hinfo
        cases hinfo
    · rw [recorded_cons (decide_eq_false htold)]
      intro hday
      obtain ⟨hhead, htail⟩ := List.isChain_cons.1 hday
      have htrack := h.track htail
      have hlt : (struck l).length < 8 := by
        refine lt_of_le_of_ne htrack.length fun heq => ?_
        obtain ⟨info, hinfo⟩ := (htrack.finished heq).permanent
        rw [hstanding.permanent] at hinfo
        cases hinfo
      obtain ⟨hs', hn'⟩ := htrack.loaded hlt hhead
      rw [hs] at hs'
      rw [hn] at hn'
      exact htrack.strike hlt hban (Option.some.inj hs').symm (Option.some.inj hn').symm rfl hout

theorem BanRun.inv (h : BanRun ip l w) : BanInv ip l w := by
  induction h with
  | start now =>
    have hempty : Standing ip (.start now) :=
      ⟨rfl, fun e he => (by cases he), fun e he => (by cases he)⟩
    refine ⟨.inl hempty, ?_, ⟨nofun, nofun, id⟩, fun _ =>
      ⟨Nat.zero_le _, rfl, fun _ => rfl, fun _ => ⟨hempty, nofun⟩, nofun⟩⟩
    rintro ⟨v, hv, -⟩
    exact absurd hv List.not_mem_nil
  | violation h hv ih =>
    rw [eval_recordViolation, Option.some.injEq] at hv
    have hinv := ih.violation
    rw [hv] at hinv
    exact hinv
  | unban h hu ih =>
    rw [eval_unbanIp] at hu
    cases hu
    obtain ⟨hstanding, hstrikes, hban⟩ := standing_unban ip _
    refine ⟨.inl hstanding, ?_, ⟨nofun, fun e he => ?_, id⟩, fun _ =>
      ⟨Nat.zero_le _, rfl, fun _ => hstrikes, fun _ => ⟨hstanding, nofun⟩, nofun⟩⟩
    · rintro ⟨v, hv, -⟩
      exact absurd hv List.not_mem_nil
    · rw [hban] at he
      cases he
  | elapse h millis ih =>
    refine ⟨ih.stored.imp (·.elapse millis) (·.elapse millis), fun hp =>
      (ih.permanent hp).elapse millis, ⟨fun v hv => ?_, ih.dated.ban, ih.dated.days⟩, fun hday =>
        (ih.track hday).elapse millis⟩
    exact (ih.dated.last v hv).imp_left Nat.le_add_right_of_le

/-- What holds of an IP after every run. -/
structure BanLaw (ip : String) (l : List BanEvent) (w : BanWorld) : Prop where
  /-- Without a permanent ban, the strike record counts at most one strike and three hour bans. -/
  record : w.get (.permanent ip) = none → ∀ info, w.get (.strikes ip) = some info →
    (info.strikes = some 0 ∨ info.strikes = some 1) ∧
      ∃ n ≤ maxHourBans, info.hourBans = some n
  /-- While a timed ban is live no strike is stored, and a violation changes nothing. -/
  live : (w.get (.banned ip)).isSome →
    (∃ info, w.get (.strikes ip) = some info ∧ info.strikes = some 0) ∧
      ∃ result, (banServer Unit).eval () .answers (recordViolation .on ip) w = some (result, w)
  /-- Of violations within a day of each other at most three are answered by an hour ban, and a ban
  after three is permanent. -/
  bounded : WithinADay (struck l) → hourBanCount (struck l) ≤ maxHourBans ∧
    ∀ newer v older, struck l = newer ++ v :: older → hourBanCount older = maxHourBans →
      v.result.action = .hourBan ∨ v.result.action = .permanentBan →
        v.result.action = .permanentBan
  /-- A permanent ban stays until the next unban. -/
  permanent : (∃ v ∈ struck l, v.result.action = .permanentBan) → (w.get (.permanent ip)).isSome
  /-- Under one there is no timed ban, the IP is banned, and a violation changes nothing. -/
  expelled : (w.get (.permanent ip)).isSome → w.get (.banned ip) = none ∧
    ((banServer Unit).eval () .answers (isBanned .on ip) w).map (·.1) = some true ∧
    (banServer Unit).eval () .answers (recordViolation .on ip) w = some (.alreadyBanned none, w)

theorem hourBans_take : ∀ n, (progression.take n).countP (fun x => x.1 == .hourBan) ≤ maxHourBans :=
  fun n => ((List.take_sublist n progression).countP_le).trans (by decide)

theorem OnTrack.hourBanCount {l : List Violation} (h : OnTrack ip l w) :
    hourBanCount l ≤ maxHourBans := by
  have hcount := hourBans_take l.length
  rw [← h.answers, List.countP_map, List.countP_reverse] at hcount
  exact hcount

/-- A violation that Redis tells of no ban changes what is stored. -/
theorem violate_ne (h : ¬ w.Banned ip) : (w.violate ip).2 ≠ w := by
  obtain ⟨hperm, hban⟩ := not_or.1 h
  have hwrites := not_unchanged_apply h
    (strikeWrites ip ((w.get (.strikes ip)).getD .fresh)).length
  rw [List.take_of_length_le (Nat.le_succ _)] at hwrites
  rw [BanWorld.violate, if_neg hperm, if_neg hban]
  intro heq
  dsimp only at heq
  rw [heq] at hwrites
  exact hwrites (.refl ip w)

/-- Where the law holds Redis tells of every live timed ban. -/
theorem BanLaw.told (h : BanLaw ip l w) (hlive : (w.get (.banned ip)).isSome) : w.Banned ip := by
  obtain ⟨-, result, hsame⟩ := h.live hlive
  rw [eval_recordViolation, Option.some.injEq] at hsame
  have hunchanged : (w.violate ip).2 = w := congrArg Prod.snd hsame
  exact by_contra fun hnot => violate_ne hnot hunchanged

/-- **The records of an IP keep to the law** after every run of violations, unbans and time passing,
except in the last half second of a timed ban. -/
theorem ban_law (h : BanRun ip l w) : BanLaw ip l w ↔ ¬ w.Closing ip := by
  have hinv := h.inv
  constructor
  · rintro hlaw ⟨t, hstored, hle, hlt⟩
    have hclosing : w.Closing ip := ⟨t, hstored, hle, hlt⟩
    have hlive : (w.get (.banned ip)).isSome := by
      simp [BanWorld.get, Expiring.get, Expiring.entry, hstored, Timed.live, hle]
    rcases hlaw.told hlive with hperm | hban
    · rw [(hlaw.expelled hperm).1] at hlive
      cases hlive
    · exact hclosing.ttl hban
  · intro hclosing
    refine ⟨fun hperm info hget => ?_, fun hlive => ?_, fun hday => ?_, fun hp => ?_,
      fun hperm => ?_⟩
    · obtain hstanding | hexpelled := hinv.stored
      · obtain ⟨e, he, rfl⟩ := Option.map_eq_some_iff.1 hget
        exact hstanding.record e (Option.filter_eq_some_iff.1 he).1
      · have hsome := hexpelled.get.1
        rw [hperm] at hsome
        cases hsome
    · obtain hstanding | hexpelled := hinv.stored
      · obtain ⟨t, hstored, hle⟩ := hstanding.live (.inr hlive)
        have hleft : w.now + 500 ≤ t :=
          Nat.le_of_not_lt fun hlt => hclosing ⟨t, hstored, hle, hlt⟩
        obtain ⟨t', ht, hrecord⟩ := hstanding.ban _ hstored
        cases ht
        obtain ⟨info, t', hinfo, hlater, hs⟩ := hrecord hleft
        constructor
        · refine ⟨info, ?_, hs⟩
          simp [BanWorld.get, Expiring.get, Expiring.entry, hinfo, Timed.live, hle.trans hlater.le]
        · have hban : 0 < w.ttl (.banned ip) := banTtl_pos.2 ⟨t, hstored, hleft⟩
          rw [eval_recordViolation, BanWorld.violate, hstanding.get, if_pos hban]
          exact ⟨_, rfl⟩
      · rw [hexpelled.get.2] at hlive
        cases hlive
    · have hcount := (hinv.track hday).hourBanCount
      refine ⟨hcount, fun newer v older heq hthree hban => hban.resolve_left fun haction => ?_⟩
      rw [heq] at hcount
      unfold hourBanCount at hcount hthree
      rw [List.countP_append, List.countP_cons, hthree, haction, BEq.rfl, if_pos rfl] at hcount
      omega
    · exact (hinv.permanent hp).get.1
    · obtain hstanding | hexpelled := hinv.stored
      · rw [hstanding.get] at hperm
        cases hperm
      · refine ⟨hexpelled.get.2, ?_, ?_⟩
        · rw [eval_isBanned, hperm]
          rfl
        · rw [eval_recordViolation, BanWorld.violate, if_pos hperm]

/-- **Violations that are recorded within a day of each other are answered in the order of
`progression`**: a warning before each of the three hour bans, one more, and then the permanent
ban. -/
theorem progression_followed (h : BanRun ip l w) (hday : WithinADay (struck l)) :
    (struck l).reverse.map outcome = progression.take (struck l).length :=
  (h.inv.track hday).answers

/-! ## What is documented -/

/-- The answers the module documents. -/
def documented : List (BanAction × Nat) :=
  [(.warning, 0), (.hourBan, 1), (.hourBan, 2), (.hourBan, 3), (.permanentBan, 4)]

/-- The numbers, from 0, that the violations without a live ban have among those recorded. -/
def effectiveNumbers (l : List BanEvent) : List Nat :=
  ((struck l).reverse.zipIdx.filter fun x => !x.1.live).map Prod.snd

/-- What is not live is not told of. -/
theorem BanRun.told (h : BanRun ip l w) : ∀ v ∈ sinceUnban l, v.told = true → v.live = true := by
  induction h with
  | start now => exact nofun
  | violation h hv ih =>
    intro v hmem
    rcases List.mem_cons.1 hmem with rfl | hmem
    · exact fun htold => decide_eq_true (of_decide_eq_true htold : BanWorld.Banned _ _).live
    · exact ih v hmem
  | unban h hu ih => exact nofun
  | elapse h millis ih => exact ih

/-- The violations without a live ban are among those recorded. -/
theorem BanRun.effective_eq (h : BanRun ip l w) :
    effective l = (struck l).filter fun v => !v.live := by
  unfold effective struck
  rw [List.filter_filter]
  refine List.filter_congr fun v hv => ?_
  have htold := h.told v hv
  cases htold' : v.told with
  | false => simp
  | true =>
    rw [htold htold']
    rfl

/-- The answers to the violations without a live ban are the entries of `progression` that their
numbers tell. -/
theorem BanRun.answers (h : BanRun ip l w) (hday : WithinADay (effective l)) :
    (effective l).reverse.map outcome =
        (effectiveNumbers l).map (progression.getD · (.none, 0)) ∧
      (effectiveNumbers l).Sublist (List.range 8) := by
  have htrack := h.inv.track (h.inv.dated.days hday)
  have hnth : ∀ x ∈ (struck l).reverse.zipIdx,
      outcome x.1 = progression.getD x.2 (.none, 0) := by
    rintro ⟨v, i⟩ hmem
    have hget : (struck l).reverse[i]? = some v := List.mem_zipIdx_iff_getElem?.1 hmem
    have hentry : (progression.take (struck l).length)[i]? = some (outcome v) := by
      rw [← htrack.answers, List.getElem?_map, hget]
      rfl
    have hlt := (List.getElem?_eq_some_iff.1 hentry).1
    rw [List.length_take] at hlt
    rw [List.getElem?_take_of_lt (by omega)] at hentry
    rw [List.getD_eq_getElem?_getD, hentry]
    rfl
  constructor
  · rw [h.effective_eq, ← List.filter_reverse, effectiveNumbers, List.map_map]
    have hfst : (struck l).reverse = (struck l).reverse.zipIdx.map Prod.fst :=
      (List.zipIdx_map_fst ..).symm
    conv_lhs => rw [hfst]
    rw [List.filter_map, List.map_map]
    refine List.map_congr_left fun x hx => ?_
    exact hnth x (List.mem_of_mem_filter hx)
  · have hsub : (effectiveNumbers l).Sublist (List.range (struck l).reverse.length) := by
      have hsnd : (struck l).reverse.zipIdx.map Prod.snd =
          List.range (struck l).reverse.length := by
        rw [List.zipIdx_map_snd, List.range_eq_range']
      rw [← hsnd]
      exact List.filter_sublist.map _
    refine hsub.trans (List.range_sublist.2 ?_)
    rw [List.length_reverse]
    exact htrack.length

/-- Which entries of `progression` are as documented. -/
theorem documented_numbers : ∀ s ∈ (List.range 8).sublists,
    s.map (progression.getD · (.none, 0)) <+: documented ↔ s <+: [0, 1, 3, 5, 7] := by
  decide +kernel

/-- **Violations within a day of each other are answered as documented** exactly if those that came
without a live ban are, as far as they go, the first, second, fourth, sixth and eighth of those
recorded. -/
theorem documented_iff (h : BanRun ip l w) (hday : WithinADay (effective l)) :
    (effective l).reverse.map outcome <+: documented ↔ effectiveNumbers l <+: [0, 1, 3, 5, 7] := by
  obtain ⟨hanswers, hsub⟩ := h.answers hday
  rw [hanswers]
  exact documented_numbers _ (List.mem_sublists.2 hsub)

/-- **Where none comes in the last half second of a ban, only two are answered as documented.** -/
theorem documented_iff_le (h : BanRun ip l w) (hday : WithinADay (effective l))
    (hlive : ∀ v ∈ struck l, v.live = false) :
    (effective l).reverse.map outcome <+: documented ↔ (effective l).length ≤ 2 := by
  have hall : effective l = struck l := by
    rw [h.effective_eq]
    exact List.filter_eq_self.2 fun v hv => by rw [hlive v hv]; rfl
  have htrack := h.inv.track (h.inv.dated.days hday)
  have hle := htrack.length
  rw [hall, htrack.answers]
  generalize (struck l).length = n at hle
  revert n
  decide +kernel

end Law

/-! ## Samples -/

inductive BanOp
  | violation
  | unban
  | elapse (millis : Nat)

/-- The run of some operations on an IP, one after the other. -/
def banHistory (ip : String) : List BanOp → List BanEvent → BanWorld → List BanEvent × BanWorld
  | [], l, w => (l, w)
  | .violation :: rest, l, w =>
    banHistory ip rest (.violation (w.violation ip (w.violate ip).1) :: l) (w.violate ip).2
  | .unban :: rest, l, w => banHistory ip rest (.unban :: l) (w.unban ip)
  | .elapse millis :: rest, l, w => banHistory ip rest l (w.elapse millis)

theorem BanRun.of_history {ip : String} (ops : List BanOp) {l : List BanEvent} {w : BanWorld}
    (h : BanRun ip l w) : BanRun ip (banHistory ip ops l w).1 (banHistory ip ops l w).2 := by
  induction ops generalizing l w with
  | nil => exact h
  | cons op rest ih =>
    cases op with
    | violation => exact ih (.violation h (eval_recordViolation w ip))
    | unban => exact ih (.unban h (eval_unbanIp w ip))
    | elapse millis => exact ih (.elapse h millis)

/-- A warning and an hour ban, of which half an hour is over. -/
def bannedOps : List BanOp := [.violation, .violation, .elapse 1800000, .violation]

/-- In the middle of a ban the law holds. -/
theorem ban_law_sample : ∃ (l : List BanEvent) (w : BanWorld),
    (w.get (.banned "203.0.113.7")).isSome ∧ BanLaw "203.0.113.7" l w := by
  refine ⟨_, _, ?_, (ban_law (BanRun.of_history bannedOps (.start 0))).2 ?_⟩
  · decide +kernel
  · rintro ⟨t, hstored, -, hlt⟩
    cases hstored
    revert hlt
    decide +kernel

/-- A warning and an hour ban, of which 400 ms are left. -/
def closingOps : List BanOp := [.violation, .violation, .elapse 3599600]

/-- The ban is live, and a violation is answered by a warning and leaves a strike. -/
theorem closing_ban_strikes : ∃ (l : List BanEvent) (w : BanWorld), BanRun "203.0.113.7" l w ∧
    (w.get (.banned "203.0.113.7")).isSome ∧
      (w.violate "203.0.113.7").1 = ⟨.warning, 1, 1, none⟩ ∧
      ((w.violate "203.0.113.7").2.get (.strikes "203.0.113.7")).map (·.strikes) = some (some 1) ∧
      ¬ BanLaw "203.0.113.7" l w := by
  have hrun := BanRun.of_history closingOps (.start 0 : BanRun "203.0.113.7" _ _)
  refine ⟨_, _, hrun, ?_, ?_, ?_, fun hlaw => absurd (hlaw.told ?_) ?_⟩
  · decide +kernel
  · decide +kernel
  · decide +kernel
  · decide +kernel
  · decide +kernel

/-- A violation in the last half second of the first ban takes the warning, and the next is answered
by the second ban. -/
theorem documented_iff_sample : ∃ (l : List BanEvent) (w : BanWorld), BanRun "203.0.113.7" l w ∧
    (effective l).length = 3 ∧ (effective l).reverse.map outcome <+: documented := by
  have hrun := BanRun.of_history (closingOps ++ [.violation, .elapse 500, .violation])
    (.start 0 : BanRun "203.0.113.7" _ _)
  exact ⟨_, _, hrun, by decide +kernel, (documented_iff hrun (by decide +kernel)).2
    (by decide +kernel)⟩

/-- The third violation without a live ban, right after the first ban, is answered by a warning. -/
theorem third_strike_warned : ∃ (l : List BanEvent) (w : BanWorld), BanRun "203.0.113.7" l w ∧
    WithinADay (effective l) ∧
      ((effective l).reverse.map fun v => v.result.action) = [.warning, .hourBan, .warning] ∧
      ¬ ((effective l).reverse.map fun v => v.result.action) <+:
        [.warning, .hourBan, .hourBan, .hourBan, .permanentBan] := by
  have hrun := BanRun.of_history [.violation, .violation, .elapse 3600001, .violation]
    (.start 0 : BanRun "203.0.113.7" _ _)
  refine ⟨_, _, hrun, ?_, ?_, ?_⟩
  · decide +kernel
  · decide +kernel
  · decide +kernel

end PeHackathon.UrlShortener
