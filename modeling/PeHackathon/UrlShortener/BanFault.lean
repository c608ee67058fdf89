import PeHackathon.UrlShortener.IpBan

/-!
# A violation one of whose commands raises

`record_violation` answers the action `none` when a command raises. `fault_unchanged_iff`: the
records of the IP are then as they were before the call, exactly when the command is one of the
reads, or the first write and Redis has not executed it.
-/

namespace PeHackathon.UrlShortener

open Lib

/-- The command with this number raises, counted from 0, before Redis has executed it or after. -/
def failAt (n : Nat) (executed : Bool) : Nat → Fate :=
  fun m => if m = n then .raises executed else .answers

/-- The status of the IP is the same, and so is, at any later time, the answer to its next
violation. -/
structure Unchanged (ip : String) (w w' : BanWorld) : Prop where
  status : ((banServer Unit).eval () .answers (getIpStatus .on ip) w).map
      (fun r => (r.1.banned, r.1.permanent, r.1.strikes, r.1.hourBans)) =
    ((banServer Unit).eval () .answers (getIpStatus .on ip) w').map
      (fun r => (r.1.banned, r.1.permanent, r.1.strikes, r.1.hourBans))
  next : ∀ millis,
    ((banServer Unit).eval () .answers (recordViolation .on ip) (w.elapse millis)).map (·.1) =
      ((banServer Unit).eval () .answers (recordViolation .on ip) (w'.elapse millis)).map (·.1)

theorem Unchanged.refl (ip : String) (w : BanWorld) : Unchanged ip w w := ⟨rfl, fun _ => rfl⟩

/-- An IP that a call has banned is not unchanged. -/
theorem not_unchanged {ip : String} {w w' : BanWorld} (hw : ¬ w.Banned ip) (hw' : w'.Banned ip) :
    ¬ Unchanged ip w w' := by
  intro h
  have hstatus := congrArg (Option.map Prod.fst) h.status
  rw [Option.map_map, Option.map_map] at hstatus
  have hbanned : some (decide (w.Banned ip)) = some (decide (w'.Banned ip)) := by
    rw [← eval_getIpStatus_banned (i := ()) w ip, ← eval_getIpStatus_banned (i := ()) w' ip]
    exact hstatus
  rw [decide_eq_false hw, decide_eq_true hw'] at hbanned
  cases hbanned

/-- The status of an IP that is not banned tells its strikes. -/
theorem Unchanged.strikes {ip : String} {w w' : BanWorld} (h : Unchanged ip w w')
    (hw : ¬ w.Banned ip) (hw' : ¬ w'.Banned ip) :
    ((w.get (.strikes ip)).getD .fresh).strikes.getD 0 =
      ((w'.get (.strikes ip)).getD .fresh).strikes.getD 0 := by
  have hstatus := congrArg (Option.map fun x => x.2.2.1) h.status
  rw [Option.map_map, Option.map_map] at hstatus
  refine Option.some.inj ?_
  rw [← eval_getIpStatus_strikes (i := ()) w ip hw, ← eval_getIpStatus_strikes (i := ()) w' ip hw']
  exact hstatus

/-- **A write of a violation changes what is said of the IP**: it bans the IP, or stores a
strike. -/
theorem not_unchanged_apply {ip : String} {w : BanWorld} (hw : ¬ w.Banned ip) (n : Nat) :
    ¬ Unchanged ip w (w.apply
      ((strikeWrites ip ((w.get (.strikes ip)).getD .fresh)).take (n + 1))) := by
  generalize hinfo : (w.get (.strikes ip)).getD .fresh = info
  by_cases hlength : 2 ≤ (strikeWrites ip info).length
  · exact not_unchanged hw (banned_apply_take ip info w hlength n)
  · -- the write of a warning
    have hfirst : info.strikes.getD 0 + 1 = 1 ∧ strikeWrites ip info = [.setex (.strikes ip) 86400
        { info with strikes := some (info.strikes.getD 0 + 1), warned := some true }] := by
      unfold strikeWrites at hlength ⊢
      dsimp only at hlength ⊢
      split at hlength
      · rename_i hstrikes
        exact ⟨hstrikes, if_pos hstrikes⟩
      · split at hlength <;> exact absurd (by simp) hlength
    obtain ⟨hstrikes, hwrites⟩ := hfirst
    intro h
    rw [hwrites, List.take_of_length_le (by simp)] at h
    have hsame := h.strikes hw (mt banned_setex_strikes.1 hw)
    rw [hinfo] at hsame
    have hget : (w.apply [.setex (.strikes ip) 86400 { info with
        strikes := some (info.strikes.getD 0 + 1), warned := some true }]).get (.strikes ip) =
          some { info with strikes := some (info.strikes.getD 0 + 1), warned := some true } :=
      get_setex_strikes
    rw [hget, Option.getD_some, Option.getD_some] at hsame
    omega

section Fault

variable {α : Type} {ip : String} {w w' : BanWorld} {n : Nat} {executed : Bool} {failed : α}
  {q : BanCall} {k : BanReply q → BanProg α}

theorem evalWith_fail (hq : q.isCommand = true) :
    (banServer Unit).evalWith () (failAt 0 executed) (attempt failed q k) w =
      some (failed, if executed then (banServe w q).2 else w) := by
  change (some (banRespond (.raises executed) w q)).bind _ = _
  unfold banRespond
  dsimp only
  rw [hq]
  rfl

theorem evalWith_succ :
    (banServer Unit).evalWith () (failAt (n + 1) executed) (attempt failed q k) w =
      (banServer Unit).evalWith () (failAt n executed) (k (banServe w q).1) (banServe w q).2 := by
  have hshift : (fun m => failAt (n + 1) executed (m + 1)) = failAt n executed := by
    funext m
    simp [failAt]
  change (banServer Unit).evalWith () (fun m => failAt (n + 1) executed (m + 1))
    (k (banServe w q).1) (banServe w q).2 = _
  rw [hshift]

/-- Of the writes, those before the one that raises are made, and this one where it is executed. -/
theorem evalWith_writeAll {result : ViolationResult} {writes : List BanCall}
    (hwrites : ∀ q ∈ writes, q.isCommand = true) :
    (banServer Unit).evalWith () (failAt n executed) (writeAll result writes) w =
      some (if n < writes.length then (.none, w.apply (writes.take (n + executed.toNat)))
        else (result, w.apply writes)) := by
  induction writes generalizing n w with
  | nil => rfl
  | cons q rest ih =>
    cases n with
    | zero =>
      refine (evalWith_fail (hwrites q List.mem_cons_self)).trans ?_
      cases executed <;> rfl
    | succ n =>
      refine evalWith_succ.trans ?_
      rw [ih fun q' hq' => hwrites q' (List.mem_cons_of_mem _ hq'), Nat.succ_add]
      simp only [List.length_cons, Nat.add_lt_add_iff_right]
      rfl

theorem strikeWrites_isCommand (ip : String) (info : StrikeInfo) :
    ∀ q ∈ strikeWrites ip info, q.isCommand = true := by
  unfold strikeWrites
  dsimp only
  split
  · simp [BanCall.isCommand]
  · split <;> simp [BanCall.isCommand]

theorem strikeResult_action (info : StrikeInfo) : (strikeResult info).action ≠ .none := by
  unfold strikeResult
  dsimp only
  split
  · nofun
  · split <;> nofun

/-- A read that raises leaves the records as they are. -/
theorem evalWith_read {result : ViolationResult} {r : ViolationResult}
    {q : BanCall} {k : BanReply q → BanProg ViolationResult} (hq : q.isCommand = true)
    (hread : (banServe w q).2 = w)
    (h : (banServer Unit).evalWith () (failAt 0 executed) (attempt r q k) w = some (result, w')) :
    w' = w := by
  rw [evalWith_fail hq, hread, ite_self] at h
  cases h
  rfl

/-- **What a call leaves that answers `none`**: the records as they were if a read has raised, and
otherwise those of an IP without a ban after the writes that are executed. -/
theorem evalWith_none {result : ViolationResult}
    (h : (banServer Unit).evalWith () (failAt n executed) (recordViolation .on ip) w =
      some (result, w'))
    (hnone : result.action = .none) :
    n < 3 ∧ w' = w ∨
      ∃ m, n = m + 3 ∧ ¬ w.Banned ip ∧
        w' = w.apply ((strikeWrites ip ((w.get (.strikes ip)).getD .fresh)).take
          (m + executed.toNat)) := by
  change (banServer Unit).evalWith () (failAt n executed) (checkPermanentBan ip) w = _ at h
  cases n with
  | zero => exact .inl ⟨by omega, evalWith_read (q := .exists (.permanent ip)) rfl rfl h⟩
  | succ n =>
  rw [checkPermanentBan, evalWith_succ] at h
  change (banServer Unit).evalWith () (failAt n executed)
    (if (w.get (.permanent ip)).isSome then .ret (.alreadyBanned none) else checkTimedBan ip)
      w = _ at h
  by_cases hperm : (w.get (.permanent ip)).isSome
  · rw [if_pos hperm] at h
    cases h
    cases hnone
  rw [if_neg hperm] at h
  cases n with
  | zero => exact .inl ⟨by omega, evalWith_read (q := .ttl (.banned ip)) rfl rfl h⟩
  | succ n =>
  rw [checkTimedBan, evalWith_succ] at h
  change (banServer Unit).evalWith () (failAt n executed)
    (if w.ttl (.banned ip) > 0 then .ret (.alreadyBanned (some (w.ttl (.banned ip))))
      else loadStrikes ip) w = _ at h
  by_cases hban : 0 < w.ttl (.banned ip)
  · rw [if_pos hban] at h
    cases h
    cases hnone
  rw [if_neg hban] at h
  cases n with
  | zero => exact .inl ⟨by omega, evalWith_read (q := .get (.strikes ip)) rfl rfl h⟩
  | succ m =>
  rw [loadStrikes, evalWith_succ] at h
  change (banServer Unit).evalWith () (failAt m executed)
    (recordStrike ip ((w.get (.strikes ip)).getD .fresh)) w = _ at h
  rw [recordStrike_eq, evalWith_writeAll (strikeWrites_isCommand ip _), Option.some.injEq] at h
  split at h
  · cases h
    exact .inr ⟨m, rfl, not_or.2 ⟨hperm, hban⟩, rfl⟩
  · cases h
    exact absurd hnone (strikeResult_action _)

/-- **A call that answers `none` because a command raised leaves the IP unchanged, exactly when that
command is one of the three reads, or the first write and Redis has not executed it.** -/
theorem fault_unchanged_iff {result : ViolationResult}
    (h : (banServer Unit).evalWith () (failAt n executed) (recordViolation .on ip) w =
      some (result, w'))
    (hnone : result.action = .none) :
    Unchanged ip w w' ↔ n < 3 ∨ n = 3 ∧ executed = false := by
  obtain ⟨hn, rfl⟩ | ⟨m, rfl, hban, rfl⟩ := evalWith_none h hnone
  · exact iff_of_true (.refl ip w') (.inl hn)
  · cases hcount : m + executed.toNat with
    | zero =>
      obtain ⟨rfl, hexecuted⟩ := Nat.add_eq_zero_iff.1 hcount
      exact iff_of_true (.refl ip w) (.inr ⟨rfl, Bool.toNat_eq_zero.1 hexecuted⟩)
    | succ count =>
      refine iff_of_false (not_unchanged_apply hban count) ?_
      rintro (hlt | ⟨heq, rfl⟩)
      · omega
      · rw [Bool.toNat_false] at hcount
        omega

end Fault

/-- A warning whose write raises before it is executed. -/
theorem fault_unchanged_sample : ∃ w',
    (banServer Unit).evalWith () (failAt 3 false) (recordViolation .on "203.0.113.7") (.start 0) =
        some (.none, w') ∧
      Unchanged "203.0.113.7" (.start 0) w' := by
  have hfault : (banServer Unit).evalWith () (failAt 3 false) (recordViolation .on "203.0.113.7")
      (.start 0) = some (.none, .start 0) := rfl
  exact ⟨.start 0, hfault, (fault_unchanged_iff hfault rfl).2 (.inr ⟨rfl, rfl⟩)⟩

/-- After a warning the next call bans the IP for an hour, and raises when it then stores the
strikes. It answers `none`. -/
theorem fault_changed : ∃ w w',
    (BanWorld.start 0).violate "203.0.113.7" = (⟨.warning, 1, 0, none⟩, w) ∧
      (banServer Unit).evalWith () (failAt 4 false) (recordViolation .on "203.0.113.7") w =
        some (.none, w') ∧
      ¬ Unchanged "203.0.113.7" w w' := by
  refine ⟨_, _, rfl, rfl, not_unchanged ?_ ?_⟩
  · decide +kernel
  · decide +kernel

end PeHackathon.UrlShortener
