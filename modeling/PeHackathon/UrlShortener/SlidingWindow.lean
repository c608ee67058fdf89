import PeHackathon.UrlShortener.DynamicRateLimit

/-!
# The sliding window of requests

`record_request` and `get_active_user_count`, at clock readings that never decrease.
`sliding_window_iff`: the count of addresses is always that of the last minute; the count of
requests is just when no address has two requests at one reading of the clock, since the member of
the request log is the address with the reading.
-/

namespace PeHackathon.UrlShortener

open Lib

/-! ## Runs -/

/-- A call, with its reading of the clock. -/
inductive WindowCall
  | recordRequest (ip : String) (now : Rat)
  | getActiveUserCount (now : Rat)

def WindowCall.time : WindowCall → Rat
  | .recordRequest _ now | .getActiveUserCount now => now

/-- What a call leaves of the two sets. -/
def WindowCall.run (clock : ClockText) (sets : ActivitySets) : WindowCall → ActivitySets
  | .recordRequest ip now => UrlShortener.recordRequest clock ip now sets
  | .getActiveUserCount now => (UrlShortener.getActiveUserCount now sets).2

/-- The sets after some calls. -/
def runWindow (clock : ClockText) (calls : List WindowCall) : ActivitySets :=
  calls.foldl (WindowCall.run clock) .empty

/-- The requests that were recorded, with their readings. -/
def recorded (calls : List WindowCall) : List (String × Rat) :=
  calls.filterMap fun call => match call with
    | .recordRequest ip now => some (ip, now)
    | .getActiveUserCount _ => none

/-- The requests recorded in `(now - 60, now]`. -/
def recordedWithin (now : Rat) (calls : List WindowCall) : List (String × Rat) :=
  (recorded calls).filter fun r => now - ACTIVE_WINDOW_SECONDS < r.2 ∧ r.2 ≤ now

section

variable {clock : ClockText} {calls : List WindowCall} {now : Rat}

theorem recorded_append (calls calls' : List WindowCall) :
    recorded (calls ++ calls') = recorded calls ++ recorded calls' := List.filterMap_append

theorem recorded_time {r : String × Rat} (h : r ∈ recorded calls) :
    ∃ call ∈ calls, call.time = r.2 := by
  obtain ⟨call, hcall, hr⟩ := List.mem_filterMap.1 h
  refine ⟨call, hcall, ?_⟩
  cases call with
  | recordRequest ip now =>
    cases hr
    rfl
  | getActiveUserCount now => cases hr

/-- The text up to a first colon. -/
theorem takeWhile_colon {a b : List Char} (ha : ':' ∉ a) :
    (a ++ ':' :: b).takeWhile (· ≠ ':') = a := by
  rw [List.takeWhile_append_of_pos fun c hc => by
    rw [decide_eq_true_eq]
    rintro rfl
    exact ha hc]
  simp

/-- The member of the request log tells the address and the reading apart: the reading stands after
the last colon. -/
theorem logMember_injective (clock : ClockText) :
    Function.Injective fun r : String × Rat => clock.logMember r.1 r.2 := by
  rintro ⟨ip, t⟩ ⟨ip', t'⟩ h
  have hl : (clock.str t).toList.reverse ++ ':' :: ip.toList.reverse =
      (clock.str t').toList.reverse ++ ':' :: ip'.toList.reverse := by
    have hl := congrArg (fun s : String => s.toList.reverse) h
    simpa [ClockText.logMember] using hl
  have htext := congrArg (List.takeWhile (· ≠ ':')) hl
  rw [takeWhile_colon (by simpa using clock.noColon t),
    takeWhile_colon (by simpa using clock.noColon t')] at htext
  rw [htext] at hl
  have hip := (List.cons.inj (List.append_cancel_left hl)).2
  exact Prod.ext (String.toList_injective (List.reverse_injective hip))
    (clock.injective t t' (String.toList_injective (List.reverse_injective htext)))

/-- What a run has left of the requests, by address and by member of the log. -/
structure CountsSince (clock : ClockText) (cut : Rat) (calls : List WindowCall)
    (sets : ActivitySets) : Prop where
  users : Window (recorded calls) cut sets.activeUsers
  log : Window ((recorded calls).map fun r => (clock.logMember r.1 r.2, r.2)) cut sets.requestLog

theorem countsSince_run (horder : (calls.map WindowCall.time).Pairwise (· ≤ ·))
    (hnow : ∀ call ∈ calls, call.time ≤ now) :
    CountsSince clock (now - ACTIVE_WINDOW_SECONDS) calls (runWindow clock calls) := by
  induction calls using List.reverseRecOn with
  | nil => exact ⟨Window.empty, Window.empty⟩
  | append_singleton calls call ih =>
    rw [List.map_append, List.pairwise_append] at horder
    have hcounts := ih horder.1 fun c hc => hnow c (List.mem_append_left _ hc)
    have hcall : call.time ≤ now := hnow call (List.mem_append_right _ (List.mem_singleton_self _))
    have hbefore : ∀ r ∈ recorded calls, r.2 ≤ call.time := by
      intro r hr
      obtain ⟨c, hc, htime⟩ := recorded_time hr
      rw [← htime]
      exact horder.2.2 _ (List.mem_map_of_mem hc) _ (List.mem_singleton_self _)
    have hrun : runWindow clock (calls ++ [call]) = call.run clock (runWindow clock calls) := by
      rw [runWindow, List.foldl_append]
      rfl
    rw [hrun]
    cases call with
    | recordRequest ip t =>
      constructor
      · rw [recorded_append]
        exact hcounts.users.set hbefore
      · rw [recorded_append, List.map_append]
        refine hcounts.log.set fun p hp => ?_
        obtain ⟨r, hr, rfl⟩ := List.mem_map.1 hp
        exact hbefore r hr
    | getActiveUserCount t =>
      have hcut : t - ACTIVE_WINDOW_SECONDS ≤ now - ACTIVE_WINDOW_SECONDS :=
        sub_le_sub_right hcall _
      have hsame : recorded (calls ++ [.getActiveUserCount t]) = recorded calls := by
        rw [recorded_append]
        exact List.append_nil _
      constructor
      · rw [hsame]
        exact hcounts.users.prune hcut
      · rw [hsame]
        exact hcounts.log.prune hcut

end

/-- **The window counts requests** if and only if no address was recorded twice at one reading
within it. The count of addresses is exact in any case. -/
theorem sliding_window_iff (clock : ClockText) (calls : List WindowCall) (now : Rat)
    (horder : (calls.map WindowCall.time).Pairwise (· ≤ ·))
    (hnow : ∀ call ∈ calls, call.time ≤ now) :
    ((getActiveUserCount now (runWindow clock calls)).1.uniqueIps =
        ((recordedWithin now calls).map Prod.fst).toFinset.card) ∧
      ((getActiveUserCount now (runWindow clock calls)).1.requestVolume =
        (recordedWithin now calls).length ↔
        (recordedWithin now calls).Nodup) := by
  have hcounts := @countsSince_run clock _ _ horder hnow
  have hwithin : (recorded calls).filter (fun r => now - ACTIVE_WINDOW_SECONDS < r.2) =
      recordedWithin now calls := by
    refine List.filter_congr fun r hr => ?_
    obtain ⟨call, hcall, htime⟩ := recorded_time hr
    have := hnow call hcall
    rw [htime] at this
    simp [this]
  constructor
  · change ((runWindow clock calls).activeUsers.pruneUpTo _).keys.length = _
    rw [hcounts.users.keys_pruneUpTo, hwithin]
  · change ((runWindow clock calls).requestLog.pruneUpTo _).keys.length = _ ↔ _
    have hmembers : (((recorded calls).map fun r => (clock.logMember r.1 r.2, r.2)).filter
        fun p => now - ACTIVE_WINDOW_SECONDS < p.2).map Prod.fst =
          (recordedWithin now calls).map fun r => clock.logMember r.1 r.2 := by
      rw [List.filter_map, List.map_map, ← hwithin]
      rfl
    rw [hcounts.log.keys_pruneUpTo, hmembers, ← List.nodup_map_iff (logMember_injective clock),
      ← List.length_map (fun r : String × Rat => clock.logMember r.1 r.2), List.card_toFinset]
    constructor
    · intro hlen
      rw [← (List.dedup_sublist _).eq_of_length hlen]
      exact List.nodup_dedup _
    · intro hnodup
      rw [hnodup.dedup]

/-! ## Samples -/

/-- Writes whole seconds as Python does. -/
def secondsText (t : Rat) : List Char :=
  jsonIntText t.num ++ if t.den = 1 then ['.', '0'] else '/' :: Nat.toDigits 10 t.den

theorem toDigits_digit {n : Nat} {c : Char} (h : c ∈ Nat.toDigits 10 n) : c.isDigit = true :=
  Nat.isDigit_of_mem_toDigits (by decide) (by decide) h

theorem toDigits_ten_injective {m n : Nat} (h : Nat.toDigits 10 m = Nat.toDigits 10 n) : m = n := by
  have := congrArg (fun l => Nat.ofDigitChars 10 l 0) h
  simpa using this

theorem jsonIntText_char {i : Int} {c : Char} (h : c ∈ jsonIntText i) :
    c = '-' ∨ c.isDigit = true := by
  rcases List.mem_append.1 h with h | h
  · split at h
    · exact .inl (List.mem_singleton.1 h)
    · cases h
  · exact .inr (toDigits_digit h)

theorem jsonIntText_injective {i j : Int} (h : jsonIntText i = jsonIntText j) : i = j := by
  have hminus : ∀ n : Nat, Nat.toDigits 10 n ≠ '-' :: Nat.toDigits 10 j.natAbs ∧
      '-' :: Nat.toDigits 10 i.natAbs ≠ Nat.toDigits 10 n := by
    intro n
    constructor
    · intro heq
      have := toDigits_digit (n := n) (c := '-') (by rw [heq]; exact List.mem_cons_self)
      cases this
    · intro heq
      have := toDigits_digit (n := n) (c := '-') (by rw [← heq]; exact List.mem_cons_self)
      cases this
  unfold jsonIntText at h
  by_cases hi : i < 0 <;> by_cases hj : j < 0
  · rw [if_pos hi, if_pos hj] at h
    have := toDigits_ten_injective (List.cons.inj h).2
    omega
  · rw [if_pos hi, if_neg hj] at h
    exact absurd h (hminus _).2
  · rw [if_neg hi, if_pos hj] at h
    exact absurd h (hminus _).1
  · rw [if_neg hi, if_neg hj] at h
    have := toDigits_ten_injective h
    omega

theorem secondsText_injective {s t : Rat} (h : secondsText s = secondsText t) : s = t := by
  have hplain : ∀ (i : Int) (c : Char), c = '.' ∨ c = '/' → c ∉ jsonIntText i := by
    rintro i c (rfl | rfl) hc
    · rcases jsonIntText_char hc with hc | hc <;> cases hc
    · rcases jsonIntText_char hc with hc | hc <;> cases hc
  unfold secondsText at h
  by_cases hs : s.den = 1 <;> by_cases ht : t.den = 1
  · rw [if_pos hs, if_pos ht] at h
    exact Rat.ext (jsonIntText_injective (List.append_cancel_right h)) (hs.trans ht.symm)
  · rw [if_pos hs, if_neg ht] at h
    have hmem : '/' ∈ jsonIntText s.num ++ ['.', '0'] := by
      rw [h]
      exact List.mem_append_right _ List.mem_cons_self
    rcases List.mem_append.1 hmem with hmem | hmem
    · exact absurd hmem (hplain _ _ (.inr rfl))
    · simp at hmem
  · rw [if_neg hs, if_pos ht] at h
    have hmem : '/' ∈ jsonIntText t.num ++ ['.', '0'] := by
      rw [← h]
      exact List.mem_append_right _ List.mem_cons_self
    rcases List.mem_append.1 hmem with hmem | hmem
    · exact absurd hmem (hplain _ _ (.inr rfl))
    · simp at hmem
  · rw [if_neg hs, if_neg ht] at h
    obtain ⟨hnum, -, hden⟩ := (List.append_cons_inj_of_notMem (hplain _ _ (.inr rfl)) (by
      intro hc
      have := toDigits_digit hc
      cases this)).1 h
    exact Rat.ext (jsonIntText_injective hnum) (toDigits_ten_injective hden)

def sampleClock : ClockText where
  str t := String.ofList (secondsText t)
  injective s t h := secondsText_injective (String.ofList_injective h)
  noColon t := by
    rw [String.toList_ofList]
    intro h
    rcases List.mem_append.1 h with h | h
    · rcases jsonIntText_char h with h | h <;> cases h
    · split at h
      · simp at h
      · rcases List.mem_cons.1 h with h | h
        · cases h
        · have := toDigits_digit h
          cases this

/-- Two addresses, one of them a minute before. -/
def sampleCalls : List WindowCall :=
  [.recordRequest "10.0.0.1" 0, .recordRequest "10.0.0.2" 30, .getActiveUserCount 40]

theorem sliding_window_sample :
    ((getActiveUserCount 60 (runWindow sampleClock sampleCalls)).1.uniqueIps =
        ((recordedWithin 60 sampleCalls).map Prod.fst).toFinset.card) ∧
      ((getActiveUserCount 60 (runWindow sampleClock sampleCalls)).1.requestVolume =
          (recordedWithin 60 sampleCalls).length ↔ (recordedWithin 60 sampleCalls).Nodup) :=
  sliding_window_iff sampleClock sampleCalls 60 (by decide) (by decide)

/-- Two requests of one address at one reading count as one. -/
theorem same_reading_counts_once :
    (getActiveUserCount 0
      (runWindow sampleClock [.recordRequest "10.0.0.1" 0,
        .recordRequest "10.0.0.1" 0])).1.requestVolume
        = 1 ∧
      (recordedWithin 0 [.recordRequest "10.0.0.1" 0, .recordRequest "10.0.0.1" 0]).length = 2 := by
  decide +kernel

end PeHackathon.UrlShortener
