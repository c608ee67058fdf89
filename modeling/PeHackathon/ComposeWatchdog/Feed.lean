import PeHackathon.ComposeWatchdog.Streaks
import PeHackathon.Lib.Recent
import PeHackathon.Python.JsonNumber

/-!
# The events of the compose watchdog

What `GET /status` finds while the watchdog runs: at every moment its events are the latest 30 of
those appended so far, one for each `start` or `restart` that succeeded (`moments_inRun`). Where the
clock only goes forward, no two of them have the same id (`ids_nodup`).
-/

namespace PeHackathon.ComposeWatchdog

open Lib

/-! ## Events -/

/-- The event that `_append_event` makes for a container. -/
def Container.event (c : Container) (svc action reason : String) : WatchdogEvent :=
  ⟨toString c.time ++ "-" ++ svc ++ "-" ++ action, c.time, svc, action, reason⟩

/-- What is appended after a call. -/
def reported (result : Except String Unit) (event : WatchdogEvent) : List WatchdogEvent :=
  match result with
  | .ok _ => [event]
  | .error _ => []

/-- What the turn of a container whose streak is `n` appends. -/
def newEvents (cfg : Settings) (c : Container) (n : Nat) : Sight → List WatchdogEvent
  | .exited svc => reported c.start (c.event svc "start" "exited")
  | .unhealthy svc =>
    if cfg.unhealthyPolls ≤ n + 1 then reported c.restart (c.event svc "restart" "unhealthy")
      else []
  | _ => []

/-- `GET /status` may come between any two containers; `count` is the number of events appended
before, which the code does not keep. Between two moments only the log changes, or the clock. -/
structure Moment where
  count : Nat
  status : Status

section Passes

variable (cfg : Settings)

def passMoments : List (Container × Sight) → Nat → Pass → List Moment
  | [], k, pass => [⟨k, pass.watchdog.status⟩]
  | (c, sight) :: turns, k, pass =>
    ⟨k, pass.watchdog.status⟩ ::
      passMoments turns (k + (newEvents cfg c (pass.watchdog.streak c.id) sight).length)
        (act cfg c sight pass)

/-- The events of the turns, the oldest first. -/
def passEvents : List (Container × Sight) → Pass → List WatchdogEvent
  | [], _ => []
  | (c, sight) :: turns, pass =>
    newEvents cfg c (pass.watchdog.streak c.id) sight ++ passEvents turns (act cfg c sight pass)

/-- A tick before its first container. -/
def Watchdog.pass (w : Watchdog) : Pass := ⟨w, [], 0, []⟩

/-- The events of a run. -/
def runEvents : List Poll → Watchdog → List WatchdogEvent
  | [], _ => []
  | poll :: polls, w => passEvents cfg (poll.turns cfg) w.pass ++ runEvents polls (turn cfg w poll)

/-- The moments of a run. -/
def moments : List Poll → Nat → Watchdog → List Moment
  | [], k, w => [⟨k, w.status⟩]
  | poll :: polls, k, w =>
    passMoments cfg (poll.turns cfg) k w.pass ++
      moments polls (k + (passEvents cfg (poll.turns cfg) w.pass).length) (turn cfg w poll)

end Passes

/-- The watchdog before its first tick; `line` is what `main` logs. -/
def Watchdog.start (interval : Float) (line : String) : Watchdog :=
  ⟨.empty, ⟨interval, none, 0, [], [line]⟩⟩

/-! ## What is shown -/

section Shown

variable (cfg : Settings) {w : Watchdog} {pass : Pass} {l : List WatchdogEvent}

/-- The status shows the latest of the events `l`. -/
def Status.Shows (status : Status) (l : List WatchdogEvent) : Prop :=
  status.events = latest 30 l l.length

theorem Shows.append {status : Status} (h : status.Shows l) (result : Except String Unit)
    (c : Container) (svc action reason : String) {w : Watchdog}
    (hw : w.status.events = status.events) :
    (w.report result c.time svc action reason).status.Shows
      (l ++ reported result (c.event svc action reason)) := by
  unfold Status.Shows at h ⊢
  cases result with
  | error e =>
    rw [reported, List.append_nil, ← h, ← hw]
    rfl
  | ok _ =>
    rw [reported, latest_concat, ← h, ← hw]
    rfl

theorem act_shows (h : pass.watchdog.status.Shows l) (c : Container) (sight : Sight) :
    (act cfg c sight pass).watchdog.status.Shows
      (l ++ newEvents cfg c (pass.watchdog.streak c.id) sight) := by
  cases sight with
  | exited svc => exact Shows.append h c.start c svc "start" "exited" rfl
  | unhealthy svc =>
    simp only [act, countUnhealthy, newEvents]
    split
    · exact Shows.append h c.restart c svc "restart" "unhealthy" rfl
    · rw [List.append_nil]
      exact h
  | _ =>
    unfold newEvents
    rw [List.append_nil]
    exact h

theorem foldl_shows (turns : List (Container × Sight)) (h : pass.watchdog.status.Shows l) :
    (turns.foldl (fun pass turn => act cfg turn.1 turn.2 pass) pass).watchdog.status.Shows
      (l ++ passEvents cfg turns pass) := by
  induction turns generalizing pass l with
  | nil => rwa [passEvents, List.append_nil]
  | cons t turns ih =>
    have hrest := ih (act_shows cfg h t.1 t.2)
    rwa [List.append_assoc] at hrest

theorem turn_events (w : Watchdog) (poll : Poll) : (turn cfg w poll).status.events =
    ((poll.turns cfg).foldl (fun pass turn => act cfg turn.1 turn.2 pass)
      w.pass).watchdog.status.events := by
  unfold turn Poll.turns
  cases hlist : poll.list with
  | error e =>
    rw [tick_of_error hlist]
    rfl
  | ok listing =>
    have hvisit : (visit cfg listing.containers w.pass).1 = _ := visit_eq_foldl w.pass
    dsimp only
    rw [← hvisit]
    cases hend : visit cfg listing.containers w.pass with
    | mk pass raised =>
      cases raised with
      | none =>
        rw [tick_of_returned hlist hend]
        rfl
      | some e =>
        rw [tick_of_raised hlist hend]
        rfl

theorem turn_shows (h : w.status.Shows l) (poll : Poll) :
    (turn cfg w poll).status.Shows (l ++ passEvents cfg (poll.turns cfg) w.pass) := by
  unfold Status.Shows
  rw [turn_events]
  exact foldl_shows cfg (poll.turns cfg) h

/-- What holds of moments, the first of them when there were `k` events, in a run whose events are
`l`. -/
structure InRun (l : List WatchdogEvent) (k : Nat) (ms : List Moment) : Prop where
  counts : ∀ m ∈ ms, k ≤ m.count ∧ m.count ≤ l.length
  sorted : ms.Pairwise (·.count ≤ ·.count)
  shows : ∀ m ∈ ms, m.status.events = latest 30 l m.count

theorem inRun_one {status : Status} (h : status.Shows l) :
    InRun l l.length [⟨l.length, status⟩] where
  counts m hm := by
    rw [List.mem_singleton.1 hm]
    exact ⟨Nat.le_refl _, Nat.le_refl _⟩
  sorted := List.pairwise_singleton _ _
  shows m hm := by
    rw [List.mem_singleton.1 hm]
    exact h

/-- Moments up to a time when there were the events `l`, and moments from then on. -/
theorem InRun.append {k : Nat} {ms ms' : List Moment} {more : List WatchdogEvent} (h : InRun l k ms)
    (h' : InRun (l ++ more) l.length ms') (hk : k ≤ l.length) :
    InRun (l ++ more) k (ms ++ ms') where
  counts m hm := by
    rcases List.mem_append.1 hm with hm | hm
    · have := h.counts m hm
      rw [List.length_append]
      omega
    · have := h'.counts m hm
      omega
  sorted := List.pairwise_append.2 ⟨h.sorted, h'.sorted, fun m hm m' hm' =>
    Nat.le_trans (h.counts m hm).2 (h'.counts m' hm').1⟩
  shows m hm := by
    rcases List.mem_append.1 hm with hm | hm
    · rw [latest_append (h.counts m hm).2]
      exact h.shows m hm
    · exact h'.shows m hm

/-- Moments after a time are moments after an earlier one. -/
theorem InRun.from {k k' : Nat} {ms : List Moment} (h : InRun l k' ms) (hk : k ≤ k') :
    InRun l k ms where
  counts m hm := ⟨Nat.le_trans hk (h.counts m hm).1, (h.counts m hm).2⟩
  sorted := h.sorted
  shows := h.shows

theorem passMoments_inRun (turns : List (Container × Sight)) (h : pass.watchdog.status.Shows l) :
    InRun (l ++ passEvents cfg turns pass) l.length (passMoments cfg turns l.length pass) := by
  induction turns generalizing pass l with
  | nil =>
    rw [passEvents, List.append_nil]
    exact inRun_one h
  | cons t turns ih =>
    have hrest := ih (act_shows cfg h t.1 t.2)
    rw [List.append_assoc, List.length_append] at hrest
    have hnow : InRun l l.length [⟨l.length, pass.watchdog.status⟩] := inRun_one h
    exact hnow.append (hrest.from (Nat.le_add_right _ _)) (Nat.le_refl _)

/-- **The moments of a run** show the latest of its events. -/
theorem moments_inRun (polls : List Poll) (h : w.status.Shows l) :
    InRun (l ++ runEvents cfg polls w) l.length (moments cfg polls l.length w) := by
  induction polls generalizing w l with
  | nil =>
    rw [runEvents, List.append_nil]
    exact inRun_one h
  | cons poll polls ih =>
    have hpass : InRun _ _ (passMoments cfg (poll.turns cfg) l.length w.pass) :=
      passMoments_inRun cfg (poll.turns cfg) h
    have hrest := ih (turn_shows cfg h poll)
    rw [moments, runEvents, ← List.length_append, ← List.append_assoc]
    refine hpass.append hrest ?_
    rw [List.length_append]
    exact Nat.le_add_right _ _

theorem start_inRun (polls : List Poll) (interval : Float) (line : String) :
    InRun (runEvents cfg polls (.start interval line)) 0
      (moments cfg polls 0 (.start interval line)) :=
  moments_inRun (l := []) cfg polls rfl

end Shown

/-! ## Ids -/

/-- As `_append_event` is called. -/
structure WatchdogEvent.Made (e : WatchdogEvent) : Prop where
  id : e.id = toString e.time ++ "-" ++ e.service ++ "-" ++ e.action
  kind : e.action = "start" ∧ e.reason = "exited" ∨ e.action = "restart" ∧ e.reason = "unhealthy"

section Ids

variable (cfg : Settings)

theorem reported_made {c : Container} {svc action reason : String} (result : Except String Unit)
    (hkind : action = "start" ∧ reason = "exited" ∨ action = "restart" ∧ reason = "unhealthy") :
    ∀ e ∈ reported result (c.event svc action reason), e.Made := by
  intro e he
  cases result with
  | error e => cases he
  | ok _ =>
    rw [List.mem_singleton.1 he]
    exact ⟨rfl, hkind⟩

theorem newEvents_made (c : Container) (n : Nat) (sight : Sight) :
    ∀ e ∈ newEvents cfg c n sight, e.Made := by
  cases sight with
  | exited svc => exact reported_made c.start (.inl ⟨rfl, rfl⟩)
  | unhealthy svc =>
    simp only [newEvents]
    split
    · exact reported_made c.restart (.inr ⟨rfl, rfl⟩)
    · exact fun e he => nomatch he
  | _ => exact fun e he => nomatch he

theorem passEvents_made (turns : List (Container × Sight)) (pass : Pass) :
    ∀ e ∈ passEvents cfg turns pass, e.Made := by
  induction turns generalizing pass with
  | nil => exact fun e he => nomatch he
  | cons t turns ih =>
    intro e he
    rcases List.mem_append.1 he with he | he
    · exact newEvents_made cfg t.1 _ t.2 e he
    · exact ih (act cfg t.1 t.2 pass) e he

theorem runEvents_made (polls : List Poll) (w : Watchdog) :
    ∀ e ∈ runEvents cfg polls w, e.Made := by
  induction polls generalizing w with
  | nil => exact fun e he => nomatch he
  | cons poll polls ih =>
    intro e he
    rcases List.mem_append.1 he with he | he
    · exact passEvents_made cfg (poll.turns cfg) w.pass e he
    · exact ih (turn cfg w poll) e he

/-- The digits of a number end where no digit follows. -/
theorem toDigits_append_inj {m n : Nat} {r r' : List Char} (hr : NoDigit r) (hr' : NoDigit r')
    (h : Nat.toDigits 10 m ++ r = Nat.toDigits 10 n ++ r') : m = n := by
  have hdigits : ∀ k : Nat, (Nat.toDigits 10 k).takeWhile Char.isDigit = Nat.toDigits 10 k :=
    fun k => takeWhile_digits fun c hc => Nat.isDigit_of_mem_toDigits (by decide) (by decide) hc
  have htake := congrArg (List.takeWhile Char.isDigit) h
  rw [takeWhile_digits_append hr, takeWhile_digits_append hr', hdigits, hdigits] at htake
  simpa using congrArg (fun l => Nat.ofDigitChars 10 l 0) htake

/-- The clock is past its origin, and goes forward between two events. -/
structure Clocked (events : List WatchdogEvent) : Prop where
  nonneg : ∀ e ∈ events, 0 ≤ e.time
  forward : events.Pairwise (·.time < ·.time)

theorem time_eq_of_id {e e' : WatchdogEvent} (he : e.Made) (he' : e'.Made) (hpos : 0 ≤ e.time)
    (hpos' : 0 ≤ e'.time) (h : e.id = e'.id) : e.time = e'.time := by
  obtain ⟨n, hn⟩ := Int.eq_ofNat_of_zero_le hpos
  obtain ⟨n', hn'⟩ := Int.eq_ofNat_of_zero_le hpos'
  have hdash : ∀ l : List Char, NoDigit ('-' :: l) := by
    intro l c hc
    cases hc
    rfl
  have htext : ∀ k : Nat, (toString (k : Int)).toList = Nat.toDigits 10 k :=
    fun k => by simp [Int.repr_eq_if]
  have hchars := congrArg String.toList h
  rw [he.id, he'.id, hn, hn'] at hchars
  simp only [String.toList_append, List.append_assoc, htext] at hchars
  rw [hn, hn', toDigits_append_inj (hdash _) (hdash _) hchars]

theorem ids_nodup {events : List WatchdogEvent} (hmade : ∀ e ∈ events, e.Made)
    (hclock : Clocked events) :
    (events.map (·.id)).Nodup := by
  refine List.pairwise_map.2 (hclock.forward.imp_of_mem fun {e e'} he he' hlt hid => ?_)
  have := time_eq_of_id (hmade e he) (hmade e' he') (hclock.nonneg e he) (hclock.nonneg e' he') hid
  omega

end Ids

end PeHackathon.ComposeWatchdog
