import PeHackathon.ComposeWatchdog.Panel

/-!
# Each event is announced once

Over any run of the watchdog and any run of the panel: each event becomes a toast at most once, and
just those do that an answer shows and the first answer did not (`panel_notifies`). A toast that was
dismissed does not come back, although the watchdog goes on reporting its event
(`dismissed_stays_away`). Where the answers come in order, and no more than 30 events lie between
one and the next, what became a toast is what happened between the first and the last
(`panel_misses_nothing`).
-/

namespace PeHackathon.ComposeWatchdog

open Lib Js

/-! ## Ids and texts -/

section Events

variable {e : WatchdogEvent}

def WatchdogEvent.text (e : WatchdogEvent) : String :=
  if e.action = "start" then startingText e.service else restartingText e.service

theorem normalizeEvent_message (iso : Iso) (h : e.Made) :
    (normalizeEvent iso e).message = e.text := by
  unfold normalizeEvent WatchdogEvent.text
  rcases h.kind with ⟨haction, hreason⟩ | ⟨haction, hreason⟩
  · have hstart : toLowerCase "start" = "start" ∨ toLowerCase "exited" = "exited" :=
      .inl (by decide)
    rw [haction, hreason, if_pos rfl, if_pos hstart]
  · have hstart : ¬ (toLowerCase "restart" = "start" ∨ toLowerCase "unhealthy" = "exited") := by
      decide
    have haction : ¬ "restart" = "start" := by decide
    rw [‹e.action = _›, hreason, if_neg haction, if_neg hstart]

/-- A number in decimal starts with a digit or a minus sign. -/
theorem toString_int_cons (n : Int) :
    ∃ c rest, (toString n).toList = c :: rest ∧ (c = '-' ∨ c.isDigit = true) := by
  have hdigits : ∀ k : Nat, ∃ c rest, Nat.toDigits 10 k = c :: rest ∧ c.isDigit = true := by
    intro k
    obtain ⟨c, rest, hcons⟩ := List.exists_cons_of_ne_nil (Nat.toDigits_ne_nil (n := k) (b := 10))
    exact ⟨c, rest, hcons,
      Nat.isDigit_of_mem_toDigits (by decide) (by decide) (hcons ▸ List.mem_cons_self)⟩
  cases n with
  | ofNat k =>
    obtain ⟨c, rest, hcons, hdigit⟩ := hdigits k
    have htext : (toString (Int.ofNat k)).toList = Nat.toDigits 10 k := by simp [Int.repr_eq_if]
    exact ⟨c, rest, htext.trans hcons, .inr hdigit⟩
  | negSucc k =>
    have htext : (toString (Int.negSucc k)).toList = '-' :: Nat.toDigits 10 (k + 1) := by
      simp [toString, Int.repr, Nat.repr]
    exact ⟨'-', _, htext, .inl rfl⟩

/-- No event has the id of a chaos action. -/
theorem WatchdogEvent.Made.not_chaos (h : e.Made) (suffix : String) :
    e.id ≠ "chaos-" ++ suffix := by
  intro hid
  obtain ⟨c, rest, hcons, hc⟩ := toString_int_cons e.time
  have hchars := congrArg String.toList hid
  have hchaos : "chaos-".toList = ['c', 'h', 'a', 'o', 's', '-'] := by decide
  rw [h.id] at hchars
  simp only [String.toList_append, List.append_assoc, hcons, hchaos, List.cons_append] at hchars
  cases (List.cons.inj hchars).1
  rcases hc with hdash | hdigit
  · cases hdash
  · cases hdigit

end Events

/-! ## Runs -/

/-- The event at `i` is due: a later answer shows it and the first does not. -/
def Due : List Moment → Nat → Prop
  | [], _ => False
  | first :: later, i => (∃ m ∈ later, Within 30 i m.count) ∧ ¬ Within 30 i first.count

/-- What the panel has made of the events, after the answers `shown`. -/
structure Notifies (iso : Iso) (events : List WatchdogEvent) (shown : List Moment) (p : Panel) :
    Prop where
  once : (p.raised.map (·.id)).Nodup
  due : ∀ i (hi : i < events.length), normalizeEvent iso events[i] ∈ p.raised ↔ Due shown i
  own : ∀ ev ∈ p.raised, ∃ e ∈ events, ev = normalizeEvent iso e ∧ ev.message = e.text
  toasts : p.Toasts

section Runs

variable {iso : Iso} {events : List WatchdogEvent} {ms shown : List Moment} {p : Panel}

theorem shownBy_latest (iso : Iso) {k : Nat} (h : InRun events k ms) {m : Moment} (hm : m ∈ ms) :
    shownBy iso m = latest 30 (events.map (normalizeEvent iso)) m.count := by
  rw [latest_map, ← h.shows m hm]
  rfl

/-- What the panel has announced, as looks at the events. -/
theorem Panel.Tracks.fresh {k : Nat} {first : Moment} {later : List Moment}
    (hruns : InRun events k ms) (hms : ∀ m ∈ first :: later, m ∈ ms)
    (h : p.Tracks iso (first :: later)) :
    p.notices.Fresh (·.id) ((latest 30 (events.map (normalizeEvent iso)) first.count).map (·.id))
      ((later.map (·.count)).flatMap (latest 30 (events.map (normalizeEvent iso)))) := by
  have hfirst := shownBy_latest iso hruns (hms first List.mem_cons_self)
  have hlater : (later.map (·.count)).flatMap (latest 30 (events.map (normalizeEvent iso))) =
      later.flatMap (shownBy iso) := by
    rw [List.flatMap_map]
    exact List.flatMap_congr fun m hm =>
      (shownBy_latest iso hruns (hms m (List.mem_cons_of_mem first hm))).symm
  rw [hlater, ← hfirst]
  exact h.2

theorem Panel.Tracks.raised_nil (h : p.Tracks iso []) : p.raised = [] := congrArg Notices.raised h.2

theorem Panel.Tracks.raised_seen {id : String} (h : p.Tracks iso shown)
    (hid : id ∈ p.raised.map (·.id)) :
    id ∈ p.seenWatchdogEventIds := by
  cases shown with
  | nil =>
    rw [h.raised_nil] at hid
    cases hid
  | cons first later => exact (h.2.seen id).2 (.inr hid)

theorem Panel.Tracks.own {k : Nat} (hruns : InRun events k ms) (hms : ∀ m ∈ shown, m ∈ ms)
    (h : p.Tracks iso shown) :
    ∀ ev ∈ p.raised, ∃ e ∈ events, ev = normalizeEvent iso e := by
  intro ev hev
  cases shown with
  | nil =>
    rw [h.raised_nil] at hev
    cases hev
  | cons first later =>
    obtain ⟨k', -, hmem⟩ := List.mem_flatMap.1 ((h.fresh hruns hms).new ev hev).1
    obtain ⟨e, he, rfl⟩ := List.mem_map.1 (mem_of_mem_latest hmem)
    exact ⟨e, he, rfl⟩

theorem normalized_nodup (hmade : ∀ e ∈ events, e.Made) (hclock : Clocked events) :
    ((events.map (normalizeEvent iso)).map (·.id)).Nodup := by
  rw [List.map_map]
  exact ids_nodup hmade hclock

theorem normalized_counts (iso : Iso) {k : Nat} (hruns : InRun events k ms)
    (hms : ∀ m ∈ shown, m ∈ ms) :
    ∀ c ∈ shown.map (·.count), c ≤ (events.map (normalizeEvent iso)).length := by
  intro c hc
  obtain ⟨m, hm, rfl⟩ := List.mem_map.1 hc
  rw [List.length_map]
  exact (hruns.counts m (hms m hm)).2

theorem Panel.Tracks.notifies {k : Nat} (hruns : InRun events k ms) (hmade : ∀ e ∈ events, e.Made)
    (hclock : Clocked events) (hms : ∀ m ∈ shown, m ∈ ms) (h : p.Tracks iso shown)
    (htoasts : p.Toasts) :
    Notifies iso events shown p := by
  have hown : ∀ ev ∈ p.raised, ∃ e ∈ events, ev = normalizeEvent iso e ∧ ev.message = e.text := by
    intro ev hev
    obtain ⟨e, he, rfl⟩ := h.own hruns hms ev hev
    exact ⟨e, he, rfl, normalizeEvent_message iso (hmade e he)⟩
  cases shown with
  | nil =>
    refine ⟨?_, fun i _ => ?_, hown, htoasts⟩
    · rw [h.raised_nil]
      exact List.nodup_nil
    · rw [h.raised_nil]
      exact ⟨fun hmem => absurd hmem List.not_mem_nil, False.elim⟩
  | cons first later =>
    have hfresh := h.fresh hruns hms
    refine ⟨hfresh.nodup, fun i hi => ?_, hown, htoasts⟩
    have hi' : i < (events.map (normalizeEvent iso)).length := by rwa [List.length_map]
    have hcounts := normalized_counts iso hruns hms
    have hdue :=
      Notices.announces_iff hfresh (normalized_nodup hmade hclock) (hcounts _ List.mem_cons_self)
      (fun k hk => hcounts k (List.mem_cons_of_mem _ hk)) hi'
    rw [List.getElem_map] at hdue
    rw [show p.raised = p.notices.raised from rfl, hdue]
    unfold Due
    simp only [List.mem_map, exists_exists_and_eq_and]

end Runs

/-! ## Two starts -/

/-- What reaches the panel in a run of the watchdog. -/
abbrev RunInput (cfg : Settings) (polls : List Poll) (interval : Float) (line : String) : Type :=
  Input (moments cfg polls 0 (.start interval line))

/-- A poll that finds the container of `web` stopped, and starts it at this time. -/
def startPoll (time : Int) : Poll :=
  ⟨.ok ⟨[{ web "exited" "none" with time }], List.nodup_singleton _⟩, 0⟩

def noVariables : Watchdog.Environment := ⟨none, []⟩

abbrev twoStarts : List Poll := [startPoll 1, startPoll 2]

def numbered : Iso := ⟨fun _ => "", toString⟩

/-- An answer at this moment. -/
def answerAt {ms : List Moment} (i : Nat) (h : i < ms.length) : Input ms :=
  .answer fun _ => .ok ⟨ms[i], List.getElem_mem h⟩

/-- Answers before the first start, after it and at the end. -/
abbrev threeAnswers : List (RunInput defaults twoStarts 15 "") :=
  [answerAt 0 (by decide), answerAt 2 (by decide), answerAt 4 (by decide)]

theorem twoStarts_clocked : Clocked (runEvents defaults twoStarts (.start 15 "")) where
  nonneg := by decide
  forward := by decide

/-! ## The panel and the watchdog -/

section Main

variable (iso : Iso) (env : Watchdog.Environment) {cfg : Settings} {polls : List Poll}
  {interval : Float} {line : String} (inputs : List (RunInput cfg polls interval line))

theorem start_tracks : (Panel.start.run iso env inputs).Tracks iso (looks env inputs) := by
  have hstart : Panel.start.Tracks iso [] := ⟨rfl, rfl⟩
  exact run_tracks env hstart inputs

theorem looks_moments : ∀ m ∈ looks env inputs, m ∈ moments cfg polls 0 (.start interval line) :=
  fun _ hm => looks_mem hm

/-- **Each event becomes a toast at most once**, and just those do that a later answer shows and the
first did not. -/
theorem panel_notifies (hclock : Clocked (runEvents cfg polls (.start interval line))) :
    Notifies iso (runEvents cfg polls (.start interval line)) (looks env inputs)
      (Panel.start.run iso env inputs) :=
  (start_tracks iso env inputs).notifies (start_inRun cfg polls interval line)
    (runEvents_made cfg polls _) hclock (looks_moments env inputs) (run_toasts start_toasts inputs)

theorem panel_notifies_sample :
    Notifies numbered (runEvents defaults twoStarts (.start 15 "")) (looks noVariables threeAnswers)
      (Panel.start.run numbered noVariables threeAnswers) :=
  panel_notifies numbered noVariables threeAnswers twoStarts_clocked

/-- **A toast that was dismissed does not come back.** -/
theorem dismissed_stays_away (later : List (RunInput cfg polls interval line)) {id : String}
    (hraised : id ∈ (Panel.start.run iso env inputs).raised.map (·.id)) :
    (Panel.start.run iso env (inputs ++ .dismiss id :: later)).Gone id := by
  have htracks := start_tracks iso env inputs
  have hrun : Panel.start.run iso env (inputs ++ .dismiss id :: later) =
      ((Panel.start.run iso env inputs).dismissed id).run iso env later := List.foldl_append
  obtain ⟨ev, hev, hid⟩ := List.mem_map.1 hraised
  obtain ⟨e, he, rfl⟩ :=
    htracks.own (start_inRun cfg polls interval line) (looks_moments env inputs) ev hev
  have hchaos : ∀ suffix, id ≠ "chaos-" ++ suffix := fun suffix =>
    hid ▸ (runEvents_made cfg polls _ e he).not_chaos suffix
  rw [hrun]
  exact run_gone (dismissed_gone (htracks.raised_seen hraised)) hchaos later

theorem dismissed_stays_away_sample :
    (Panel.start.run numbered noVariables (threeAnswers ++ .dismiss "1-web-start" ::
      threeAnswers)).Gone
      "1-web-start" :=
  dismissed_stays_away numbered noVariables threeAnswers threeAnswers (by decide)

/-- **Nothing is missed**: answers in order, with no more than 30 events between one and the next,
make toasts of what happened between the first and the last. -/
theorem panel_misses_nothing (first : Moment) (later : List Moment)
    (hclock : Clocked (runEvents cfg polls (.start interval line)))
    (hlooks : looks env inputs = first :: later)
    (horder : (first :: later).Pairwise (·.count ≤ ·.count))
    (hgap : Gapless 30 first.count (later.map (·.count))) :
    (Panel.start.run iso env inputs).raised.Perm
      ((((runEvents cfg polls (.start interval line)).take
        ((first :: later).getLast (List.cons_ne_nil first later)).count).drop first.count).map
          (normalizeEvent iso)) := by
  have hruns := start_inRun cfg polls interval line
  have hms : ∀ m ∈ first :: later, m ∈ moments cfg polls 0 (.start interval line) :=
    hlooks ▸ looks_moments env inputs
  have htracks := start_tracks iso env inputs
  rw [hlooks] at htracks
  have hbetween := Notices.announces_between (htracks.fresh hruns hms)
    (normalized_nodup (runEvents_made cfg polls _) hclock) (normalized_counts iso hruns hms)
    (List.pairwise_map.2 horder) hgap
  have hlast : (first.count :: later.map (·.count)).getLast (List.cons_ne_nil _ _) =
      ((first :: later).getLast (List.cons_ne_nil first later)).count :=
    List.getLast_map (f := fun m : Moment => m.count) (l := first :: later) (List.cons_ne_nil _ _)
  rw [List.map_drop, List.map_take, ← hlast]
  exact hbetween

theorem panel_misses_nothing_sample :
    (Panel.start.run numbered noVariables threeAnswers).raised.Perm
      (((runEvents defaults twoStarts (.start 15 "")).drop 0).map (normalizeEvent numbered)) :=
  panel_misses_nothing numbered noVariables threeAnswers _ _ twoStarts_clocked rfl (by decide)
    ⟨by decide, by decide, trivial⟩

end Main

end PeHackathon.ComposeWatchdog
