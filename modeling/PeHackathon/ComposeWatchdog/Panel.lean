import PeHackathon.ComposeWatchdog.Feed
import PeHackathon.Watchdog.Worker

/-!
# The notifications of the chaos panel

The panel (`chaos-panel.tsx`) asks the route `/api/visibility/docker/chaos/watchdog` again and
again, which asks the compose watchdog; what is new it shows as a toast. `Panel.step` is what the
panel does with one answer, a failure, a dismissal or the toast of a chaos action.
`panel_announces`: over a run of the watchdog and any such run of the panel, each event becomes a
toast at most once, and just those become one that an answer shows and the first answer did not.
-/

namespace PeHackathon.ComposeWatchdog

open Lib Js

/-! ## The route -/

/-- `resolveWatchdogStatusUrls`. -/
def resolveWatchdogStatusUrls (env : Watchdog.Environment) : List String :=
  let explicit := trim ((Watchdog.runtimeEnv env "WATCHDOG_STATUS_URL").getD "")
  let isDev := env.process.lookup "NODE_ENV" == some "development"
  if explicit ≠ "" then [if explicit.endsWith "/" then (explicit.dropEnd 1).toString else explicit]
  else if isDev then ["http://127.0.0.1:8099", "http://compose-watchdog:8099"]
  else ["http://compose-watchdog:8099", "http://127.0.0.1:8099"]

/-- What the route answers. -/
structure WatchdogPayload where
  source : Watchdog.PayloadSource
  intervalSec : Float
  lastTickAt : Option String
  instancesMonitored : Nat
  events : List Watchdog.WatchdogEvent
  logTail : Option (List String)
  error : Option String

/-- `_iso`, of `time.time()` and of the clock of an event. -/
structure Iso where
  seconds : Float → String
  nanoseconds : Int → String

def startingText (service : String) : String :=
  "Watchdog identified an exited or killed container and is starting " ++ service ++ "."

def restartingText (service : String) : String :=
  "Watchdog identified a stalled or unhealthy container and is restarting " ++ service ++ "."

section Route

variable (iso : Iso)

def normalizeEvent (e : WatchdogEvent) : Watchdog.WatchdogEvent where
  id := e.id
  time := iso.nanoseconds e.time
  service := e.service
  kind := .recover
  message :=
    if toLowerCase e.action = "start" ∨ toLowerCase e.reason = "exited" then startingText e.service
    else restartingText e.service

def normalizeDockerWatchdog (data : Status) : WatchdogPayload where
  source := .docker
  intervalSec := data.intervalSec
  lastTickAt := data.lastTickAt.map iso.seconds
  instancesMonitored := data.instancesMonitored
  events := data.events.map (normalizeEvent iso)
  logTail := if 0 < data.logTail.length then some data.logTail else none
  error := none

/-- The first candidate that answers, else the last error. -/
def firstAnswer {α : Type} (fetchStatus : String → Except String α) : List String → Option String →
    Except (Option String) α
  | [], lastErr => .error lastErr
  | base :: candidates, _ =>
    match fetchStatus base with
    | .ok data => .ok data
    | .error e => firstAnswer fetchStatus candidates (some e)

def unreachable (candidates : List String) (lastErr : Option String) : WatchdogPayload where
  source := .error
  intervalSec := 15
  lastTickAt := none
  instancesMonitored := 0
  events := []
  logTail := none
  error := some (lastErr.getD "Unreachable" ++ ". Tried: " ++ ", ".intercalate candidates ++
    ". Ensure compose-watchdog is up and port 8099 is published (docker compose up compose-watchdog -d).")

/-- `GET`, where no Railway ids are set. -/
def getWatchdog (env : Watchdog.Environment) (fetchStatus : String → Except String Status) :
    WatchdogPayload :=
  let candidates := resolveWatchdogStatusUrls env
  match firstAnswer fetchStatus candidates none with
  | .ok data => normalizeDockerWatchdog iso data
  | .error lastErr => unreachable candidates lastErr

end Route

/-! ## The panel -/

structure Toast where
  id : String
  message : String
  time : String
  deriving DecidableEq, Repr

structure Panel where
  watchdog : Option WatchdogPayload
  watchdogToasts : List Toast
  seenWatchdogEventIds : List String
  watchdogHydrated : Bool
  /-- The events that became toasts, oldest first. No step reads it. -/
  raised : List Watchdog.WatchdogEvent

def Panel.start : Panel := ⟨none, [], [], false, []⟩

def eventToast (ev : Watchdog.WatchdogEvent) : Toast := ⟨ev.id, ev.message, ev.time⟩

/-- The toast of an event whose id is new. -/
def Panel.notify (p : Panel) (ev : Watchdog.WatchdogEvent) : Panel :=
  if ev.id ∈ p.seenWatchdogEventIds then p
  else
    { p with
      seenWatchdogEventIds := ev.id :: p.seenWatchdogEventIds
      watchdogToasts := (eventToast ev :: p.watchdogToasts).take 6
      raised := p.raised ++ [ev] }

def Panel.applyWatchdogPayload (j : WatchdogPayload) (p : Panel) : Panel :=
  let shown := { p with watchdog := some j }
  if p.watchdogHydrated = false ∧ (j.source = .docker ∨ j.source = .railway) then
    { shown with
      watchdogHydrated := true
      seenWatchdogEventIds := p.seenWatchdogEventIds ++ j.events.map (·.id) }
  else j.events.foldl Panel.notify shown

/-- What the catch of `fetchWatchdog` shows. -/
def failedPayload : WatchdogPayload where
  source := .error
  intervalSec := 15
  lastTickAt := none
  instancesMonitored := 0
  events := []
  logTail := none
  error := some "Failed to load watchdog status"

/-- `dismissWatchdogToast`. -/
def Panel.dismissed (id : String) (p : Panel) : Panel :=
  { p with watchdogToasts := p.watchdogToasts.filter fun n => n.id != id }

/-- What reaches the panel while the watchdog has the moments `ms`: an answer of the route, to which
each candidate gave the status of one of the moments or failed; a request that failed; the dismissal
of a toast; a chaos action that went well. -/
inductive Input (ms : List Moment)
  | answer (fetchStatus : String → Except String { m : Moment // m ∈ ms })
  | failed
  | dismiss (id : String)
  | chaos (suffix message time : String)

def Input.statuses {ms : List Moment}
    (fetchStatus : String → Except String { m : Moment // m ∈ ms }) (base : String) :
    Except String Status :=
  (fetchStatus base).map fun m => m.1.status

section Steps

variable (iso : Iso) (env : Watchdog.Environment) {ms : List Moment}

def Panel.step (p : Panel) : Input ms → Panel
  | .answer fetchStatus => p.applyWatchdogPayload (getWatchdog iso env (Input.statuses fetchStatus))
  | .failed => { p with watchdog := some failedPayload }
  | .dismiss id => p.dismissed id
  | .chaos suffix message time =>
    { p with watchdogToasts := (⟨"chaos-" ++ suffix, message, time⟩ :: p.watchdogToasts).take 8 }

def Panel.run (inputs : List (Input ms)) (p : Panel) : Panel := inputs.foldl (Panel.step iso env) p

/-- The moment that an answer shows. -/
def Input.look : Input ms → Option Moment
  | .answer fetchStatus =>
    (firstAnswer fetchStatus (resolveWatchdogStatusUrls env) none).toOption.map Subtype.val
  | _ => none

/-- The answers, each by the moment it shows. -/
def looks (inputs : List (Input ms)) : List Moment := inputs.filterMap (Input.look env)

end Steps

/-! ## What an answer shows -/

section Answers

variable {α β : Type} {env : Watchdog.Environment} {ms : List Moment}

theorem firstAnswer_map (candidates : List String) (f : α → β)
    (fetchStatus : String → Except String α) (lastErr : Option String) :
    firstAnswer (fun base => (fetchStatus base).map f) candidates lastErr =
      (firstAnswer fetchStatus candidates lastErr).map f := by
  induction candidates generalizing lastErr with
  | nil => rfl
  | cons base candidates ih =>
    unfold firstAnswer
    cases fetchStatus base with
    | ok data => rfl
    | error e => exact ih (some e)

/-- An answer is the status of the moment it shows, or has no event and says that nothing could be
reached. -/
theorem getWatchdog_look (iso : Iso) (env : Watchdog.Environment)
    (fetchStatus : String → Except String { m : Moment // m ∈ ms }) :
    (∃ m ∈ ms, (Input.answer fetchStatus).look env = some m ∧
      getWatchdog iso env (Input.statuses fetchStatus) = normalizeDockerWatchdog iso m.status) ∨
    (Input.answer fetchStatus).look env = none ∧
      ∃ lastErr, getWatchdog iso env (Input.statuses fetchStatus) =
        unreachable (resolveWatchdogStatusUrls env) lastErr := by
  have hmap :=
    firstAnswer_map (resolveWatchdogStatusUrls env) (fun m : { m : Moment // m ∈ ms } => m.1.status)
    fetchStatus none
  have hlook : (Input.answer fetchStatus).look env =
      (firstAnswer fetchStatus (resolveWatchdogStatusUrls env) none).toOption.map Subtype.val := rfl
  unfold getWatchdog Input.statuses
  dsimp only
  rw [hmap, hlook]
  cases firstAnswer fetchStatus (resolveWatchdogStatusUrls env) none with
  | ok m => exact .inl ⟨m.1, m.2, rfl, rfl⟩
  | error lastErr => exact .inr ⟨rfl, lastErr, rfl⟩

theorem looks_cons (input : Input ms) (inputs : List (Input ms)) :
    looks env (input :: inputs) = (input.look env).toList ++ looks env inputs := by
  unfold looks
  rw [List.filterMap_cons]
  cases input.look env <;> rfl

theorem looks_mem {inputs : List (Input ms)} {m : Moment} (h : m ∈ looks env inputs) : m ∈ ms := by
  obtain ⟨input, -, hlook⟩ := List.mem_filterMap.1 h
  cases input with
  | answer fetchStatus =>
    obtain ⟨shown, -, rfl⟩ := Option.map_eq_some_iff.1 hlook
    exact shown.2
  | _ => cases hlook

end Answers

/-! ## What is announced -/

section Tracks

variable (iso : Iso) {env : Watchdog.Environment} {ms : List Moment} {p : Panel}

/-- The events that a moment shows, as the panel reads them. -/
def shownBy (m : Moment) : List Watchdog.WatchdogEvent := m.status.events.map (normalizeEvent iso)

def Panel.notices (p : Panel) : Notices Watchdog.WatchdogEvent String :=
  ⟨p.seenWatchdogEventIds, p.raised⟩

/-- What the panel has announced after these answers. -/
def Panel.Tracks (p : Panel) : List Moment → Prop
  | [] => p.watchdogHydrated = false ∧ p.notices = ⟨[], []⟩
  | m :: later => p.watchdogHydrated = true ∧
      p.notices.Fresh (·.id) ((shownBy iso m).map (·.id)) (later.flatMap (shownBy iso))

/-- The fields that decide what is announced. -/
def Panel.announcing (p : Panel) : Bool × Notices Watchdog.WatchdogEvent String :=
  (p.watchdogHydrated, p.notices)

variable {iso}

theorem Panel.Tracks.congr {p' : Panel} {seen : List Moment} (h : p.Tracks iso seen)
    (hannouncing : p'.announcing = p.announcing) : p'.Tracks iso seen := by
  have hhydrated : p'.watchdogHydrated = p.watchdogHydrated := congrArg Prod.fst hannouncing
  have hnotices : p'.notices = p.notices := congrArg Prod.snd hannouncing
  cases seen with
  | nil => exact ⟨hhydrated.trans h.1, hnotices.trans h.2⟩
  | cons m later => exact ⟨hhydrated.trans h.1, hnotices ▸ h.2⟩

theorem notify_announcing (p : Panel) (ev : Watchdog.WatchdogEvent) :
    (p.notify ev).announcing = (p.watchdogHydrated, p.notices.meet (·.id) ev) := by
  unfold Panel.announcing Panel.notify Notices.meet Panel.notices
  dsimp only
  split <;> rfl

theorem foldl_announcing (evs : List Watchdog.WatchdogEvent) (p : Panel) :
    (evs.foldl Panel.notify p).announcing = (p.watchdogHydrated, p.notices.look (·.id) evs) := by
  induction evs generalizing p with
  | nil => rfl
  | cons ev evs ih =>
    have hev := notify_announcing p ev
    have hhydrated : (p.notify ev).watchdogHydrated = p.watchdogHydrated := congrArg Prod.fst hev
    have hnotices : (p.notify ev).notices = p.notices.meet (·.id) ev := congrArg Prod.snd hev
    rw [List.foldl_cons, ih (p.notify ev), hhydrated, hnotices]
    rfl

/-- An answer. -/
theorem Panel.Tracks.look {seen : List Moment} (h : p.Tracks iso seen) (m : Moment) :
    (p.applyWatchdogPayload (normalizeDockerWatchdog iso m.status)).Tracks iso (seen ++ [m]) := by
  cases seen with
  | nil =>
    obtain ⟨hhydrated, hnotices⟩ := h
    have hseen : p.seenWatchdogEventIds = [] := congrArg Notices.seen hnotices
    have hraised : p.raised = [] := congrArg Notices.raised hnotices
    unfold Panel.applyWatchdogPayload
    rw [if_pos ⟨hhydrated, .inl rfl⟩]
    refine ⟨rfl, Notices.Fresh.start _ (fun k => ?_) hraised⟩
    simp [Panel.notices, hseen, shownBy, normalizeDockerWatchdog]
  | cons first later =>
    obtain ⟨hhydrated, hfresh⟩ := h
    unfold Panel.applyWatchdogPayload
    rw [if_neg (fun hif => by simp [hhydrated] at hif)]
    have hlook :=
      foldl_announcing (shownBy iso m)
        { p with watchdog := some (normalizeDockerWatchdog iso m.status) }
    refine ⟨(congrArg Prod.fst hlook).trans hhydrated, ?_⟩
    have hrest := hfresh.look (shownBy iso m)
    have happend : (later ++ [m]).flatMap (shownBy iso) = later.flatMap (shownBy iso) ++
        shownBy iso m := by
      rw [List.flatMap_append, List.flatMap_singleton]
    have hnotices := congrArg Prod.snd hlook
    simp only [Panel.announcing] at hnotices
    show Notices.Fresh _ _ ((later ++ [m]).flatMap (shownBy iso))
      ((shownBy iso m).foldl Panel.notify _).notices
    rw [hnotices, happend]
    exact hrest

variable (env)

theorem step_tracks {seen : List Moment} (h : p.Tracks iso seen) (input : Input ms) :
    (p.step iso env input).Tracks iso (seen ++ (input.look env).toList) := by
  cases input with
  | answer fetchStatus =>
    show (p.applyWatchdogPayload (getWatchdog iso env (Input.statuses fetchStatus))).Tracks iso _
    rcases getWatchdog_look iso env fetchStatus with ⟨m, -, hlook, hget⟩ | ⟨hlook, lastErr, hget⟩
    · rw [hlook, hget]
      exact h.look m
    · rw [hlook, hget, Option.toList_none, List.append_nil]
      refine h.congr ?_
      unfold Panel.applyWatchdogPayload
      rw [if_neg (fun hif => by simpa [unreachable] using hif.2)]
      rfl
  | _ => exact (List.append_nil seen).symm ▸ h.congr rfl

theorem run_tracks {seen : List Moment} (h : p.Tracks iso seen) (inputs : List (Input ms)) :
    (p.run iso env inputs).Tracks iso (seen ++ looks env inputs) := by
  induction inputs generalizing p seen with
  | nil => rwa [looks, List.filterMap_nil, List.append_nil]
  | cons input inputs ih =>
    have hrest := ih (step_tracks env h input)
    rwa [List.append_assoc, ← looks_cons] at hrest

end Tracks

/-! ## Invariants -/

section Invariants

variable {iso : Iso} {env : Watchdog.Environment} {ms : List Moment} {p : Panel} (I : Panel → Prop)

theorem foldl_keeps (hnotify : ∀ p ev, I p → I (p.notify ev)) (h : I p)
    (evs : List Watchdog.WatchdogEvent) :
    I (evs.foldl Panel.notify p) := by
  induction evs generalizing p with
  | nil => exact h
  | cons ev evs ih => exact ih (hnotify p ev h)

/-- What every step keeps, a run keeps. -/
theorem run_keeps (hstep : ∀ p (input : Input ms), I p → I (p.step iso env input)) (h : I p)
    (inputs : List (Input ms)) :
    I (p.run iso env inputs) := by
  induction inputs generalizing p with
  | nil => exact h
  | cons input inputs ih => exact ih (hstep p input h)

end Invariants

/-! ## Dismissals -/

section Dismissals

variable {iso : Iso} {env : Watchdog.Environment} {ms : List Moment} {p : Panel} {id : String}

/-- The id was seen, and no toast has it. -/
def Panel.Gone (id : String) (p : Panel) : Prop :=
  id ∈ p.seenWatchdogEventIds ∧ ∀ t ∈ p.watchdogToasts, t.id ≠ id

theorem dismissed_gone (h : id ∈ p.seenWatchdogEventIds) : (p.dismissed id).Gone id := by
  refine ⟨h, fun t ht => ?_⟩
  simpa using (List.mem_filter.1 ht).2

theorem notify_gone (h : p.Gone id) (ev : Watchdog.WatchdogEvent) : (p.notify ev).Gone id := by
  unfold Panel.notify
  split
  · exact h
  · next hnew =>
    refine ⟨List.mem_cons_of_mem _ h.1, fun t ht => ?_⟩
    rcases List.mem_cons.1 (List.mem_of_mem_take ht) with rfl | ht
    · intro hid
      cases hid
      exact hnew h.1
    · exact h.2 t ht

theorem apply_gone (h : p.Gone id) (j : WatchdogPayload) : (p.applyWatchdogPayload j).Gone id := by
  have hshown : ({ p with watchdog := some j } : Panel).Gone id := h
  unfold Panel.applyWatchdogPayload
  dsimp only
  split
  · exact ⟨List.mem_append_left _ h.1, h.2⟩
  · exact foldl_keeps (Panel.Gone id) (fun _ ev hp => notify_gone hp ev) hshown j.events

theorem step_gone (h : p.Gone id) (hid : ∀ suffix, id ≠ "chaos-" ++ suffix) (input : Input ms) :
    (p.step iso env input).Gone id := by
  cases input with
  | answer fetchStatus => exact apply_gone h _
  | failed => exact h
  | dismiss other => exact ⟨h.1, fun t ht => h.2 t (List.mem_of_mem_filter ht)⟩
  | chaos suffix message time =>
    refine ⟨h.1, fun t ht => ?_⟩
    rcases List.mem_cons.1 (List.mem_of_mem_take ht) with rfl | ht
    · exact (hid suffix).symm
    · exact h.2 t ht

theorem run_gone (h : p.Gone id) (hid : ∀ suffix, id ≠ "chaos-" ++ suffix)
    (inputs : List (Input ms)) :
    (p.run iso env inputs).Gone id :=
  run_keeps (Panel.Gone id) (fun _ input hp => step_gone hp hid input) h inputs

end Dismissals

/-! ## Toasts -/

section Toasts

variable {iso : Iso} {env : Watchdog.Environment} {ms : List Moment} {p : Panel}

/-- A toast is of an event or of a chaos action. -/
structure Panel.Toasts (p : Panel) : Prop where
  own : ∀ t ∈ p.watchdogToasts, (∃ ev ∈ p.raised, t = eventToast ev) ∨ ∃ suffix,
    t.id = "chaos-" ++ suffix
  few : p.watchdogToasts.length ≤ 8

theorem notify_toasts (h : p.Toasts) (ev : Watchdog.WatchdogEvent) : (p.notify ev).Toasts := by
  unfold Panel.notify
  split
  · exact h
  · refine ⟨fun t ht => ?_, ?_⟩
    · rcases List.mem_cons.1 (List.mem_of_mem_take ht) with rfl | ht
      · exact .inl ⟨ev, List.mem_append_right _ (List.mem_singleton_self ev), rfl⟩
      · refine (h.own t ht).imp_left ?_
        rintro ⟨ev', hev', rfl⟩
        exact ⟨ev', List.mem_append_left _ hev', rfl⟩
    · have := List.length_take_le 6 (eventToast ev :: p.watchdogToasts)
      dsimp only
      omega

theorem apply_toasts (h : p.Toasts) (j : WatchdogPayload) : (p.applyWatchdogPayload j).Toasts := by
  have hshown : ({ p with watchdog := some j } : Panel).Toasts := ⟨h.own, h.few⟩
  unfold Panel.applyWatchdogPayload
  dsimp only
  split
  · exact ⟨h.own, h.few⟩
  · exact foldl_keeps Panel.Toasts (fun _ ev hp => notify_toasts hp ev) hshown j.events

theorem step_toasts (h : p.Toasts) (input : Input ms) : (p.step iso env input).Toasts := by
  cases input with
  | answer fetchStatus => exact apply_toasts h _
  | failed => exact ⟨h.own, h.few⟩
  | dismiss other =>
    exact ⟨fun t ht => h.own t (List.mem_of_mem_filter ht),
      Nat.le_trans (List.length_filter_le _ _) h.few⟩
  | chaos suffix message time =>
    refine ⟨fun t ht => ?_, List.length_take_le 8 _⟩
    rcases List.mem_cons.1 (List.mem_of_mem_take ht) with rfl | ht
    · exact .inr ⟨suffix, rfl⟩
    · exact h.own t ht

theorem run_toasts (h : p.Toasts) (inputs : List (Input ms)) : (p.run iso env inputs).Toasts :=
  run_keeps Panel.Toasts (fun _ input hp => step_toasts hp input) h inputs

theorem start_toasts : Panel.start.Toasts := ⟨fun _ ht => absurd ht List.not_mem_nil, Nat.zero_le 8⟩

end Toasts

end PeHackathon.ComposeWatchdog
