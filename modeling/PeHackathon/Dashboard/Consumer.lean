import PeHackathon.Dashboard.LogFilters
import PeHackathon.Dashboard.Statistics

/-!
# The Kafka consumer

`kafka_consumer.py` and `discord_alerter.py`: the loop that polls, decodes what arrives, adds it to
the cache and hands it to the alerter. The alerter catches what it raises. The loop catches what the
decoding of a bad text raises, and anything else ends it.
-/

namespace PeHackathon.Dashboard

/-! ## The alerter -/

structure DiscordAlerter where
  webhookUrl : String
  lastSent : Int

/-- What is left open when an alert is sent: `time.monotonic()` in microseconds, and whether Discord
answers. -/
structure AlertEnv where
  now : Int
  reachable : Bool

namespace DiscordAlerter

variable (py : PyCase)

/-- `int(entry.get("status_code", 0))`. -/
def statusOf (entry : JsonObject) : Option Int :=
  (pyInt ((entry.get? "status_code").getD (.int 0))).toOption

/-- `should_alert`; `none` if it raises. -/
def shouldAlert (entry : JsonObject) : Option Bool := do
  let status ← statusOf entry
  match (entry.get? "level").getD (.str "") with
  | .str level => some (500 ≤ status ∨ py.upper level ∈ ["ERROR", "CRITICAL"])
  | _ => none

/-- `send_alert`: the alerter after it, or `none` if it raises. -/
def sendAlert (env : AlertEnv) (entry : JsonObject) (alerter : DiscordAlerter) :
    Option DiscordAlerter :=
  if env.now - alerter.lastSent < 1000000 then some alerter
  else do
    let _status ← statusOf entry
    -- `message[:200]`
    match (entry.get? "message").getD (.str "") with
    | .str _ | .arr _ => if env.reachable then some { alerter with lastSent := env.now } else none
    | _ => none

/-- `maybe_alert` catches what the other two raise. -/
def maybeAlert (env : AlertEnv) (entry : JsonObject) (alerter : DiscordAlerter) : DiscordAlerter :=
  if alerter.webhookUrl = "" then alerter
  else
    match shouldAlert py entry with
    | some true => (alerter.sendAlert env entry).getD alerter
    | _ => alerter

end DiscordAlerter

/-! ## The loop -/

/-- What `json.loads(msg.value().decode("utf-8"))` does. -/
inductive Decoded
  | payload (x : Json)
  /-- It raises `JSONDecodeError` or `UnicodeDecodeError`. -/
  | bad
  /-- It raises something else. -/
  | raised

/-- What a poll brings. A message may come without a value. -/
inductive Polled
  | nothing
  | error (partitionEof : Bool)
  | message (value : Option (List UInt8))

/-- A poll, the time `add` reads, and what the alerter meets. -/
structure PollEvent where
  polled : Polled
  now : Int
  env : AlertEnv

structure Consumer where
  cache : StatsCache
  alerter : Option DiscordAlerter
  /-- The loop still polls. -/
  polling : Bool

section

variable (py : PyCase) (loads : List UInt8 → Decoded)

namespace Consumer

/-- When `run_consumer` starts to poll. -/
def start (cache : StatsCache) (alerter : Option DiscordAlerter) : Consumer where
  cache := cache
  alerter := alerter
  polling := true

/-- `Consumer crashed`. -/
def crash (c : Consumer) : Consumer := { c with polling := false }

/-- What the loop does with a decoded message. -/
def handle (event : PollEvent) (payload : Json) (c : Consumer) : Consumer :=
  match c.cache.add event.now payload, payload with
  | (cache, none), .obj fields =>
    { c with cache, alerter := c.alerter.map (·.maybeAlert py event.env fields) }
  | (cache, none), _ => { c with cache }
  | (cache, some _), _ => { c with cache }.crash

/-- One turn of the loop. -/
def turn (c : Consumer) (event : PollEvent) : Consumer :=
  match event.polled with
  | .nothing | .error _ => c
  | .message none => c.crash
  | .message (some value) =>
    match loads value with
    | .payload x => c.handle py event x
    | .bad => c
    | .raised => c.crash

/-- What the loop makes of a list of polls. -/
def run (c : Consumer) : List PollEvent → Consumer
  | [] => c
  | event :: events => if c.polling then run (c.turn py loads event) events else c

end Consumer

/-- A poll the loop goes on after: nothing, a broker event, a text that is not JSON, or the text of
an object whose fields can be converted. -/
def Harmless (event : PollEvent) : Prop :=
  match event.polled with
  | .nothing | .error _ => True
  | .message none => False
  | .message (some value) =>
    match loads value with
    | .payload (.obj fields) => Readable fields
    | .payload _ => False
    | .bad => True
    | .raised => False

end

/-! ## Its turns -/

namespace Consumer

variable {py : PyCase} {loads : List UInt8 → Decoded} {c : Consumer} {event : PollEvent}

theorem add_not_object {x : Json} (h : ∀ fields, x ≠ .obj fields) (now : Int) (cache : StatsCache) :
    (cache.add now x).2 = some .attributeError := by
  unfold StatsCache.add StatsCache.updateStats
  cases x with
  | obj fields => exact absurd rfl (h fields)
  | _ => rfl

/-- An object that can be read is added, and the loop goes on. -/
theorem handle_of_reading {fields : JsonObject} {r : Reading} (h : reading fields = .ok r) :
    c.handle py event (.obj fields) =
      { c with
        cache := c.cache.applied event.now fields r
        alerter := c.alerter.map (·.maybeAlert py event.env fields) } := by
  unfold handle
  rw [StatsCache.add_of_reading h]

/-- The loop goes on after a message exactly if it is an object that can be read. -/
theorem handle_polling (h : c.polling = true) (x : Json) :
    (c.handle py event x).polling = true ↔ ∃ fields, x = .obj fields ∧ Readable fields := by
  constructor
  · intro hpolling
    have hadd : (c.cache.add event.now x).2 = none := by
      unfold handle at hpolling
      cases hraised : c.cache.add event.now x with
      | mk cache raised =>
        cases raised with
        | none => rfl
        | some e =>
          rw [hraised] at hpolling
          cases hpolling
    by_cases hx : ∃ fields, x = .obj fields
    · obtain ⟨fields, rfl⟩ := hx
      exact ⟨fields, rfl, StatsCache.add_returns.1 hadd⟩
    · rw [add_not_object fun fields heq => hx ⟨fields, heq⟩] at hadd
      cases hadd
  · rintro ⟨fields, rfl, r, hr⟩
    rw [handle_of_reading hr]
    exact h

/-- The loop goes on after a turn exactly if the poll is harmless. -/
theorem turn_polling (h : c.polling = true) :
    (c.turn py loads event).polling = true ↔ Harmless loads event := by
  unfold turn Harmless
  cases event.polled with
  | nothing => simp [h]
  | error partitionEof => simp [h]
  | message value =>
    cases value with
    | none => simp [crash]
    | some value =>
      simp only
      cases loads value with
      | bad => simp [h]
      | raised => simp [crash]
      | payload x =>
        simp only
        rw [handle_polling h]
        cases x with
        | obj fields => simp
        | _ => simp

theorem run_append (c : Consumer) (before after : List PollEvent) :
    c.run py loads (before ++ after) = (c.run py loads before).run py loads after := by
  induction before generalizing c with
  | nil => rfl
  | cons event before ih =>
    rw [List.cons_append, run, run]
    split
    · exact ih _
    · rename_i hstopped
      cases after with
      | nil => rfl
      | cons event after => rw [run, if_neg hstopped]

/-- A loop that polls after some polls polled after fewer. -/
theorem polling_of_run {events : List PollEvent} (h : (c.run py loads events).polling = true) :
    c.polling = true := by
  cases events with
  | nil => exact h
  | cons event events =>
    unfold run at h
    split at h
    · assumption
    · exact h

theorem run_polling (h : c.polling = true) (events : List PollEvent) :
    (c.run py loads events).polling = true ↔ ∀ event ∈ events, Harmless loads event := by
  induction events generalizing c with
  | nil => simp [run, h]
  | cons event events ih =>
    rw [List.forall_mem_cons, run, if_pos h]
    constructor
    · intro hrun
      have hturn := polling_of_run hrun
      exact ⟨(turn_polling h).1 hturn, (ih hturn).1 hrun⟩
    · rintro ⟨hevent, hevents⟩
      exact (ih ((turn_polling h).2 hevent)).2 hevents

end Consumer

/-! ## Every message -/

section

variable (py : PyCase) (loads : List UInt8 → Decoded)

/-- An integer status code, a numeric duration and a text for the level. -/
def WellFormedFields (fields : JsonObject) : Prop :=
  (∀ x, fields.get? "status_code" = some x → ∃ i, x = .int i) ∧
  (∀ x, fields.get? "duration_ms" = some x → (∃ i, x = .int i) ∨ ∃ f, x = .float f) ∧
  ∀ x, fields.get? "level" = some x → ∃ s, x = .str s

/-- No message ends the loop, and every well-formed one is added to the cache, whatever came
before. -/
structure SurvivesAll (c : Consumer) (events : List PollEvent) : Prop where
  polling : ∀ before after, events = before ++ after → (c.run py loads before).polling = true
  added : ∀ before event after value fields, events = before ++ event :: after →
    event.polled = .message (some value) → loads value = .payload (.obj fields) →
    WellFormedFields fields → ∃ r, reading fields = .ok r ∧
      (c.run py loads (before ++ [event])).cache =
        (c.run py loads before).cache.applied event.now fields r

/-- **The loop survives** exactly the sequences of harmless polls. -/
theorem survivesAll_iff (cache : StatsCache) (alerter : Option DiscordAlerter)
    (events : List PollEvent) :
    SurvivesAll py loads (.start cache alerter) events ↔
      ∀ event ∈ events, Harmless loads event := by
  constructor
  · intro h
    exact (Consumer.run_polling rfl events).1 (h.polling events [] (List.append_nil events).symm)
  · intro h
    have hpolling : ∀ before after, events = before ++ after →
        ((Consumer.start cache alerter).run py loads before).polling = true := by
      intro before after hevents
      refine (Consumer.run_polling rfl before).2 fun event hevent => h event ?_
      rw [hevents]
      exact List.mem_append_left after hevent
    refine ⟨hpolling, ?_⟩
    intro before event after value fields hevents hpolled hloads _
    have hharmless := h event (by rw [hevents]; simp)
    unfold Harmless at hharmless
    simp only [hpolled, hloads] at hharmless
    obtain ⟨r, hr⟩ := hharmless
    refine ⟨r, hr, ?_⟩
    rw [Consumer.run_append, Consumer.run, if_pos (hpolling before _ hevents), Consumer.run,
      Consumer.turn, hpolled]
    simp only [hloads]
    rw [Consumer.handle_of_reading hr]

end

/-! ## A list -/

/-- `json.loads` of the text `[]`; other texts are left out. -/
def emptyListLoads (value : List UInt8) : Decoded :=
  if value = [0x5b, 0x5d] then .payload (.arr []) else .bad

/-- An empty list arrives: it has no `get`, and the loop ends. -/
theorem list_ends_loop : ¬ SurvivesAll samplePyCase emptyListLoads (.start (.new 1000) none)
    [{ polled := .message (some [0x5b, 0x5d]), now := 0,
       env := { now := 0, reachable := true } }] := by
  intro h
  have hpolling := h.polling _ [] (List.append_nil _).symm
  exact absurd hpolling (by decide)

end PeHackathon.Dashboard
