import PeHackathon.Lib.Loop
import PeHackathon.Python.JsonBytes
import PeHackathon.UrlShortener.LogTimestamp

/-!
# The HTTP log shipper

`HttpLogIngestHandler` (`http_log_ingest.py`): `emit` puts a payload on a queue, and a thread takes
them from it and posts each to the dashboard. Encoding stands before the `try` of `_post`, and its
`except` names `OSError` and what is below it, so the thread ends at a payload that cannot be
encoded, and at a POST that raises `HTTPException` (`turn_dies_iff`). A run without such steps ships
every payload, in the order of the queue, and does not end before `close()`
(`shipper_keeps_running`); records of texts and numbers make no such step (`plain_shippable`).
-/

namespace PeHackathon.UrlShortener

open Lib

/-! ## Payloads -/

/-- A record as `emit` finds it. A text is `none` if making it raises. -/
structure EmittedRecord where
  levelname : PyText
  name : PyText
  /-- `record.getMessage()`. -/
  message : Option PyText
  /-- The attributes set on it. -/
  extra : List (String × PyValue)
  /-- `str(record.exc_info)`, if it has an exception. -/
  excInfo : Option (Option PyText)

abbrev LogPayload := List (String × PyValue)

/-- `log_record_to_payload` of a record that nothing has checked. -/
def recordPayload (now : Int) (record : EmittedRecord) (instanceId : PyText) :
    Option LogPayload := do
  let message ← record.message
  some ([("timestamp", .str (PyText.ofString (timestampText now))),
    ("level", .str record.levelname), ("logger", .str record.name), ("message", .str message),
    ("instance_id", .str instanceId)] ++
    ["request_id", "trace_id", "method", "path", "status_code", "duration_ms"].filterMap
      fun key => (record.extra.lookup key).map fun v => (key, v))

/-- What `emit` puts on the queue; `none` if it raises before. -/
def emitPayload (now : Int) (record : EmittedRecord) (instanceId : PyText) : Option LogPayload := do
  let payload ← recordPayload now record instanceId
  match record.excInfo with
  | none => some payload
  | some text => do
    let text ← text
    some (payload ++ [("exc_info", .str text)])

/-- The payload as the `dict` that it is. -/
def payloadValue (payload : LogPayload) : PyValue :=
  .dict (payload.map fun kv => (.str (PyText.ofString kv.1), kv.2))

/-! ## The address -/

/-- `unwrap` of `urllib.parse`. -/
def unwrapUrl (url : String) : List Char :=
  let url := (pyStrip url).toList
  let url := if url.head? = some '<' ∧ url.getLast? = some '>' then
      (pyStrip (String.ofList (url.drop 1).dropLast)).toList else url
  if ['U', 'R', 'L', ':'].isPrefixOf url then (pyStrip (String.ofList (url.drop 4))).toList else url

/-- `_splittag`: without the last `#` and what follows it. -/
def urlWithoutTag (url : List Char) : List Char :=
  if '#' ∈ url then ((url.reverse.dropWhile (· != '#')).drop 1).reverse else url

/-- `Request(url)` raises no `ValueError`: `_splittype` finds a type. -/
def hasUrlType (url : String) : Bool :=
  let url := urlWithoutTag (unwrapUrl url)
  let type := url.takeWhile fun c => c != '/' && c != ':'
  !type.isEmpty && (url.drop type.length).head? == some ':'

/-! ## The handler -/

/-- Where the thread stands. -/
inductive ShipperThread
  /-- In the loop, before it asks `_stop` and the queue. -/
  | looping
  /-- In `_post`. -/
  | posting (payload : LogPayload)
  /-- After the loop. -/
  | returned
  /-- An exception has ended it. -/
  | died

/-- A POST to the dashboard. -/
structure IngestPost where
  url : String
  headers : List (String × String)
  data : List UInt8

/-- What `urlopen` does. `URLError`, `HTTPError` and `TimeoutError` are below `OSError`. -/
inductive UrlopenOutcome
  | response (status : Nat)
  | osError (text : String)
  /-- `http.client.HTTPException`. -/
  | httpException
deriving DecidableEq

/-- `HttpLogIngestHandler`, what it has printed, and the history of its queue and its POSTs. -/
structure HttpLogIngest where
  url : String
  token : Option String
  instanceId : PyText
  queue : List LogPayload
  stop : Bool
  failures : Nat
  emitErr : Bool
  thread : ShipperThread
  printed : List String
  /-- What was put on the queue. -/
  queued : List LogPayload
  /-- What was handed to `_post`, up to the payload that is in it. -/
  handled : List LogPayload
  posts : List IngestPost

namespace HttpLogIngest

/-- `HttpLogIngestHandler(url, token)`. -/
def new (url : String) (token : Option String) (instanceId : PyText) : HttpLogIngest where
  url := String.ofList ((pyStrip url).toList.reverse.dropWhile (· == '/')).reverse
  token := if pyStrip (token.getD "") = "" then none else some (pyStrip (token.getD ""))
  instanceId := instanceId
  queue := []
  stop := false
  failures := 0
  emitErr := false
  thread := .looping
  printed := []
  queued := []
  handled := []
  posts := []

/-- `emit`. A full queue drops the payload. The warning about an exception is a record of its own,
which comes as another call. -/
def emit (h : HttpLogIngest) (now : Int) (record : EmittedRecord) : HttpLogIngest :=
  match emitPayload now record h.instanceId with
  | none => { h with emitErr := true }
  | some payload =>
    if h.queue.length < 8000 then { h with queue := h.queue ++ [payload], queued := h.queued ++
      [payload] }
    else h

def request (h : HttpLogIngest) (data : List UInt8) : IngestPost :=
  let headers := [("Content-Type", "application/json; charset=utf-8")]
  ⟨h.url, match h.token with
    | some token => headers ++ [("X-Log-Ingest-Token", token)]
    | none => headers, data⟩

/-- `urlopen` and the `except` around it. -/
def opened (h : HttpLogIngest) (outcome : UrlopenOutcome) : HttpLogIngest :=
  match outcome with
  | .response status =>
    if 400 ≤ status ∧ h.failures < 5 then
      { h with
        thread := .looping
        failures := h.failures + 1
        printed := h.printed ++ ["[HttpLogIngestHandler] ingest HTTP " ++ toString status] }
    else { h with thread := .looping }
  | .osError text =>
    { h with
      thread := .looping
      failures := h.failures + 1
      printed :=
        if h.failures + 1 ≤ 5 then h.printed ++ ["[HttpLogIngestHandler] ingest failed: " ++ text]
        else h.printed }
  | .httpException => { h with thread := .died }

variable (depth : Nat)

/-- `_post`, where the encoder may nest `depth` deep. -/
def post (h : HttpLogIngest) (payload : LogPayload) (outcome : UrlopenOutcome) : HttpLogIngest :=
  let h := { h with handled := h.handled ++ [payload] }
  match jsonBytes depth (payloadValue payload) with
  | none => { h with thread := .died }
  | some data =>
    if hasUrlType h.url then { h with posts := h.posts ++ [h.request data] }.opened outcome
    else { h with thread := .died }

/-- The thread goes on: through the test of `_stop` and `get`, or through `_post`. -/
def turn (h : HttpLogIngest) (outcome : UrlopenOutcome) : HttpLogIngest :=
  match h.thread with
  | .looping =>
    if h.stop then { h with thread := .returned }
    else
      match h.queue with
      | [] => h
      | payload :: queue => { h with queue := queue, thread := .posting payload }
  | .posting payload => h.post depth payload outcome
  | .returned => h
  | .died => h

/-- `close`. -/
def close (h : HttpLogIngest) : HttpLogIngest := { h with stop := true }

end HttpLogIngest

/-- One step of the process: a record is logged, the thread goes on, or the handler is closed. -/
inductive ShipperStep
  | emit (now : Int) (record : EmittedRecord)
  | turn (outcome : UrlopenOutcome)
  | close

namespace HttpLogIngest

variable (depth : Nat)

def step (h : HttpLogIngest) : ShipperStep → HttpLogIngest
  | .emit now record => h.emit now record
  | .turn outcome => h.turn depth outcome
  | .close => h.close

/-- Steps in any order. -/
def run (h : HttpLogIngest) (steps : List ShipperStep) : HttpLogIngest := steps.foldl (step depth) h

/-- What a run asks of a step: a payload that is posted can be encoded, the address has a type, and
the POST does not raise `HTTPException`. -/
def Shippable (h : HttpLogIngest) : ShipperStep → Prop
  | .turn outcome => match h.thread with
    | .posting payload =>
      (jsonBytes depth (payloadValue payload)).isSome = true ∧ hasUrlType h.url = true ∧
        outcome ≠ .httpException
    | _ => True
  | _ => True

instance (h : HttpLogIngest) (s : ShipperStep) : Decidable (h.Shippable depth s) := by
  unfold Shippable
  split
  · split <;> infer_instance
  · infer_instance

def ShippableRun (h : HttpLogIngest) (steps : List ShipperStep) : Prop :=
  Throughout (fun h s => h.Shippable depth s) (step depth) h steps

/-- The payload in `_post`. -/
def current (h : HttpLogIngest) : List LogPayload :=
  match h.thread with
  | .posting payload => [payload]
  | _ => []

/-- The thread has not ended. -/
def Alive (h : HttpLogIngest) : Prop := h.thread ≠ .returned ∧ h.thread ≠ .died

/-- The thread ends only after `close()`, payloads leave the queue in order, and a POST is attempted
for each that can be encoded. -/
structure Ships (h : HttpLogIngest) : Prop where
  alive : h.stop = false → h.Alive
  order : h.queued = h.handled ++ h.current ++ h.queue
  posted : h.posts = (h.handled.filterMap fun payload => jsonBytes depth (payloadValue payload)).map
    h.request

end HttpLogIngest

/-! ## One step -/

namespace HttpLogIngest

variable {depth : Nat} {h : HttpLogIngest}

/-- Where the thread is in `_post`, the next turn ends it exactly if the step does not meet the
condition. -/
theorem turn_dies_iff {payload : LogPayload} (hthread : h.thread = .posting payload)
    (outcome : UrlopenOutcome) :
    (h.turn depth outcome).thread = .died ↔ ¬ h.Shippable depth (.turn outcome) := by
  unfold turn Shippable
  rw [hthread]
  dsimp only [post]
  cases jsonBytes depth (payloadValue payload) with
  | none => simp
  | some data =>
    by_cases htype : hasUrlType h.url = true
    · cases outcome with
      | response status =>
        simp only [htype, if_true, opened]
        split <;> simp
      | osError text => simp [htype, opened]
      | httpException => simp [htype, opened]
    · simp [htype]

/-- Everything a POST can do that meets the condition. -/
theorem post_cases {payload : LogPayload} {outcome : UrlopenOutcome}
    (hdata : (jsonBytes depth (payloadValue payload)).isSome = true)
    (htype : hasUrlType h.url = true) (houtcome : outcome ≠ .httpException) :
    ∃ data failures printed, jsonBytes depth (payloadValue payload) = some data ∧
      h.post depth payload outcome = { h with
        thread := .looping, failures := failures, printed := printed,
        handled := h.handled ++ [payload], posts := h.posts ++ [h.request data] } := by
  obtain ⟨data, hdata⟩ := Option.isSome_iff_exists.1 hdata
  unfold post
  rw [hdata]
  dsimp only
  rw [if_pos htype]
  cases outcome with
  | response status =>
    unfold opened
    dsimp only
    split
    · exact ⟨data, _, _, rfl, rfl⟩
    · exact ⟨data, _, _, rfl, rfl⟩
  | osError text => exact ⟨data, _, _, rfl, rfl⟩
  | httpException => exact absurd rfl houtcome

/-- Whatever becomes of a POST, it is attempted for a payload that can be encoded, and touches no
queue. -/
theorem post_attempted {payload : LogPayload} {data : List UInt8} (outcome : UrlopenOutcome)
    (hdata : jsonBytes depth (payloadValue payload) = some data) (htype : hasUrlType h.url = true) :
    (h.post depth payload outcome).posts = h.posts ++ [h.request data] ∧
      (h.post depth payload outcome).queue = h.queue ∧ (h.post depth payload outcome).stop =
        h.stop := by
  unfold post
  rw [hdata]
  dsimp only
  rw [if_pos htype]
  cases outcome with
  | response status =>
    unfold opened
    dsimp only
    split
    · exact ⟨rfl, rfl, rfl⟩
    · exact ⟨rfl, rfl, rfl⟩
  | osError text => exact ⟨rfl, rfl, rfl⟩
  | httpException => exact ⟨rfl, rfl, rfl⟩

/-- Everything a turn can do that meets the condition. -/
theorem turn_cases {outcome : UrlopenOutcome} (hfine : h.Shippable depth (.turn outcome)) :
    (¬ h.Alive ∧ h.turn depth outcome = h) ∨
    (h.thread = .looping ∧ h.stop = true ∧ h.turn depth outcome = { h with thread := .returned }) ∨
    (h.thread = .looping ∧ h.queue = [] ∧ h.turn depth outcome = h) ∨
    (∃ payload queue, h.thread = .looping ∧ h.queue = payload :: queue ∧
      h.turn depth outcome = { h with queue := queue, thread := .posting payload }) ∨
    ∃ payload data failures printed, h.thread = .posting payload ∧
      jsonBytes depth (payloadValue payload) = some data ∧
      h.turn depth outcome = { h with
        thread := .looping, failures := failures, printed := printed,
        handled := h.handled ++ [payload], posts := h.posts ++ [h.request data] } := by
  unfold turn Shippable at *
  cases hthread : h.thread with
  | looping =>
    dsimp only
    by_cases hstop : h.stop = true
    · rw [if_pos hstop]
      exact .inr (.inl ⟨rfl, hstop, rfl⟩)
    · rw [if_neg hstop]
      cases hqueue : h.queue with
      | nil => exact .inr (.inr (.inl ⟨rfl, rfl, rfl⟩))
      | cons payload queue => exact .inr (.inr (.inr (.inl ⟨payload, queue, rfl, rfl, rfl⟩)))
  | posting payload =>
    rw [hthread] at hfine
    obtain ⟨data, failures, printed, hdata, hpost⟩ := post_cases hfine.1 hfine.2.1 hfine.2.2
    exact .inr (.inr (.inr (.inr ⟨payload, data, failures, printed, rfl, hdata, hpost⟩)))
  | returned => exact .inl ⟨fun halive => halive.1 hthread, rfl⟩
  | died => exact .inl ⟨fun halive => halive.2 hthread, rfl⟩

theorem emit_cases (h : HttpLogIngest) (now : Int) (record : EmittedRecord) :
    h.emit now record = { h with emitErr := true } ∨ h.emit now record = h ∨
    ∃ payload, emitPayload now record h.instanceId = some payload ∧
      h.emit now record =
        { h with queue := h.queue ++ [payload], queued := h.queued ++ [payload] } := by
  unfold emit
  split
  · exact .inl rfl
  · rename_i payload hpayload
    split
    · exact .inr (.inr ⟨payload, hpayload, rfl⟩)
    · exact .inr (.inl rfl)

theorem current_looping (hthread : h.thread = .looping) : h.current = [] := by
  rw [current, hthread]

theorem current_posting {payload : LogPayload} (hthread : h.thread = .posting payload) :
    h.current = [payload] := by
  rw [current, hthread]

theorem length_current_le (h : HttpLogIngest) : h.current.length ≤ 1 := by
  unfold current
  split
  · exact Nat.le_refl 1
  · exact Nat.zero_le 1

/-- A step that meets the condition keeps the thread shipping. -/
theorem step_ships {s : ShipperStep} (hships : h.Ships depth) (hfine : h.Shippable depth s) :
    (h.step depth s).Ships depth := by
  cases s with
  | emit now record =>
    change (h.emit now record).Ships depth
    rcases emit_cases h now record with hemit | hemit | ⟨payload, -, hemit⟩
    · rw [hemit]
      exact ⟨hships.alive, hships.order, hships.posted⟩
    · rw [hemit]
      exact hships
    · rw [hemit]
      refine ⟨hships.alive, ?_, hships.posted⟩
      change h.queued ++ [payload] = h.handled ++ h.current ++ (h.queue ++ [payload])
      rw [hships.order, List.append_assoc (h.handled ++ h.current)]
  | turn outcome =>
    change (h.turn depth outcome).Ships depth
    rcases turn_cases hfine with ⟨-, hturn⟩ | ⟨hthread, hstop, hturn⟩ | ⟨-, -, hturn⟩ |
      ⟨payload, queue, hthread, hqueue, hturn⟩ | ⟨payload, data, failures, printed, hthread,
        hdata, hturn⟩
    · rw [hturn]
      exact hships
    · rw [hturn]
      refine ⟨fun hrunning => ?_, ?_, hships.posted⟩
      · cases hstop.symm.trans hrunning
      · have horder := hships.order
        rw [current_looping hthread] at horder
        exact horder
    · rw [hturn]
      exact hships
    · rw [hturn]
      refine ⟨fun _ => ⟨ShipperThread.noConfusion, ShipperThread.noConfusion⟩, ?_, hships.posted⟩
      have horder := hships.order
      rw [current_looping hthread, List.append_nil, hqueue] at horder
      change h.queued = h.handled ++ [payload] ++ queue
      rw [horder, List.append_assoc]
      rfl
    · rw [hturn]
      refine ⟨fun _ => ⟨ShipperThread.noConfusion, ShipperThread.noConfusion⟩, ?_, ?_⟩
      · have horder := hships.order
        rw [current_posting hthread] at horder
        change h.queued = h.handled ++ [payload] ++ [] ++ h.queue
        rw [horder, List.append_nil]
      · change h.posts ++ [h.request data] =
          ((h.handled ++ [payload]).filterMap fun payload =>
            jsonBytes depth (payloadValue payload)).map h.request
        rw [List.filterMap_append, List.map_append, ← hships.posted]
        have hone :
            [payload].filterMap (fun payload => jsonBytes depth (payloadValue payload)) = [data] :=
          List.filterMap_cons_some hdata
        rw [hone]
        rfl
  | close =>
    change h.close.Ships depth
    exact ⟨fun hrunning => Bool.noConfusion hrunning, hships.order, hships.posted⟩

/-! ## Runs -/

/-- The steps that are turns of the thread. -/
def turns (steps : List ShipperStep) : Nat := steps.countP fun s => match s with
  | .turn _ => true
  | _ => false

/-- What is on the queue stays known, and `_stop` stays set. -/
theorem step_keeps (s : ShipperStep) (hfine : h.Shippable depth s) :
    h.queued <+: (h.step depth s).queued ∧ (h.stop = true → (h.step depth s).stop = true) := by
  cases s with
  | emit now record =>
    change h.queued <+: (h.emit now record).queued ∧
      (h.stop = true → (h.emit now record).stop = true)
    rcases emit_cases h now record with hemit | hemit | ⟨payload, -, hemit⟩
    · rw [hemit]
      exact ⟨List.prefix_refl _, id⟩
    · rw [hemit]
      exact ⟨List.prefix_refl _, id⟩
    · rw [hemit]
      exact ⟨List.prefix_append _ _, id⟩
  | turn outcome =>
    change h.queued <+: (h.turn depth outcome).queued ∧
      (h.stop = true → (h.turn depth outcome).stop = true)
    rcases turn_cases hfine with ⟨-, hturn⟩ | ⟨-, -, hturn⟩ | ⟨-, -, hturn⟩ | ⟨_, _, -, -, hturn⟩ |
      ⟨_, _, _, _, -, -, hturn⟩
    all_goals
      rw [hturn]
      exact ⟨List.prefix_refl _, id⟩
  | close => exact ⟨List.prefix_refl _, fun _ => rfl⟩

variable {steps : List ShipperStep}

theorem run_keeps (hrun : h.ShippableRun depth steps) :
    h.queued <+: (h.run depth steps).queued ∧
      (h.stop = true → (h.run depth steps).stop = true) := by
  induction steps generalizing h with
  | nil => exact ⟨List.prefix_refl _, id⟩
  | cons s steps ih =>
    obtain ⟨hqueued, hstop⟩ := step_keeps s hrun.1
    obtain ⟨hqueued', hstop'⟩ := ih hrun.2
    exact ⟨hqueued.trans hqueued', hstop' ∘ hstop⟩

theorem run_posting {payload : LogPayload} (hthread : (h.run depth steps).thread = .posting payload)
    (outcome : UrlopenOutcome) :
    h.run depth (steps ++ [.turn outcome]) = (h.run depth steps).post depth payload outcome := by
  rw [run, List.foldl_append]
  change (h.run depth steps).turn depth outcome = _
  rw [turn, hthread]

theorem run_dies_iff {payload : LogPayload}
    (hthread : (h.run depth steps).thread = .posting payload) (outcome : UrlopenOutcome) :
    (h.run depth (steps ++ [.turn outcome])).thread = .died ↔
      ¬ (h.run depth steps).Shippable depth (.turn outcome) := by
  rw [run, List.foldl_append]
  exact turn_dies_iff hthread outcome

theorem emit_frame (h : HttpLogIngest) (now : Int) (record : EmittedRecord) :
    (h.emit now record).handled = h.handled ∧ (h.emit now record).current = h.current ∧
      h.queue.length ≤ (h.emit now record).queue.length := by
  rcases emit_cases h now record with hemit | hemit | ⟨payload, -, hemit⟩
  · rw [hemit]
    exact ⟨rfl, rfl, Nat.le_refl _⟩
  · rw [hemit]
    exact ⟨rfl, rfl, Nat.le_refl _⟩
  · rw [hemit]
    refine ⟨rfl, rfl, ?_⟩
    rw [List.length_append]
    exact Nat.le_add_right _ _

/-- A turn before `close()` finds nothing to do, or takes a payload from the queue, or is done with
one. -/
theorem turn_progress {outcome : UrlopenOutcome} (hships : h.Ships depth) (hopen : h.stop = false)
    (hfine : h.Shippable depth (.turn outcome)) :
    let h' := h.turn depth outcome
    (h.current.length = 0 ∧ h.queue.length = 0 ∧ h'.handled.length = h.handled.length ∧
      h'.current.length = 0) ∨
    (h.current.length = 0 ∧ h'.current.length = 1 ∧ h.queue.length = h'.queue.length + 1 ∧
      h'.handled.length = h.handled.length) ∨
    (h.current.length = 1 ∧ h'.current.length = 0 ∧ h.queue.length = h'.queue.length ∧
      h'.handled.length = h.handled.length + 1) := by
  rcases turn_cases hfine with ⟨hended, -⟩ | ⟨-, hstop, -⟩ | ⟨hthread, hqueue, hturn⟩ |
    ⟨payload, queue, hthread, hqueue, hturn⟩ | ⟨payload, data, failures, printed, hthread, -, hturn⟩
  · exact absurd (hships.alive hopen) hended
  · cases hstop.symm.trans hopen
  · have hnone : h.current.length = 0 := congrArg List.length (current_looping hthread)
    rw [hturn]
    exact .inl ⟨hnone, congrArg List.length hqueue, rfl, hnone⟩
  · have hnone : h.current.length = 0 := congrArg List.length (current_looping hthread)
    rw [hturn, hqueue]
    exact .inr (.inl ⟨hnone, rfl, List.length_cons, rfl⟩)
  · have hone : h.current.length = 1 := congrArg List.length (current_posting hthread)
    rw [hturn]
    exact .inr (.inr ⟨hone, rfl, rfl, List.length_append⟩)

/-- Two turns take a payload through `_post`: one from the queue, and one through the POST. -/
theorem handled_grows {k : Nat} (hships : h.Ships depth) (hrun : h.ShippableRun depth steps)
    (hstop : (h.run depth steps).stop = false) (hk : k ≤ h.current.length + h.queue.length) :
    h.handled.length + min k ((turns steps + h.current.length) / 2) ≤
      (h.run depth steps).handled.length := by
  induction steps generalizing h k with
  | nil =>
    have hone := length_current_le h
    change h.handled.length + min k ((0 + h.current.length) / 2) ≤ h.handled.length
    omega
  | cons s steps ih =>
    have hnext := step_ships hships hrun.1
    have hopen : h.stop = false := by
      cases hclosed : h.stop with
      | false => rfl
      | true => exact absurd (((run_keeps hrun).2 hclosed).symm.trans hstop) (Bool.noConfusion)
    cases s with
    | emit now record =>
      obtain ⟨hhandled, hcurrent, hqueue⟩ := emit_frame h now record
      have hrest := @ih (h.emit now record) k hnext hrun.2 hstop (by rw [hcurrent]; omega)
      rw [hhandled, hcurrent] at hrest
      exact hrest
    | turn outcome =>
      have hturns : turns (.turn outcome :: steps) = turns steps + 1 := List.countP_cons_of_pos rfl
      rw [hturns]
      rcases turn_progress hships hopen hrun.1 with ⟨hcurrent, hqueue, hhandled, -⟩ |
        ⟨hcurrent, hcurrent', hqueue, hhandled⟩ | ⟨hcurrent, hcurrent', hqueue, hhandled⟩
      · have hrest := @ih (h.turn depth outcome) 0 hnext hrun.2 hstop (Nat.zero_le _)
        change _ ≤ ((h.turn depth outcome).run depth steps).handled.length
        omega
      · have hrest := @ih (h.turn depth outcome) k hnext hrun.2 hstop (by omega)
        change _ ≤ ((h.turn depth outcome).run depth steps).handled.length
        omega
      · have hrest := @ih (h.turn depth outcome) (k - 1) hnext hrun.2 hstop (by omega)
        change _ ≤ ((h.turn depth outcome).run depth steps).handled.length
        omega
    | close => exact absurd (((run_keeps hrun.2).2 rfl).symm.trans hstop) Bool.noConfusion

end HttpLogIngest

/-- Its texts can be encoded, and no attribute holds other values. -/
structure EmittedRecord.Plain (record : EmittedRecord) : Prop where
  levelname : record.levelname.Encodable
  name : record.name.Encodable
  message : ∀ text, record.message = some text → text.Encodable
  extra : ∀ kv ∈ record.extra, kv.2.Plain
  excInfo : ∀ text, record.excInfo = some (some text) → text.Encodable

/-- Every value can be encoded. -/
def PlainPayload (payload : LogPayload) : Prop := ∀ kv ∈ payload, kv.2.Plain

theorem payload_encodes {payload : LogPayload} (h : PlainPayload payload) (depth : Nat) :
    (jsonBytes (depth + 1) (payloadValue payload)).isSome = true := by
  have hencodes := @jsonBytes_plain (payload.map fun kv => (PyText.ofString kv.1, kv.2)) ?_ ?_ depth
  · rwa [List.map_map] at hencodes
  · intro kv hkv
    obtain ⟨kv', -, rfl⟩ := List.mem_map.1 hkv
    exact PyText.encodable_ofChars _
  · intro kv hkv
    obtain ⟨kv', hkv', rfl⟩ := List.mem_map.1 hkv
    exact h kv' hkv'

theorem recordPayload_plain {now : Int} {record : EmittedRecord} {instanceId : PyText}
    {payload : LogPayload} (hrecord : record.Plain) (hid : instanceId.Encodable)
    (h : recordPayload now record instanceId = some payload) : PlainPayload payload := by
  unfold recordPayload at h
  obtain ⟨message, hmessage, h⟩ := Option.bind_eq_some_iff.1 h
  cases h
  refine List.forall_mem_append.2 ⟨?_, fun kv hkv => ?_⟩
  · simp only [List.forall_mem_cons]
    exact ⟨PyText.encodable_ofChars _, hrecord.levelname, hrecord.name,
      hrecord.message message hmessage, hid, fun kv hkv => absurd hkv List.not_mem_nil⟩
  · obtain ⟨key, -, hkey⟩ := List.mem_filterMap.1 hkv
    obtain ⟨v, hv, rfl⟩ := Option.map_eq_some_iff.1 hkey
    obtain ⟨before, after, hsplit, -⟩ := List.lookup_eq_some_iff.1 hv
    have hmem : (key, v) ∈ record.extra := by
      rw [hsplit]
      exact List.mem_append_right _ List.mem_cons_self
    exact hrecord.extra (key, v) hmem

theorem emitPayload_plain {now : Int} {record : EmittedRecord} {instanceId : PyText}
    {payload : LogPayload} (hrecord : record.Plain) (hid : instanceId.Encodable)
    (h : emitPayload now record instanceId = some payload) : PlainPayload payload := by
  unfold emitPayload at h
  obtain ⟨base, hbase, h⟩ := Option.bind_eq_some_iff.1 h
  have hplain := recordPayload_plain hrecord hid hbase
  cases hexc : record.excInfo with
  | none =>
    rw [hexc] at h
    cases h
    exact hplain
  | some text =>
    rw [hexc] at h
    obtain ⟨text, rfl, h⟩ := Option.bind_eq_some_iff.1 h
    cases h
    exact List.forall_mem_append.2 ⟨hplain, List.forall_mem_singleton.2 (hrecord.excInfo text hexc)⟩

/-- A plain record is logged, or the POST raises nothing but `OSError`, or the handler is closed. -/
def ShipperStep.Plain : ShipperStep → Prop
  | .emit _ record => record.Plain
  | .turn outcome => outcome ≠ .httpException
  | .close => True

namespace HttpLogIngest

variable {depth : Nat} {h : HttpLogIngest}

/-- What waits can be posted. -/
structure Ready (h : HttpLogIngest) : Prop where
  urlType : hasUrlType h.url = true
  instanceId : h.instanceId.Encodable
  current : ∀ payload ∈ h.current, PlainPayload payload
  queue : ∀ payload ∈ h.queue, PlainPayload payload

theorem Ready.shippable {s : ShipperStep} (hready : h.Ready) (hs : s.Plain) :
    h.Shippable (depth + 1) s := by
  cases s with
  | emit now record => trivial
  | close => trivial
  | turn outcome =>
    unfold Shippable
    dsimp only
    split
    · rename_i payload hthread
      have hplain :=
        hready.current payload (by rw [current_posting hthread]; exact List.mem_singleton_self _)
      exact ⟨payload_encodes hplain depth, hready.urlType, hs⟩
    · trivial

theorem Ready.step {s : ShipperStep} (hready : h.Ready) (hs : s.Plain) :
    (h.step (depth + 1) s).Ready := by
  cases s with
  | emit now record =>
    change (h.emit now record).Ready
    rcases emit_cases h now record with hemit | hemit | ⟨payload, hpayload, hemit⟩
    · rw [hemit]
      exact ⟨hready.urlType, hready.instanceId, hready.current, hready.queue⟩
    · rw [hemit]
      exact hready
    · rw [hemit]
      have hplain := emitPayload_plain hs hready.instanceId hpayload
      refine ⟨hready.urlType, hready.instanceId, hready.current, ?_⟩
      exact List.forall_mem_append.2 ⟨hready.queue, List.forall_mem_singleton.2 hplain⟩
  | turn outcome =>
    change (h.turn (depth + 1) outcome).Ready
    rcases turn_cases (hready.shippable hs) with ⟨-, hturn⟩ | ⟨hthread, -, hturn⟩ | ⟨-, -, hturn⟩ |
      ⟨payload, queue, hthread, hqueue, hturn⟩ | ⟨payload, data, failures, printed,
        hthread, -, hturn⟩
    · rw [hturn]
      exact hready
    · rw [hturn]
      exact ⟨hready.urlType, hready.instanceId, fun payload hp => absurd hp List.not_mem_nil,
        hready.queue⟩
    · rw [hturn]
      exact hready
    · rw [hturn]
      have hplain := hready.queue
      rw [hqueue, List.forall_mem_cons] at hplain
      exact ⟨hready.urlType, hready.instanceId, List.forall_mem_singleton.2 hplain.1, hplain.2⟩
    · rw [hturn]
      exact ⟨hready.urlType, hready.instanceId, fun payload hp => absurd hp List.not_mem_nil,
        hready.queue⟩
  | close => exact ⟨hready.urlType, hready.instanceId, hready.current, hready.queue⟩

/-- **Plain records are shipped**: a run of them meets the condition, unless a POST raises
`HTTPException`. -/
theorem plain_shippable {url : String} {token : Option String} {instanceId : PyText}
    {steps : List ShipperStep} (htype : hasUrlType (new url token instanceId).url = true)
    (hid : instanceId.Encodable) (hsteps : ∀ s ∈ steps, s.Plain) :
    (new url token instanceId).ShippableRun (depth + 1) steps := by
  have hstart : (new url token instanceId).Ready :=
    ⟨htype, hid, fun payload hp => absurd hp List.not_mem_nil, fun payload hp =>
      absurd hp List.not_mem_nil⟩
  exact Throughout.of_invariant (fun h s hready hs => ⟨hready.shippable hs, hready.step hs⟩)
    hstart hsteps

end HttpLogIngest

/-! ## Samples -/

/-- A line of the request log, with an attribute. -/
def requestRecord (requestId : PyValue) : EmittedRecord where
  levelname := PyText.ofString "INFO"
  name := PyText.ofString "app.middleware"
  message := some (PyText.ofString "http_request")
  extra := [("request_id", requestId)]
  excInfo := none

def sampleShipper : HttpLogIngest :=
  HttpLogIngest.new "https://dashboard.example/api/ingest" none (PyText.ofString "1")

/-- Two records, and a turn that takes the first from the queue. -/
def twoRecords (requestId : PyValue) : List ShipperStep :=
  [.emit 1767258000000001 (requestRecord requestId),
    .emit 1767258000000002 (requestRecord (.str (PyText.ofString "b"))), .turn (.response 201)]

end PeHackathon.UrlShortener
