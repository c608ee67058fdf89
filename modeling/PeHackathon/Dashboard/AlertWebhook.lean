import PeHackathon.Dashboard.WebhookBatches

/-!
# The Alertmanager webhook

`alertmanager_webhook` in `main.py`, with `insert_incident_event` of `db.py`: one row for each
alert, and then the alerts go to Discord. The answer counts the alerts it went through, not the rows
that were stored, and a request that raises keeps the rows stored before. What it answers is what it
did exactly if all inserts succeed in a request that comes to its end, or none does in one that does
not (`reported_iff`).
-/

namespace PeHackathon.Dashboard

open Lib

/-! ## Rows -/

structure IncidentRow where
  eventType : String
  severity : Json
  title : String
  description : Json
  source : String
  alertName : Json
  status : String
  metadata : Json

/-- How an insert goes: what is stored, and the answer that `insert_incident_event` returns. -/
inductive DbOutcome
  | inserted (id : Int)
  /-- Nothing is stored: the database cannot be reached, or refuses the row. -/
  | failed
  /-- The row is stored, and the connection breaks before the answer. -/
  | unacknowledged
  deriving DecidableEq

def DbOutcome.stored : DbOutcome → Bool
  | .inserted _ | .unacknowledged => true
  | .failed => false

/-- `insert_incident_event`: what it returns, and the table. -/
def insertIncidentEvent (outcome : DbOutcome) (row : IncidentRow) (table : List IncidentRow) :
    Option Int × List IncidentRow :=
  match outcome with
  | .inserted id => (some id, table ++ [row])
  | .failed => (none, table)
  | .unacknowledged => (none, table ++ [row])

section

variable (py : PyCase)

/-- What the handler reads of an alert for its row. -/
def incidentRow (alert : Json) : Except String IncidentRow := do
  let status ← pyGet alert "status" (.str "firing")
  let labels ← pyGet alert "labels" (.obj [])
  let annotations ← pyGet alert "annotations" (.obj [])
  let severity ← pyGet labels "severity" (.str "warning")
  let alertName ← pyGet labels "alertname" (.str "Unknown")
  let resolved := pyIsText status "resolved"
  let status ← pyStrFor status "upper"
  let summary ← pyGet annotations "summary" (.str "")
  let desc ← pyGet annotations "description" summary
  return {
    eventType := if resolved then "alert_resolved" else "alert_fired"
    severity := if resolved then .str "info" else severity
    title := "[" ++ py.upper status ++ "] " ++ alertName.pyStr
    description := desc
    source := "prometheus"
    alertName
    status
    metadata := .obj [("labels", labels), ("annotations", annotations)] }

/-! ## The handler -/

/-- The loop that records, from alert `k` on: the table, and how many alerts it went through. -/
def recordAlerts (db : Nat → DbOutcome) :
    List Json → Nat → List IncidentRow → List IncidentRow × Except String Nat
  | [], _, table => (table, .ok 0)
  | alert :: alerts, k, table =>
    match incidentRow py alert with
    | .error e => (table, .error e)
    | .ok row =>
      match recordAlerts db alerts (k + 1) (insertIncidentEvent (db k) row table).2 with
      | (table, .error e) => (table, .error e)
      | (table, .ok recorded) => (table, .ok (1 + recorded))

inductive WebhookResponse
  | ok (forwarded recorded : Nat)
  | badRequest (detail : String)
  /-- An exception that the handler does not catch. -/
  | serverError (e : String)

/-- What a request does: its answer, the rows it has inserted, and the alerter. -/
structure WebhookResult where
  response : WebhookResponse
  inserted : List IncidentRow
  alerter : Alerter

/-- `alerts` in the handler. -/
def webhookAlerts (payload : Json) : Except String (List Json) := do
  let alerts ← pyGet payload "alerts" (.arr [])
  pyIter alerts

/-- `alertmanager_webhook`. `body` is what `request.json()` returns, `none` if it raises. -/
def alertmanagerWebhook (db : Nat → DbOutcome) (attempts : Nat → Attempt) (body : Option Json)
    (w : Alerter) :
    WebhookResult :=
  match body with
  | none => ⟨.badRequest "JSON body required", [], w⟩
  | some payload =>
    match webhookAlerts payload with
    | .error e => ⟨.serverError e, [], w⟩
    | .ok alerts =>
      match recordAlerts py db alerts 0 [] with
      | (inserted, .error e) => ⟨.serverError e, inserted, w⟩
      | (inserted, .ok recorded) =>
        match w.sendAlertmanagerAlerts attempts payload with
        | (w, .error e) => ⟨.serverError e, inserted, w⟩
        | (w, .ok forwarded) => ⟨.ok forwarded recorded, inserted, w⟩

end

/-! ## The two loops -/

section Record

variable {py : PyCase} {db : Nat → DbOutcome} {alerts : List Json} {k : Nat}
  {table : List IncidentRow}

/-- The alerts before the first that raises. -/
def recordable (py : PyCase) (alerts : List Json) : List Json :=
  alerts.takeWhile fun alert => (incidentRow py alert).isOk

/-- Every alert can be recorded. -/
def Recordable (py : PyCase) (alerts : List Json) : Prop :=
  ∀ alert ∈ alerts, ∃ row, incidentRow py alert = .ok row

theorem insertIncidentEvent_table (outcome : DbOutcome) (row : IncidentRow) :
    (insertIncidentEvent outcome row table).2 = table ++ if outcome.stored then [row] else [] := by
  cases outcome with
  | failed => exact (List.append_nil table).symm
  | _ => rfl

/-- What the loop stores: of the rows of the alerts it went through, those whose insert stored
one. -/
theorem recordAlerts_table : ∃ rows all, (recordAlerts py db alerts k table).1 = table ++ rows ∧
    rows.length = (List.range' k (recordable py alerts).length).countP (fun j => (db j).stored) ∧
    List.Forall₂ (fun alert row => incidentRow py alert = .ok row) (recordable py alerts) all ∧
    rows.Sublist all := by
  induction alerts generalizing k table with
  | nil => exact ⟨[], [], (List.append_nil table).symm, rfl, .nil, .slnil⟩
  | cons alert alerts ih =>
    cases hrow : incidentRow py alert with
    | error e =>
      have hnone : recordable py (alert :: alerts) = [] := by
        simp [recordable, hrow, Except.isOk, Except.toBool]
      rw [hnone]
      refine ⟨[], [], ?_, rfl, .nil, .slnil⟩
      simp only [recordAlerts, hrow, List.append_nil]
    | ok row =>
      have hsome : recordable py (alert :: alerts) = alert :: recordable py alerts := by
        simp [recordable, hrow, Except.isOk, Except.toBool]
      obtain ⟨rows, all, htable, hcount, hall, hsub⟩ :=
        @ih (k + 1) (insertIncidentEvent (db k) row table).2
      rw [hsome]
      refine ⟨(if (db k).stored then [row] else []) ++ rows, row :: all, ?_, ?_,
        .cons hrow hall, ?_⟩
      · have hsame : (recordAlerts py db (alert :: alerts) k table).1 =
            (recordAlerts py db alerts (k + 1) (insertIncidentEvent (db k) row table).2).1 := by
          simp only [recordAlerts, hrow]
          split
          all_goals
            rename_i h
            rw [h]
        rw [hsame, htable, insertIncidentEvent_table, List.append_assoc]
      · rw [List.length_cons, List.range'_succ, List.countP_cons, List.length_append, hcount]
        by_cases hstored : (db k).stored = true
        · simp only [hstored, if_true, List.length_singleton]
          omega
        · simp only [hstored, Bool.false_eq_true, if_false, List.length_nil]
          omega
      · cases (db k).stored with
        | true => exact hsub.cons_cons row
        | false => exact hsub.cons row

theorem recordAlerts_result :
    (recordAlerts py db alerts k table).2 = .ok alerts.length ∧ Recordable py alerts ∨
      (∃ e, (recordAlerts py db alerts k table).2 = .error e) ∧ ¬ Recordable py alerts := by
  induction alerts generalizing k table with
  | nil => exact .inl ⟨rfl, fun _ h => absurd h List.not_mem_nil⟩
  | cons alert alerts ih =>
    unfold Recordable
    rw [List.forall_mem_cons]
    cases hrow : incidentRow py alert with
    | error e =>
      refine .inr ⟨⟨e, by simp only [recordAlerts, hrow]⟩, fun h => ?_⟩
      obtain ⟨row, h⟩ := h.1
      cases h
    | ok row =>
      have hloop := @ih (k + 1) (insertIncidentEvent (db k) row table).2
      cases hrest : recordAlerts py db alerts (k + 1) (insertIncidentEvent (db k) row table).2 with
      | mk table' result =>
        rw [hrest] at hloop
        rcases hloop with ⟨hok, hall⟩ | ⟨⟨e, herror⟩, hno⟩
        · obtain rfl : result = .ok alerts.length := hok
          refine .inl ⟨?_, ⟨row, rfl⟩, hall⟩
          simp only [recordAlerts, hrow, hrest, List.length_cons, Nat.add_comm]
        · obtain rfl : result = .error e := herror
          exact .inr ⟨⟨e, by simp only [recordAlerts, hrow, hrest]⟩, fun h => hno h.2⟩

theorem recordable_of_all (h : Recordable py alerts) : recordable py alerts = alerts := by
  refine List.takeWhile_eq_self_iff.2 fun alert halert => ?_
  obtain ⟨row, hrow⟩ := h alert halert
  rw [hrow]
  rfl

end Record

section Send

variable {w : Alerter} {attempts : Nat → Attempt} {payload x : Json} {alerts : List Json}

/-- What is not true has no turns. -/
theorem pyIter_of_falsy (h : pyIter x = .ok alerts) (hfalsy : pyTruthy x = false) :
    alerts = [] := by
  cases x with
  | arr l =>
    cases h
    simpa [pyTruthy] using hfalsy
  | obj fields =>
    cases h
    simpa [pyTruthy] using hfalsy
  | str s =>
    cases h
    have hempty : s = "" := by simpa [pyTruthy] using hfalsy
    rw [hempty]
    rfl
  | _ => cases h

/-- The sender comes to its end: every alert can be formatted, and no refusal has a body that cannot
be decoded. -/
def Sendable (attempts : Nat → Attempt) (alerts : List Json) (w : Alerter) : Prop :=
  w.webhookUrl = "" ∨ (∀ alert ∈ alerts, ∃ embed, alertEmbed alert = .ok embed) ∧
    ∀ j < batchCount alerts, (attempts j).outcome ≠ .httpError none

/-- The alerts in the accepted ones of these POSTs. -/
def acceptedAlerts (posts : List WebhookPost) : Nat :=
  ((posts.filter (·.accepted)).map fun post => post.embeds.length).sum

theorem sendBatches_cases (embeds : List Json) :
    (∃ posts, (w.sendBatches attempts (TableDef.chunked 10 embeds) 0).1.posts = w.posts ++ posts ∧
        (w.sendBatches attempts (TableDef.chunked 10 embeds) 0).2 = .ok (acceptedAlerts posts)) ∧
        (∀ j < batchCount embeds, (attempts j).outcome ≠ .httpError none) ∨
      (∃ e, (w.sendBatches attempts (TableDef.chunked 10 embeds) 0).2 = .error e) ∧
        ¬ ∀ j < batchCount embeds, (attempts j).outcome ≠ .httpError none := by
  have hrange : (∀ j ∈ List.range' 0 (TableDef.chunked 10 embeds).length, (attempts j).outcome ≠
      .httpError none) ↔
      ∀ j < batchCount embeds, (attempts j).outcome ≠ .httpError none := by
    rw [chunked_length, ← List.range_eq_range']
    simp only [List.mem_range, batchCount]
  by_cases h : ∀ j < batchCount embeds, (attempts j).outcome ≠ .httpError none
  · obtain ⟨posts, sent, hposts, hsent, hposted⟩ :
        ∃ posts sent,
          (w.sendBatches attempts (TableDef.chunked 10 embeds) 0).1.posts = w.posts ++ posts ∧
          (w.sendBatches attempts (TableDef.chunked 10 embeds) 0).2 = .ok sent ∧
          PostedBatches attempts (TableDef.chunked 10 embeds) 0 posts sent :=
            sendBatches_posted (hrange.2 h)
    exact .inl ⟨⟨posts, hposts, hsent.trans (congrArg Except.ok hposted.sent)⟩, h⟩
  · refine .inr ⟨?_, h⟩
    cases hresult : (w.sendBatches attempts (TableDef.chunked 10 embeds) 0).2 with
    | error e => exact ⟨e, rfl⟩
    | ok n => exact absurd (hrange.1 (decodable_of_sendBatches hresult)) h

theorem sendAlertmanagerAlerts_cases (h : webhookAlerts payload = .ok alerts) :
    (∃ posts, (w.sendAlertmanagerAlerts attempts payload).1.posts = w.posts ++ posts ∧
        (w.sendAlertmanagerAlerts attempts payload).2 = .ok (acceptedAlerts posts)) ∧
        Sendable attempts alerts w ∨
      (∃ e, (w.sendAlertmanagerAlerts attempts payload).2 = .error e) ∧
        ¬ Sendable attempts alerts w := by
  obtain ⟨x, hx, hiter⟩ := bind_ok.1 h
  unfold Sendable
  by_cases hdisabled : w.webhookUrl = ""
  · rw [send_disabled hdisabled]
    exact .inl ⟨⟨[], (List.append_nil _).symm, rfl⟩, .inl hdisabled⟩
  simp only [hdisabled, false_or]
  cases htruthy : pyTruthy x with
  | false =>
    obtain rfl := pyIter_of_falsy hiter htruthy
    rw [send_nothing hdisabled hx htruthy]
    refine .inl ⟨⟨[], (List.append_nil _).symm, rfl⟩, fun _ h => absurd h List.not_mem_nil, ?_⟩
    intro j hj
    exact absurd hj (Nat.not_lt_zero j)
  | true =>
    have hmap : alertEmbeds x = alerts.mapM alertEmbed := by
      unfold alertEmbeds
      rw [hiter]
      rfl
    rw [← mapM_returns]
    cases hembeds : alerts.mapM alertEmbed with
    | error e =>
      rw [send_unformatted hdisabled hx htruthy (hmap.trans hembeds)]
      exact .inr ⟨⟨e, rfl⟩, by simp⟩
    | ok embeds =>
      rw [send_embeds hdisabled hx htruthy (hmap.trans hembeds)]
      have hlength : batchCount embeds = batchCount alerts := by
        unfold batchCount
        rw [(mapM_ok.1 hembeds).length_eq]
      rw [← hlength]
      rcases sendBatches_cases embeds with ⟨hsent, h⟩ | ⟨hraised, h⟩
      · exact .inl ⟨hsent, ⟨embeds, rfl⟩, h⟩
      · exact .inr ⟨hraised, fun hboth => h hboth.2⟩

end Send

/-! ## The answer -/

section Answer

variable (py : PyCase) (db : Nat → DbOutcome) (attempts : Nat → Attempt) (body : Option Json)
  (w : Alerter)

/-- The alerts whose inserts are tried. -/
def triedAlerts : List Json :=
  match body with
  | none => []
  | some payload =>
    match webhookAlerts payload with
    | .error _ => []
    | .ok alerts => recordable py alerts

/-- The handler comes to its end: the body is JSON with a list of alerts, which can all be recorded
and sent. -/
def Handled : Prop :=
  ∃ payload alerts, body = some payload ∧ webhookAlerts payload = .ok alerts ∧
    Recordable py alerts ∧
    Sendable attempts alerts w

/-- The answer counts the rows that the request has inserted, at most one for each alert, and the
alerts in accepted batches; or it is an error, and there are no rows. -/
def Reported (r : WebhookResult) : Prop :=
  (∃ posts rows, r.alerter.posts = w.posts ++ posts ∧
      r.response = .ok (acceptedAlerts posts) r.inserted.length ∧
      List.Forall₂ (fun alert row => incidentRow py alert = .ok row) (triedAlerts py body) rows ∧
      r.inserted.Sublist rows) ∨
    (∀ forwarded recorded, r.response ≠ .ok forwarded recorded) ∧ r.inserted = []

end Answer

section Report

variable {py : PyCase} {db : Nat → DbOutcome} {attempts : Nat → Attempt} {body : Option Json}
  {w : Alerter} {payload : Json} {alerts : List Json}

theorem triedAlerts_of (h : webhookAlerts payload = .ok alerts) :
    triedAlerts py (some payload) = recordable py alerts := by
  simp only [triedAlerts, h]

theorem handled_of (h : webhookAlerts payload = .ok alerts) :
    Handled py attempts (some payload) w ↔ Recordable py alerts ∧ Sendable attempts alerts w := by
  constructor
  · rintro ⟨payload', alerts', hbody, halerts', hrest⟩
    obtain rfl := Option.some.inj hbody
    obtain rfl := Except.ok.inj (h.symm.trans halerts')
    exact hrest
  · rintro ⟨hrecordable, hsendable⟩
    exact ⟨payload, alerts, rfl, h, hrecordable, hsendable⟩

/-- An answer that is an error reports truly if there are no rows. -/
theorem reported_error {r : WebhookResult}
    (h : ∀ forwarded recorded, r.response ≠ .ok forwarded recorded) :
    Reported py body w r ↔ r.inserted = [] := by
  constructor
  · rintro (⟨posts, rows, -, hok, -⟩ | ⟨-, hnone⟩)
    · exact absurd hok (h _ _)
    · exact hnone
  · intro hnone
    exact .inr ⟨h, hnone⟩

theorem handler_unrecorded {rows : List IncidentRow} {e : String}
    (halerts : webhookAlerts payload = .ok alerts)
    (hrecord : recordAlerts py db alerts 0 [] = (rows, .error e)) :
    alertmanagerWebhook py db attempts (some payload) w = ⟨.serverError e, rows, w⟩ := by
  simp only [alertmanagerWebhook, halerts, hrecord]

theorem handler_unsent {rows : List IncidentRow} {n : Nat} {w' : Alerter} {e : String}
    (halerts : webhookAlerts payload = .ok alerts)
    (hrecord : recordAlerts py db alerts 0 [] = (rows, .ok n))
    (hsend : w.sendAlertmanagerAlerts attempts payload = (w', .error e)) :
    alertmanagerWebhook py db attempts (some payload) w = ⟨.serverError e, rows, w'⟩ := by
  simp only [alertmanagerWebhook, halerts, hrecord, hsend]

theorem handler_done {rows : List IncidentRow} {n sent : Nat} {w' : Alerter}
    (halerts : webhookAlerts payload = .ok alerts)
    (hrecord : recordAlerts py db alerts 0 [] = (rows, .ok n))
    (hsend : w.sendAlertmanagerAlerts attempts payload = (w', .ok sent)) :
    alertmanagerWebhook py db attempts (some payload) w = ⟨.ok sent n, rows, w'⟩ := by
  simp only [alertmanagerWebhook, halerts, hrecord, hsend]

/-- A body that holds no list of alerts is answered with an error, and nothing is done. -/
theorem handler_unread (h : ∀ payload alerts, body = some payload →
    webhookAlerts payload ≠ .ok alerts) :
    triedAlerts py body = [] ∧ ¬ Handled py attempts body w ∧
      Reported py body w (alertmanagerWebhook py db attempts body w) := by
  refine ⟨?_, fun ⟨payload, alerts, hbody, halerts, _⟩ => h payload alerts hbody halerts, ?_⟩
  · cases body with
    | none => rfl
    | some payload =>
      cases halerts : webhookAlerts payload with
      | error e => simp only [triedAlerts, halerts]
      | ok alerts => exact absurd halerts (h payload alerts rfl)
  · cases body with
    | none => exact .inr ⟨fun forwarded recorded hok => (nomatch hok), rfl⟩
    | some payload =>
      cases halerts : webhookAlerts payload with
      | error e =>
        simp only [alertmanagerWebhook, halerts]
        exact .inr ⟨fun forwarded recorded hok => (nomatch hok), rfl⟩
      | ok alerts => exact absurd halerts (h payload alerts rfl)

/-- How many inserts stored a row. -/
def storedCount (db : Nat → DbOutcome) (n : Nat) : Nat :=
  (List.range' 0 n).countP fun k => (db k).stored

theorem storedCount_eq_all {n : Nat} : storedCount db n = n ↔ ∀ k < n, (db k).stored = true := by
  unfold storedCount
  have hlength : (List.range' 0 n).length = n := List.length_range'
  rw [← List.range_eq_range'] at hlength ⊢
  conv => lhs; rhs; rw [← hlength]
  rw [List.countP_eq_length]
  simp only [List.mem_range]

theorem storedCount_eq_zero {n : Nat} : storedCount db n = 0 ↔ ∀ k < n, (db k).stored = false := by
  unfold storedCount
  rw [← List.range_eq_range', List.countP_eq_zero]
  simp only [List.mem_range, Bool.not_eq_true]

end Report

/-- **The answer reports what was done** exactly if every insert stores its row in a request that
comes to its end, or none does in one that does not. -/
theorem reported_iff (py : PyCase) (db : Nat → DbOutcome) (attempts : Nat → Attempt)
    (body : Option Json) (w : Alerter) :
    Reported py body w (alertmanagerWebhook py db attempts body w) ↔
      Handled py attempts body w ∧ (∀ k < (triedAlerts py body).length, (db k).stored = true) ∨
        ¬ Handled py attempts body w ∧ ∀ k < (triedAlerts py body).length,
          (db k).stored = false := by
  by_cases hread : ∃ payload alerts, body = some payload ∧ webhookAlerts payload = .ok alerts
  · obtain ⟨payload, alerts, rfl, halerts⟩ := hread
    rw [handled_of halerts, triedAlerts_of halerts, ← storedCount_eq_all, ← storedCount_eq_zero]
    obtain ⟨rows, all, htable, hcount, hall, hsub⟩ := @recordAlerts_table py db alerts 0 []
    have hcount : rows.length = storedCount db (recordable py alerts).length := hcount
    have hrows : rows = [] ↔ storedCount db (recordable py alerts).length = 0 := by
      rw [← hcount, List.length_eq_zero_iff]
    rcases @recordAlerts_result py db alerts 0 [] with ⟨hok, hrecordable⟩ | ⟨⟨e, herror⟩, hno⟩
    · have hrecord : recordAlerts py db alerts 0 [] = (rows, .ok alerts.length) :=
        Prod.ext htable hok
      rcases @sendAlertmanagerAlerts_cases w attempts payload alerts halerts with
        ⟨⟨posts, hposts, hsent⟩, hsendable⟩ | ⟨⟨e, herror⟩, hno⟩
      · rw [handler_done halerts hrecord (Prod.ext rfl hsent)]
        rw [recordable_of_all hrecordable] at hcount hall ⊢
        simp only [hrecordable, hsendable, and_self, true_and, not_true_eq_false,
          false_and, or_false]
        constructor
        · rintro (⟨posts', rows', -, hresponse, -⟩ | ⟨hresponse, -⟩)
          · obtain ⟨-, hrecorded⟩ := WebhookResponse.ok.inj hresponse
            exact hcount.symm.trans hrecorded.symm
          · exact absurd rfl (hresponse _ _)
        · intro hstored
          have hlength : alerts.length = rows.length := (hcount.trans hstored).symm
          refine .inl ⟨posts, all, hposts, by rw [hlength], ?_, hsub⟩
          rw [triedAlerts_of halerts, recordable_of_all hrecordable]
          exact hall
      · rw [handler_unsent halerts hrecord (Prod.ext rfl herror)]
        refine (reported_error fun _ _ h => WebhookResponse.noConfusion h).trans ?_
        simp [hno, hrows]
    · have hrecord : recordAlerts py db alerts 0 [] = (rows, .error e) := Prod.ext htable herror
      rw [handler_unrecorded halerts hrecord]
      refine (reported_error fun _ _ h => WebhookResponse.noConfusion h).trans ?_
      simp [hno, hrows]
  · obtain ⟨htried, hunhandled, hreported⟩ := @handler_unread py db attempts body w
      fun payload alerts hbody halerts => hread ⟨payload, alerts, hbody, halerts⟩
    refine iff_of_true hreported (.inr ⟨hunhandled, fun k hk => ?_⟩)
    rw [htried] at hk
    exact absurd hk (Nat.not_lt_zero k)

/-! ## One alert -/

/-- The database is down, and Discord is not: the answer counts a row that does not exist. -/
theorem failed_insert_counted :
    ¬ Reported samplePyCase (some (.obj (samplePayload [sampleAlert]))) sampleAlerter
    (alertmanagerWebhook samplePyCase (fun _ => .failed) (fun _ => atOnce .accepted)
      (some (.obj (samplePayload [sampleAlert]))) sampleAlerter) := by
  rintro (⟨posts, rows, -, hresponse, -⟩ | ⟨hresponse, -⟩)
  · obtain ⟨-, hrecorded⟩ := WebhookResponse.ok.inj hresponse
    cases hrecorded
  · exact hresponse 1 1 rfl

end PeHackathon.Dashboard
